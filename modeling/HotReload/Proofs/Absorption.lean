import HotReload.Proofs.CallSites

/-! # Taking a module in

The table of newest implementations changes at the names that the module exports as patchable code
and nowhere else. Afterwards the call sites of the module agree with the whole table, and those of
every other module agree with it at the exported names.
-/

namespace HotReload

namespace Interposition

theorem lookup_put (name other : String) (i : Implementation)
    (es : List (String × Implementation)) :
    (put name i es).lookup other = if name = other then some i else es.lookup other := by
  induction es with
  | nil =>
    by_cases h : name = other
    · simp [put, h]
    · have hb : (other == name) = false := by simpa using Ne.symm h
      simp [put, List.lookup_cons, hb, h]
  | cons e es ih =>
    obtain ⟨n, j⟩ := e
    by_cases hn : n = name <;> by_cases ho : other = n <;>
      simp_all [put, List.lookup_cons] <;> grind

theorem names_put (name : String) (i : Implementation) (es : List (String × Implementation)) :
    (put name i es).map (·.1) =
      if name ∈ es.map (·.1) then es.map (·.1) else es.map (·.1) ++ [name] := by
  induction es with
  | nil => simp [put]
  | cons e es ih =>
    by_cases hn : e.1 = name
    · simp [put, hn]
    · simp only [put, if_neg hn, List.map_cons, ih, List.mem_cons, Ne.symm hn, false_or]
      split <;> rfl

def Distinct (t : Interposition) : Prop := (t.entries.map (·.1)).Nodup

theorem distinct_put {t : Interposition} (h : Distinct t) (name : String) (i : Implementation) :
    Distinct ⟨put name i t.entries⟩ := by
  simp only [Distinct, names_put]
  split
  · exact h
  · rename_i hn
    refine List.nodup_append.2 ⟨h, by simp, fun a ha b hb e => hn ?_⟩
    rwa [← List.mem_singleton.1 hb, ← e]

theorem distinct_record {t : Interposition} (h : Distinct t) (name : String)
    (i : Implementation) : Distinct (t.record name i).2 := by
  unfold record
  split
  · exact distinct_put h name i
  · split
    · exact h
    · exact distinct_put h name i

theorem entry?_record_of_ne (t : Interposition) {name other : String} (h : name ≠ other)
    (i : Implementation) : entry? (t.record name i).2 other = t.entry? other := by
  unfold record
  split
  · simp only [lookup_put, entry?, if_neg h]
  · split
    · rfl
    · simp only [lookup_put, entry?, if_neg h]

/-- A record leaves the entry of a later module and otherwise becomes the entry. -/
theorem entry?_record_self (t : Interposition) (name : String) (i : Implementation) :
    entry? (t.record name i).2 name =
      some ((Option.filter (fun old => i.sequence < old.sequence) ( entry? t name)).getD i) := by
  unfold record
  split
  · rename_i h
    simp [lookup_put, entry?, show t.entries.lookup name = none from h]
  · rename_i old h
    by_cases hs : i.sequence < old.sequence
    · rw [if_pos hs, h]
      simp [Option.filter, hs]
    · rw [if_neg hs, h]
      simp [Option.filter, hs, entry?, lookup_put]

def recordOne (m : ModuleId) (sequence : Nat) (acc : List Rebinding × Interposition)
    (s : Symbol) : List Rebinding × Interposition :=
  let t := (acc.2.record s.name ⟨s.address, m, sequence⟩).2
  match t.address? s.name with
  | some a => (acc.1 ++ [⟨s.name, a⟩], t)
  | none => (acc.1, t)

theorem recordExports_eq (preserve : Bool) (m : ModuleId) (sequence : Nat)
    (exports : List Symbol) (t : Interposition) :
    recordExports preserve m sequence exports t =
      (exports.filter (·.kind.patchable preserve)).foldl (recordOne m sequence) ([], t) := rfl

theorem recordOne_snd (m : ModuleId) (sequence : Nat) (acc : List Rebinding × Interposition)
    (s : Symbol) :
    (recordOne m sequence acc s).2 = (acc.2.record s.name ⟨s.address, m, sequence⟩).2 := by
  simp only [recordOne]
  split <;> rfl

theorem recordOne_fst (m : ModuleId) (sequence : Nat) (acc : List Rebinding × Interposition)
    (s : Symbol) :
    ∃ a, (recordOne m sequence acc s).2.address? s.name = some a ∧
      (recordOne m sequence acc s).1 = acc.1 ++ [⟨s.name, a⟩] := by
  have he := entry?_record_self acc.2 s.name ⟨s.address, m, sequence⟩
  obtain ⟨i, hi⟩ : ∃ i, entry? (acc.2.record s.name ⟨s.address, m, sequence⟩).2 s.name = some i :=
    ⟨_, he⟩
  have ha : (acc.2.record s.name ⟨s.address, m, sequence⟩).2.address? s.name = some i.address := by
    simp [address?, hi]
  exact ⟨i.address, by rw [recordOne_snd, ha], by simp only [recordOne, ha]⟩

theorem distinct_recordEach (m : ModuleId) (sequence : Nat) (ss : List Symbol)
    (acc : List Rebinding × Interposition) (h : Distinct acc.2) :
    Distinct (ss.foldl (recordOne m sequence) acc).2 := by
  induction ss generalizing acc with
  | nil => exact h
  | cons s ss ih =>
    apply ih
    rw [recordOne_snd]
    exact distinct_record h _ _

/-- A name that is not recorded keeps its entry, and the batch does not redirect it. -/
theorem recordEach_of_forall_ne (m : ModuleId) (sequence : Nat) (name : String) (ss : List Symbol)
    (acc : List Rebinding × Interposition) (h : ∀ s ∈ ss, s.name ≠ name) :
    entry? (ss.foldl (recordOne m sequence) acc).2 name = entry? acc.2 name ∧
      ∀ a, Rebinding.target (ss.foldl (recordOne m sequence) acc).1 name a =
        Rebinding.target acc.1 name a := by
  induction ss generalizing acc with
  | nil => exact ⟨rfl, fun _ => rfl⟩
  | cons s ss ih =>
    have hs : s.name ≠ name := h s List.mem_cons_self
    obtain ⟨he, ht⟩ := ih (recordOne m sequence acc s) fun r hr => h r (List.mem_cons_of_mem s hr)
    obtain ⟨b, _, hb⟩ := recordOne_fst m sequence acc s
    refine ⟨?_, fun a => ?_⟩
    · rw [List.foldl_cons, he, recordOne_snd, entry?_record_of_ne _ hs]
    · rw [List.foldl_cons, ht, hb, Rebinding.target_append]
      simp [Rebinding.target, hs]

/-- A name that is recorded is redirected to where its entry is in the end. -/
theorem recordEach_of_mem (m : ModuleId) (sequence : Nat) (name : String) (ss : List Symbol)
    (acc : List Rebinding × Interposition) (h : ∃ s ∈ ss, s.name = name) (a : Address) :
    (ss.foldl (recordOne m sequence) acc).2.address? name =
      some (Rebinding.target (ss.foldl (recordOne m sequence) acc).1 name a) := by
  induction ss generalizing acc with
  | nil => simp at h
  | cons s ss ih =>
    rw [List.foldl_cons]
    by_cases hr : ∃ r ∈ ss, r.name = name
    · exact ih _ hr
    · have hs : s.name = name := by
        obtain ⟨r, hr', hn⟩ := h
        cases List.mem_cons.1 hr' with
        | inl e => exact e ▸ hn
        | inr hm => exact absurd ⟨r, hm, hn⟩ hr
      obtain ⟨he, ht⟩ := recordEach_of_forall_ne m sequence name ss (recordOne m sequence acc s)
        fun r hm hn => hr ⟨r, hm, hn⟩
      obtain ⟨b, hb, hf⟩ := recordOne_fst m sequence acc s
      rw [address?, he, ht, hf, Rebinding.target_append, ← address?, ← hs, hb]
      simp [Rebinding.target]

/-- Replaying a table leads every call site to the entry of its name. -/
theorem target_rebindings {t : Interposition} (h : Distinct t) (name : String) (a : Address) :
    Rebinding.target t.rebindings name a = (t.address? name).getD a := by
  obtain ⟨es⟩ := t
  simp only [rebindings, address?, entry?]
  induction es generalizing a with
  | nil => rfl
  | cons e es ih =>
    obtain ⟨n, i⟩ := e
    obtain ⟨hn, hes⟩ := List.nodup_cons.1 h
    have hcons : Rebinding.target (((n, i) :: es).map fun e => ⟨e.1, e.2.address⟩) name a =
        Rebinding.target (es.map fun e => ⟨e.1, e.2.address⟩) name
          (if n = name then i.address else a) := rfl
    rw [hcons, ih _ hes]
    by_cases hname : n = name
    · subst hname
      have hnone : es.lookup n = none := by
        rw [List.lookup_eq_none_iff]
        intro p hp
        simpa using fun e : n = p.1 => hn (List.mem_map.2 ⟨p, hp, e.symm⟩)
      simp [hnone]
    · have hb : (name == n) = false := by simpa using Ne.symm hname
      simp [List.lookup_cons, hname, hb]

/-- The module exports the name as code that may be redirected. -/
def Provides (preserve : Bool) (image : ManagedImage) (m : ModuleId) (name : String) : Prop :=
  ∃ s ∈ CodeImage.exports image m, s.kind.patchable preserve = true ∧ s.name = name

theorem recordExports_of_not_provides {preserve : Bool} {image : ManagedImage} {m : ModuleId}
    {name : String} (h : ¬Provides preserve image m name) (sequence : Nat) (t : Interposition) :
    entry? (recordExports preserve m sequence (CodeImage.exports image m) t).2 name =
        t.entry? name ∧
      ∀ a, Rebinding.target
        (recordExports preserve m sequence (CodeImage.exports image m) t).1 name a = a := by
  rw [recordExports_eq]
  exact recordEach_of_forall_ne m sequence name _ ([], t) fun s hs hn =>
    h ⟨s, (List.mem_filter.1 hs).1, (List.mem_filter.1 hs).2, hn⟩

theorem recordExports_of_provides {preserve : Bool} {image : ManagedImage} {m : ModuleId}
    {name : String} (h : Provides preserve image m name) (sequence : Nat) (t : Interposition)
    (a : Address) :
    (recordExports preserve m sequence (CodeImage.exports image m) t).2.address? name =
      some (Rebinding.target
        (recordExports preserve m sequence (CodeImage.exports image m) t).1 name a) := by
  obtain ⟨s, hs, hk, hn⟩ := h
  rw [recordExports_eq]
  exact recordEach_of_mem m sequence name _ _ ⟨s, List.mem_filter.2 ⟨hs, hk⟩, hn⟩ a

section EmptyBatch

variable {ι : Type} [CodeImage ι]
  (hnil : ∀ (image : ι) (m : ModuleId), CodeImage.rebind image m [] = ([], image))

include hnil

theorem rebindAll_nil (ms : List ModuleId) (image : ι) : rebindAll [] ms image = ([], image) := by
  induction ms with
  | nil => rfl
  | cons m ms ih =>
    rw [rebindAll, List.foldl_cons]
    simpa only [hnil, List.append_nil, rebindAll] using ih

/-- What taking a module in comes to: an empty batch redirects nothing anyway. -/
theorem absorb_eq (t : Interposition) (preserve : Bool) {image : ι} {m : ModuleId} {sequence : Nat}
    (hs : CodeImage.sequence? image m = some sequence) :
    let recorded := recordExports preserve m sequence (CodeImage.exports image m) t
    let elsewhere := rebindAll recorded.1 ((CodeImage.modules image).filter (· != m)) image
    let here := CodeImage.rebind elsewhere.2 m recorded.2.rebindings
    t.absorb preserve image m = .ok ⟨recorded.2, here.2, sortedNames (elsewhere.1 ++ here.1)⟩ := by
  simp only [absorb, hs]
  generalize recordExports preserve m sequence (CodeImage.exports image m) t = recorded
  by_cases hempty : recorded.1.isEmpty = true
  · rw [if_pos hempty, List.isEmpty_iff.1 hempty, rebindAll_nil hnil]
  · rw [if_neg hempty]

end EmptyBatch

def rebindStep (batch : List Rebinding) (acc : List String × ManagedImage) (m : ModuleId) :
    List String × ManagedImage :=
  (acc.1 ++ (CodeImage.rebind acc.2 m batch).1, (CodeImage.rebind acc.2 m batch).2)

theorem rebindEach_rebound (batch : List Rebinding) (ms : List ModuleId)
    (acc : List String × ManagedImage) :
    acc.2.Rebound (ms.foldl (rebindStep batch) acc).2 := by
  induction ms generalizing acc with
  | nil => exact ManagedImage.Rebound.refl _
  | cons m ms ih =>
    exact (ManagedImage.rebind_rebound acc.2 m batch).trans (ih (rebindStep batch acc m))

theorem callSite?_rebindEach (batch : List Rebinding) (ms : List ModuleId)
    (acc : List String × ManagedImage) (other : ModuleId) (name : String) :
    CodeImage.callSite? (ms.foldl (rebindStep batch) acc).2 other name =
      if other ∈ ms then (CodeImage.callSite? acc.2 other name).map (Rebinding.target batch name)
      else CodeImage.callSite? acc.2 other name := by
  induction ms generalizing acc with
  | nil => simp
  | cons m ms ih =>
    have hstep : CodeImage.callSite? (rebindStep batch acc m).2 other name =
        if other = m then (CodeImage.callSite? acc.2 other name).map (Rebinding.target batch name)
        else CodeImage.callSite? acc.2 other name :=
      ManagedImage.callSite?_rebind acc.2 m other batch name
    rw [List.foldl_cons, ih, hstep]
    by_cases hm : other = m
    · subst hm
      cases CodeImage.callSite? acc.2 other name <;> simp [Rebinding.target_target]
    · simp [hm]

theorem mem_moduleIds_of_callSite? {image : ManagedImage} {m : ModuleId} {name : String}
    {a : Address} (h : CodeImage.callSite? image m name = some a) : m ∈ image.moduleIds := by
  obtain ⟨k, hk, _⟩ := Option.bind_eq_some_iff.1 h
  obtain ⟨n⟩ := m
  cases n with
  | zero => simp [ManagedImage.module?] at hk
  | succ n =>
    have hn : n < image.modules.length := (List.getElem?_eq_some_iff.1 hk).1
    exact List.mem_map.2 ⟨n, List.mem_range.2 hn, rfl⟩

variable {preserve : Bool} {image : ManagedImage} {m : ModuleId} {t : Interposition}
  {done : Absorbed ManagedImage}

/-- What taking a module in amounts to: a new table, the batch in the other modules, and the whole
table in the module itself. -/
theorem absorb_cases (h : t.absorb preserve image m = .ok done) :
    ∃ sequence batch, CodeImage.sequence? image m = some sequence ∧
      (batch, done.table) =
        recordExports preserve m sequence (CodeImage.exports image m) t ∧
      done.image = (CodeImage.rebind ((image.moduleIds.filter (· != m)).foldl (rebindStep batch)
        ([], image)).2 m done.table.rebindings).2 := by
  cases hs : CodeImage.sequence? image m with
  | none => simp [absorb, hs] at h
  | some sequence =>
    rw [absorb_eq (fun _ _ => rfl) t preserve hs, Except.ok.injEq] at h
    subst h
    exact ⟨sequence, _, rfl, rfl, rfl⟩

theorem absorb_isOk (t : Interposition) (preserve : Bool) {sequence : Nat}
    (h : CodeImage.sequence? image m = some sequence) :
    ∃ done, t.absorb preserve image m = .ok done := by
  simp [absorb, h]

theorem absorb_distinct (hd : t.Distinct) (h : t.absorb preserve image m = .ok done) :
    done.table.Distinct := by
  obtain ⟨sequence, batch, _, hr, _⟩ := absorb_cases h
  have ht : done.table = (recordExports preserve m sequence (CodeImage.exports image m) t).2 :=
    congrArg Prod.snd hr
  rw [ht, recordExports_eq]
  exact distinct_recordEach m sequence _ ([], t) hd

theorem absorb_rebound (h : t.absorb preserve image m = .ok done) : image.Rebound done.image := by
  obtain ⟨sequence, batch, _, _, hi⟩ := absorb_cases h
  rw [hi]
  exact (rebindEach_rebound batch _ ([], image)).trans (ManagedImage.rebind_rebound _ _ _)

theorem entry?_absorb_of_not_provides (h : t.absorb preserve image m = .ok done) {name : String}
    (hn : ¬Provides preserve image m name) : entry? done.table name = t.entry? name := by
  obtain ⟨sequence, batch, _, hr, _⟩ := absorb_cases h
  have ht : done.table = (recordExports preserve m sequence (CodeImage.exports image m) t).2 :=
    congrArg Prod.snd hr
  rw [ht]
  exact (recordExports_of_not_provides hn sequence t).1

/-- The module that was taken in agrees with the whole table. -/
theorem callSite?_absorb_self (hd : t.Distinct) (h : t.absorb preserve image m = .ok done)
    (name : String) :
    CodeImage.callSite? done.image m name =
      (CodeImage.callSite? image m name).map fun a => (done.table.address? name).getD a := by
  have hdone := absorb_distinct hd h
  obtain ⟨sequence, batch, _, _, hi⟩ := absorb_cases h
  have hm : m ∉ image.moduleIds.filter (· != m) := by simp
  have ht : Rebinding.target done.table.rebindings name =
      fun a => (done.table.address? name).getD a := funext (target_rebindings hdone name)
  rw [hi, ManagedImage.callSite?_rebind, if_pos rfl, callSite?_rebindEach, if_neg hm, ht]

/-- Every other module follows the batch. -/
theorem callSite?_absorb_of_ne (h : t.absorb preserve image m = .ok done) {other : ModuleId}
    (hne : other ≠ m) :
    ∃ batch sequence,
      (batch, done.table) = recordExports preserve m sequence (CodeImage.exports image m) t ∧
      ∀ name, CodeImage.callSite? done.image other name =
        (CodeImage.callSite? image other name).map (Rebinding.target batch name) := by
  obtain ⟨sequence, batch, _, hr, hi⟩ := absorb_cases h
  refine ⟨batch, sequence, hr, fun name => ?_⟩
  rw [hi, ManagedImage.callSite?_rebind, if_neg hne, callSite?_rebindEach]
  split
  · rfl
  · rename_i hn
    cases hs : CodeImage.callSite? image other name with
    | none => rfl
    | some a =>
      exact absurd (List.mem_filter.2 ⟨mem_moduleIds_of_callSite? hs, by simpa using hne⟩) hn

theorem callSite?_absorb_of_provides (h : t.absorb preserve image m = .ok done)
    {other : ModuleId} (hne : other ≠ m) {name : String} (hn : Provides preserve image m name) :
    CodeImage.callSite? done.image other name =
      (CodeImage.callSite? image other name).map fun a => (done.table.address? name).getD a := by
  obtain ⟨batch, sequence, hr, hs⟩ := callSite?_absorb_of_ne h hne
  have hb : batch = (recordExports preserve m sequence (CodeImage.exports image m) t).1 :=
    congrArg Prod.fst hr
  have ht : done.table = (recordExports preserve m sequence (CodeImage.exports image m) t).2 :=
    congrArg Prod.snd hr
  have hf : Rebinding.target batch name = fun a => (done.table.address? name).getD a := by
    funext a
    rw [ht, recordExports_of_provides hn sequence t a, hb]
    rfl
  rw [hs, hf]

theorem callSite?_absorb_of_not_provides (h : t.absorb preserve image m = .ok done)
    {other : ModuleId} (hne : other ≠ m) {name : String} (hn : ¬Provides preserve image m name) :
    CodeImage.callSite? done.image other name = CodeImage.callSite? image other name := by
  obtain ⟨batch, sequence, hr, hs⟩ := callSite?_absorb_of_ne h hne
  have hb : batch = (recordExports preserve m sequence (CodeImage.exports image m) t).1 :=
    congrArg Prod.fst hr
  have hf : Rebinding.target batch name = id := by
    funext a
    rw [hb]
    exact (recordExports_of_not_provides hn sequence t).2 a
  rw [hs, hf, Option.map_id_fun, id]

end Interposition

end HotReload
