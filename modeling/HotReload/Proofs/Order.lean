import HotReload.Proofs.Coherence
import HotReload.Proofs.Newest

/-! # Modules in any order

Taking loaded modules into an empty table leaves a table and call sites that depend on which modules
were taken in, and neither on the order nor on how often. A module that comes late does not displace
what a later module has provided.
-/

namespace HotReload

theorem ManagedImage.module?_of_mem_modules {image : ManagedImage} {m : ModuleId}
    (h : m ∈ CodeImage.modules image) : ∃ k, image.module? m = some k := by
  obtain ⟨n, hn, rfl⟩ := List.mem_map.1 h
  exact module?_isSome (Nat.succ_pos n) (List.mem_range.1 hn)

namespace Interposition

def absorbAll {ι : Type} [CodeImage ι] (preserve : Bool) :
    List ModuleId → Interposition → ι → Except Failure (Interposition × ι)
  | [], t, image => .ok (t, image)
  | m :: ms, t, image =>
    match t.absorb preserve image m with
    | .error e => .error e
    | .ok done => absorbAll preserve ms done.table done.image

/-- The last patchable export of a name in the latest of the modules that have one. -/
structure LatestIn (preserve : Bool) (image : ManagedImage) (ms : List ModuleId) (name : String)
    (i : Implementation) : Prop where
  mem : i.module ∈ ms
  sequence : CodeImage.sequence? image i.module = some i.sequence
  exported : ∃ k s, image.module? i.module = some k ∧ k.patchable? preserve name = some s ∧
    s.address = i.address
  latest : ∀ m ∈ ms, Provides preserve image m name →
    ∀ n, CodeImage.sequence? image m = some n → n ≤ i.sequence

/-- The newest implementation that the modules have for a name, if one of them has any. -/
def NewestIn (preserve : Bool) (image : ManagedImage) (ms : List ModuleId) (name : String) :
    Option Implementation → Prop
  | none => ∀ m ∈ ms, ¬Provides preserve image m name
  | some i => LatestIn preserve image ms name i

variable {preserve : Bool} {image : ManagedImage} {m : ModuleId} {k : LinkedModule}
  {ms ns : List ModuleId} {name : String}

theorem sequence?_eq_some {n : Nat} :
    CodeImage.sequence? image m = some n ↔ (image.module? m).isSome = true ∧ m.number = n := by
  cases h : image.module? m <;> simp [CodeImage.sequence?, h]

theorem provides_iff (hk : image.module? m = some k) :
    Provides preserve image m name ↔ (k.patchable? preserve name).isSome = true := by
  simp [Provides, CodeImage.exports, hk, LinkedModule.patchable?]

theorem LatestIn.provides {i : Implementation} (h : LatestIn preserve image ms name i) :
    Provides preserve image i.module name := by
  obtain ⟨k, s, hk, hs, _⟩ := h.exported
  rw [provides_iff hk, hs]
  rfl

theorem LatestIn.unique {i j : Implementation} (h : LatestIn preserve image ms name i)
    (h' : LatestIn preserve image ms name j) : i = j := by
  have hle := h'.latest _ h.mem h.provides _ h.sequence
  have hge := h.latest _ h'.mem h'.provides _ h'.sequence
  have hsequence : i.sequence = j.sequence := Nat.le_antisymm hle hge
  have hmodule : i.module = j.module := by
    have hi := (sequence?_eq_some.1 h.sequence).2
    have hj := (sequence?_eq_some.1 h'.sequence).2
    rw [ModuleId.mk.injEq, hi, hj, hsequence]
  obtain ⟨k, s, hk, hs, ha⟩ := h.exported
  obtain ⟨k', s', hk', hs', ha'⟩ := h'.exported
  rw [hmodule, hk'] at hk
  obtain rfl := Option.some.inj hk
  obtain rfl := Option.some.inj (hs.symm.trans hs')
  rw [Implementation.mk.injEq]
  exact ⟨ha.symm.trans ha', hmodule, hsequence⟩

theorem NewestIn.unique {i j : Option Implementation} (h : NewestIn preserve image ms name i)
    (h' : NewestIn preserve image ms name j) : i = j := by
  cases i with
  | none =>
    cases j with
    | none => rfl
    | some j => exact absurd h'.provides (h _ h'.mem)
  | some i =>
    cases j with
    | none => exact absurd h.provides (h' _ h.mem)
    | some j => rw [LatestIn.unique h h']

/-- Which modules there are counts, and neither their order nor how often they occur. -/
theorem NewestIn.of_mem_iff {i : Option Implementation} (h : NewestIn preserve image ms name i)
    (hsame : ∀ m, m ∈ ms ↔ m ∈ ns) : NewestIn preserve image ns name i := by
  cases i with
  | none => exact fun m hm => h m ((hsame m).2 hm)
  | some i =>
    exact ⟨(hsame _).1 h.mem, h.sequence, h.exported, fun m hm => h.latest m ((hsame m).2 hm)⟩

/-- Recording symbols leaves the entry of a later module. -/
theorem entry?_recordEach_of_lt (m : ModuleId) {sequence : Nat} {old : Implementation}
    (hlt : sequence < old.sequence) (ss : List Symbol) (acc : List Rebinding × Interposition)
    (h : entry? acc.2 name = some old) :
    entry? (ss.foldl (recordOne m sequence) acc).2 name = some old := by
  induction ss generalizing acc with
  | nil => exact h
  | cons s ss ih =>
    apply ih
    rw [recordOne_snd]
    by_cases hs : s.name = name
    · subst hs
      rw [entry?_record_self, h]
      simp [Option.filter, hlt]
    · rw [entry?_record_of_ne _ hs, h]

theorem LatestIn.cons {i : Implementation} (h : LatestIn preserve image ms name i)
    (hle : Provides preserve image m name → m.number ≤ i.sequence) :
    LatestIn preserve image (m :: ms) name i where
  mem := List.mem_cons_of_mem m h.mem
  sequence := h.sequence
  exported := h.exported
  latest := by
    intro m' hm' hp n hn
    rcases List.mem_cons.1 hm' with rfl | hm'
    · obtain ⟨_, rfl⟩ := sequence?_eq_some.1 hn
      exact hle hp
    · exact h.latest m' hm' hp n hn

variable {t : Interposition} {after : ManagedImage} {done : Absorbed ManagedImage}

theorem table_absorb (hr : image.Rebound after) (hk : image.module? m = some k)
    (h : t.absorb preserve after m = .ok done) :
    done.table = ((k.exports.filter (·.kind.patchable preserve)).foldl (recordOne m m.number)
      ([], t)).2 := by
  obtain ⟨sequence, batch, hs, hbatch, _⟩ := absorb_cases h
  obtain ⟨_, rfl⟩ := sequence?_eq_some.1 hs
  have hexports : CodeImage.exports image m = k.exports := by simp [CodeImage.exports, hk]
  rw [recordExports_eq, hr.exports, hexports] at hbatch
  exact congrArg Prod.snd hbatch

/-- A module that is taken in displaces what is not of a later module. -/
theorem NewestIn.absorb (h : NewestIn preserve image ms name (t.entry? name))
    (hr : image.Rebound after) (hk : image.module? m = some k)
    (hdone : t.absorb preserve after m = .ok done) :
    NewestIn preserve image (m :: ms) name ( entry? done.table name) := by
  by_cases hlater : ∃ old, t.entry? name = some old ∧ m.number < old.sequence
  · obtain ⟨old, hold, hlt⟩ := hlater
    rw [hold] at h
    rw [table_absorb hr hk hdone, entry?_recordEach_of_lt m hlt _ _ hold]
    exact LatestIn.cons h fun _ => Nat.le_of_lt hlt
  · have hle : ∀ i, t.entry? name = some i → i.sequence ≤ m.number :=
      fun i hi => Nat.not_lt.1 fun hlt => hlater ⟨i, hi, hlt⟩
    rw [table_absorb hr hk hdone, entry?_recordEach _ _ _ _ _ hle, LinkedModule.find?_patchable]
    cases hs : k.patchable? preserve name with
    | none =>
      have hnot : ¬Provides preserve image m name := by simp [provides_iff hk, hs]
      cases hold : t.entry? name with
      | none =>
        rw [hold] at h
        exact List.forall_mem_cons.2 ⟨hnot, h⟩
      | some old =>
        rw [hold] at h
        exact LatestIn.cons h fun hp => absurd hp hnot
    | some s =>
      refine ⟨List.mem_cons_self, sequence?_eq_some.2 ⟨by rw [hk]; rfl, rfl⟩,
        ⟨k, s, hk, hs, rfl⟩, fun m' hm' hp n hn => ?_⟩
      rcases List.mem_cons.1 hm' with rfl | hm'
      · exact Nat.le_of_eq (sequence?_eq_some.1 hn).2.symm
      · cases hold : t.entry? name with
        | none =>
          rw [hold] at h
          exact absurd hp (h m' hm')
        | some old =>
          rw [hold] at h
          exact Nat.le_trans (h.latest m' hm' hp n hn) (hle old hold)

theorem NewestIn.entry?_eq_none_of_absorb (h : NewestIn preserve image ms name (t.entry? name))
    (hr : image.Rebound after) (hk : image.module? m = some k)
    (hdone : t.absorb preserve after m = .ok done) (hnone : entry? done.table name = none) :
    t.entry? name = none := by
  have habsorbed := h.absorb hr hk hdone
  rw [hnone] at habsorbed
  cases hold : t.entry? name with
  | none => rfl
  | some old =>
    rw [hold] at h
    exact absurd h.provides (habsorbed _ (List.mem_cons_of_mem m h.mem))

/-- What there is once modules have been taken into an empty table: entries and call sites lead to
the newest implementations among these modules. -/
structure TakenIn (preserve : Bool) (image : ManagedImage) (ms : List ModuleId) (t : Interposition)
    (after : ManagedImage) : Prop where
  distinct : t.Distinct
  rebound : image.Rebound after
  entries : ∀ name, NewestIn preserve image ms name (t.entry? name)
  callSites : ∀ m name, CodeImage.callSite? after m name =
    (CodeImage.callSite? image m name).map fun a => (t.address? name).getD a

namespace TakenIn

theorem start (preserve : Bool) (image : ManagedImage) : TakenIn preserve image [] {} image where
  distinct := List.nodup_nil
  rebound := ManagedImage.Rebound.refl image
  entries _ m hm := absurd hm List.not_mem_nil
  callSites m name := by simp [address?, entry?]

/-- The table and the call sites agree on every module, whatever module is taken in. -/
theorem absorb (h : TakenIn preserve image ms t after) (hk : image.module? m = some k)
    (hdone : t.absorb preserve after m = .ok done) :
    TakenIn preserve image (m :: ms) done.table done.image where
  distinct := absorb_distinct h.distinct hdone
  rebound := h.rebound.trans (absorb_rebound hdone)
  entries name := (h.entries name).absorb h.rebound hk hdone
  callSites := by
    intro other name
    -- A name that had an entry has one afterwards, and the call site follows it.
    have hgetD (a : Address) : ( address? done.table name).getD ((t.address? name).getD a) =
        ( address? done.table name).getD a := by
      cases hnew : entry? done.table name with
      | some i => simp [address?, hnew]
      | none =>
        have hnone := (h.entries name).entry?_eq_none_of_absorb h.rebound hk hdone hnew
        simp [address?, hnone]
    by_cases hm : other = m
    · subst hm
      rw [callSite?_absorb_self h.distinct hdone, h.callSites, Option.map_map]
      simp only [Function.comp_def, hgetD]
    · by_cases hp : Provides preserve after m name
      · rw [callSite?_absorb_of_provides hdone hm hp, h.callSites, Option.map_map]
        simp only [Function.comp_def, hgetD]
      · rw [callSite?_absorb_of_not_provides hdone hm hp, h.callSites]
        simp only [address?, entry?_absorb_of_not_provides hdone hp]

theorem absorbAll (h : TakenIn preserve image ms t after)
    (hloaded : ∀ m ∈ ns, m ∈ CodeImage.modules image) : ∃ t' last,
      Interposition.absorbAll preserve ns t after = .ok (t', last) ∧
        TakenIn preserve image (ns.reverse ++ ms) t' last := by
  induction ns generalizing ms t after with
  | nil => exact ⟨t, after, rfl, h⟩
  | cons m ns ih =>
    obtain ⟨k, hk⟩ := ManagedImage.module?_of_mem_modules (hloaded m List.mem_cons_self)
    obtain ⟨l, hl⟩ := h.rebound.module?_isSome hk
    obtain ⟨done, hdone⟩ := absorb_isOk t preserve (sequence?_eq_some.2 ⟨by rw [hl]; rfl, rfl⟩)
    obtain ⟨t', last, hrest, htaken⟩ :=
      ih (h.absorb hk hdone) fun m' hm' => hloaded m' (List.mem_cons_of_mem m hm')
    refine ⟨t', last, by simp only [Interposition.absorbAll, hdone, hrest], ?_⟩
    rw [List.reverse_cons, List.append_assoc]
    exact htaken

end TakenIn

/-- Whatever loaded modules are taken into an empty table, in whatever order and however often, the
table and the call sites end up at the newest implementations that these modules have. -/
theorem absorbAll_eq (preserve : Bool) (hloaded : ∀ m ∈ ms, m ∈ CodeImage.modules image)
    (hsame : ∀ m, m ∈ ms ↔ m ∈ ns) : ∃ t t' after after',
      absorbAll preserve ms {} image = .ok (t, after) ∧
      absorbAll preserve ns {} image = .ok (t', after') ∧
      (∀ name, t.entry? name = t'.entry? name ∧ NewestIn preserve image ms name (t.entry? name)) ∧
      ∀ m name,
        CodeImage.callSite? after m name = CodeImage.callSite? after' m name ∧
        CodeImage.callSite? after m name =
          (CodeImage.callSite? image m name).map fun a => (t.address? name).getD a := by
  have hstart := TakenIn.start preserve image
  obtain ⟨t, after, hrun, h⟩ := hstart.absorbAll hloaded
  have hloaded' (m : ModuleId) (hm : m ∈ ns) : m ∈ CodeImage.modules image :=
    hloaded m ((hsame m).2 hm)
  obtain ⟨t', after', hrun', h'⟩ := hstart.absorbAll hloaded'
  have hnewest (name : String) : NewestIn preserve image ms name (t.entry? name) :=
    (h.entries name).of_mem_iff fun m => by simp
  have hentry (name : String) : t.entry? name = t'.entry? name :=
    (hnewest name).unique ((h'.entries name).of_mem_iff fun m => by simp [hsame])
  refine ⟨t, t', after, after', hrun, hrun', fun name => ⟨hentry name, hnewest name⟩,
    fun m name => ⟨?_, h.callSites m name⟩⟩
  rw [h.callSites, h'.callSites]
  simp only [address?, hentry]

/-- Two versions of a function, and the older module taken in again. -/
theorem absorbAll_redefined : ∃ t t' after after',
    absorbAll false [⟨1⟩, ⟨2⟩] {} Run.redefined.image = .ok (t, after) ∧
    absorbAll false [⟨2⟩, ⟨1⟩, ⟨2⟩, ⟨1⟩] {} Run.redefined.image = .ok (t', after') ∧
    t'.entry? "area" = some ⟨⟨0x1010⟩, ⟨2⟩, 2⟩ ∧
    CodeImage.callSite? Run.redefined.image ⟨1⟩ "area" = some ⟨0x1000⟩ ∧
    CodeImage.callSite? after' ⟨1⟩ "area" = some ⟨0x1010⟩ := by
  have hloaded : ∀ m ∈ ([⟨1⟩, ⟨2⟩] : List ModuleId), m ∈ CodeImage.modules Run.redefined.image := by
    decide
  have hsame (m : ModuleId) : m ∈ [⟨1⟩, ⟨2⟩] ↔ m ∈ [⟨2⟩, ⟨1⟩, ⟨2⟩, ⟨1⟩] := by grind
  obtain ⟨t, t', after, after', hrun, hrun', hentries, hsites⟩ := absorbAll_eq false hloaded hsame
  have hbefore : CodeImage.callSite? Run.redefined.image ⟨1⟩ "area" = some ⟨0x1000⟩ := by decide
  have hentry : t.entry? "area" = some ⟨⟨0x1010⟩, ⟨2⟩, 2⟩ := by
    obtain ⟨rfl, _⟩ := Prod.mk.inj (Except.ok.inj hrun)
    decide
  refine ⟨t, t', after, after', hrun, hrun', ?_, hbefore, ?_⟩
  · rw [← (hentries "area").1, hentry]
  · rw [← (hsites ⟨1⟩ "area").1, (hsites ⟨1⟩ "area").2, hbefore, address?, hentry]
    rfl

end Interposition

end HotReload
