import HotReload.Proofs.Linking

/-! # Valid processes

In a valid process the image is linked, and what is recorded are specializations: descriptors that
exist and that no module registered. Running code, the commands of a host and reloads keep a
process valid.
-/

namespace HotReload

namespace Specializations

theorem mem_addOnce {c d : ClassId} {cs : List ClassId} (h : d ∈ addOnce c cs) :
    d = c ∨ d ∈ cs := by
  unfold addOnce at h
  split at h
  · exact .inr h
  · simpa [or_comm] using h

theorem lookup_add (base : String) (c : ClassId) (es : List (String × List ClassId))
    (other : String) : ((add base c es).lookup other).getD [] =
      if other = base then addOnce c ((es.lookup other).getD [])
      else (es.lookup other).getD [] := by
  induction es with
  | nil =>
    by_cases h : other = base
    · simp [add, h, addOnce]
    · simp [add, List.lookup_cons, beq_false_of_ne h, h]
  | cons e es ih =>
    obtain ⟨name, cs⟩ := e
    rw [add]
    by_cases hname : name = base
    · subst hname
      by_cases h : other = name
      · simp [h]
      · simp [List.lookup_cons, beq_false_of_ne h, h]
    · rw [if_neg hname]
      by_cases h : other = name
      · simp [h, hname]
      · simp [List.lookup_cons, beq_false_of_ne h, ih]

theorem under_record (s : Specializations) (c : ClassId) (name base : String) :
    (s.record c name).under base =
      if base = TypeName.base name then addOnce c (s.under base) else s.under base :=
  lookup_add (TypeName.base name) c s.byBase base

theorem mem_under_record {s : Specializations} {c d : ClassId} {name base : String}
    (h : d ∈ (s.record c name).under base) : d = c ∨ d ∈ s.under base := by
  rw [under_record] at h
  split at h
  · exact mem_addOnce h
  · exact .inr h

end Specializations

theorem World.mem_recorders_record {ι : Type} {w : World ι} {r : RecorderId} {c : ClassId}
    {name : String} {s : Specializations} (h : s ∈ (w.record r c name).recorders) :
    s ∈ w.recorders ∨ ∃ t ∈ w.recorders, s = t.record c name := by
  obtain ⟨i, hi, rfl⟩ := Array.mem_iff_getElem.1 h
  simp only [World.record, Array.getElem_modify]
  have hw : i < w.recorders.size := by simpa [World.record] using hi
  split
  · exact .inr ⟨_, Array.getElem_mem hw, rfl⟩
  · exact .inl (Array.getElem_mem hw)

namespace Managed

structure Valid (w : Process) : Prop where
  linked : w.image.Linked
  recorded : ∀ s ∈ w.recorders, ∀ base, ∀ c ∈ s.under base,
    c.index < w.image.classes.length ∧ ∀ m, c ∉ CodeImage.classesIn w.image m

namespace Valid

variable {w : Process}

theorem of_empty {hasHook : Bool} {staged : List (Path × ModuleSpec Body)}
    (himage : w.image = { ManagedImage.empty hasHook with staged })
    (hrecorders : ∀ s ∈ w.recorders, s = {}) : Valid w where
  linked := by
    rw [himage]
    exact (ManagedImage.linked_empty hasHook).of_unbound rfl rfl fun c l hl => ⟨l, hl, rfl⟩
  recorded := by
    intro s hs base c hc
    rw [hrecorders s hs] at hc
    exact absurd hc List.not_mem_nil

/-- Another image around the same records, in which no older descriptor changes its module. -/
theorem withImage (h : Valid w) {image : ManagedImage} (hlinked : image.Linked)
    (hlength : w.image.classes.length ≤ image.classes.length)
    (hclasses : ∀ m c, c ∈ CodeImage.classesIn image m → c.index < w.image.classes.length →
      c ∈ CodeImage.classesIn w.image m) : Valid { w with image } where
  linked := hlinked
  recorded := by
    intro s hs base c hc
    obtain ⟨hi, hm⟩ := h.recorded s hs base c hc
    exact ⟨Nat.lt_of_lt_of_le hi hlength, fun m hin => hm m (hclasses m c hin hi)⟩

theorem confined (h : Valid w) {D : ClassId → Prop} {image : ManagedImage}
    (hc : w.image.Confined D image) : Valid { w with image } := by
  refine h.withImage (h.linked.of_confined hc) (Nat.le_of_eq hc.length.symm) ?_
  intro m c hin _
  rwa [hc.classesIn] at hin

theorem rebound (h : Valid w) {image : ManagedImage} (hr : w.image.Rebound image) :
    Valid { w with image } := by
  refine h.withImage (h.linked.of_rebound hr) (Nat.le_of_eq (by rw [hr.classes])) ?_
  intro m c hin _
  rwa [hr.classesIn] at hin

theorem mem_classesIn_lt (h : Valid w) {m : ModuleId} {c : ClassId}
    (hc : c ∈ CodeImage.classesIn w.image m) : c.index < w.image.classes.length := by
  obtain ⟨l, hl, _⟩ := h.linked.exists_class? hc
  exact (List.getElem?_eq_some_iff.1 hl).1

theorem link (h : Valid w) (m : ModuleSpec Body) :
    Valid { w with image := (w.image.link m).2 } := by
  refine h.withImage (h.linked.link m) ?_ ?_
  · exact (List.prefix_append _ _).length_le
  · intro id c hin hlt
    obtain ⟨k, hk, hc⟩ := ManagedImage.mem_classesIn.1 hin
    rcases w.image.module?_link m hk with hk | ⟨rfl, rfl⟩
    · exact ManagedImage.mem_classesIn.2 ⟨k, hk, hc⟩
    · have hle := w.image.index_of_mem_linked m hc
      omega

theorem addClass (h : Valid w) (k : LinkedClass) :
    Valid { w with image := w.image.addClass k } := by
  refine h.withImage (h.linked.addClass k) ?_ fun m c hin _ => hin
  exact (List.prefix_append _ _).length_le

theorem record (h : Valid w) {c : ClassId} (hlt : c.index < w.image.classes.length)
    (hm : ∀ m, c ∉ CodeImage.classesIn w.image m) (r : RecorderId) (name : String) :
    Valid (w.record r c name) where
  linked := h.linked
  recorded := by
    intro s hs base d hd
    rcases World.mem_recorders_record hs with hs | ⟨t, ht, rfl⟩
    · exact h.recorded s hs base d hd
    · rcases Specializations.mem_under_record hd with rfl | hd
      · exact ⟨hlt, hm⟩
      · exact h.recorded t ht base d hd

/-- What is recorded exists, and no module registered it. -/
theorem class?_of_recorded (h : Valid w) {recorder : RecorderId} {base : String} {c : ClassId}
    (hc : c ∈ (w.recorded recorder).under base) :
    (∃ k, w.image.class? c = some k) ∧ ∀ m, c ∉ CodeImage.classesIn w.image m := by
  unfold World.recorded at hc
  cases hs : w.recorders[recorder.index]? with
  | none =>
    rw [hs] at hc
    exact absurd hc List.not_mem_nil
  | some s =>
    rw [hs] at hc
    obtain ⟨hlt, hm⟩ := h.recorded s (Array.mem_of_getElem? hs) base c hc
    exact ⟨⟨_, List.getElem?_eq_getElem hlt⟩, hm⟩

/-- A descriptor that a module registered is not patched as a specialization. -/
theorem not_isSpecialization (h : Valid w) (r : Reloader) {m id : ModuleId} {c : ClassId}
    (hc : c ∈ CodeImage.classesIn w.image id) : ¬IsSpecialization w.image (r.rules w) m c := by
  rintro ⟨_, _, _, info, _, _, hin⟩
  change c ∈ (w.recorded r.tracker.recorder).under info.base at hin
  exact (h.class?_of_recorded hin).2 id hc

end Valid

theorem valid_held : Held fun w w' => Valid w → Valid w' where
  refl _ h := h
  trans h h' hv := h' (h hv)
  setField w o name v h := by
    unfold World.setField
    split <;> exact ⟨h.linked, h.recorded⟩
  write w e h := ⟨h.linked, h.recorded⟩
  count w key h := ⟨h.linked, h.recorded⟩
  specialize := by
    intro w definition arguments c w' hs h
    rcases specialize_cases hs with rfl | ⟨k, _, _, rfl | ⟨r, rfl⟩⟩
    · exact h
    · exact h.addClass _
    · refine (h.addClass _).record ?_ ?_ r _
      · simp [ManagedImage.addClass]
      · intro m hm
        exact absurd (h.mem_classesIn_lt hm) (Nat.lt_irrefl _)
  load := by
    intro w m id w' hl h
    rw [load_eq hl]
    exact h.link m
  create := by
    intro w c o w' hc h
    obtain ⟨i, _, rfl⟩ := create_eq hc
    exact ⟨h.linked, h.recorded⟩
  staged w s h := h.withImage (h.linked.of_unbound rfl rfl fun c l hl => ⟨l, hl, rfl⟩)
    (Nat.le_refl _) fun m c hin _ => hin
  observed w r h := h.withImage (h.linked.of_unbound rfl rfl fun c l hl => ⟨l, hl, rfl⟩)
    (Nat.le_refl _) fun m c hin _ => hin
  named w names h := ⟨h.linked, h.recorded⟩
  recorders w h := by
    refine ⟨h.linked, fun s hs => ?_⟩
    rcases Array.mem_push.1 hs with hs | rfl
    · exact h.recorded s hs
    · intro base c hc
      exact absurd hc List.not_mem_nil
  confined hc h := h.confined hc

end Managed

end HotReload
