import HotReload.Proofs.Commands

/-! # What stays

Modules and descriptors are only ever added. What is there stays as it is, except for what a host
or a reload writes into call sites and tables.
-/

namespace HotReload.Managed

/-- Modules that are loaded stay as they are. -/
def Grows (w w' : Process) : Prop := w.image.modules <+: w'.image.modules

theorem grows_held : Held Grows where
  refl _ := List.prefix_refl _
  trans h h' := h.trans h'
  setField w o name v := by
    unfold Grows World.setField
    split <;> exact List.prefix_refl _
  write _ _ := List.prefix_refl _
  count _ _ := List.prefix_refl _
  specialize h := by
    rcases specialize_cases h with rfl | ⟨k, _, _, rfl | ⟨r, rfl⟩⟩ <;> exact List.prefix_refl _
  load h := by
    rw [load_eq h]
    exact List.prefix_append _ _
  create h := by
    obtain ⟨i, _, rfl⟩ := create_eq h
    exact List.prefix_refl _
  staged _ _ := List.prefix_refl _
  observed _ _ := List.prefix_refl _
  named _ _ := List.prefix_refl _
  recorders _ := List.prefix_refl _
  confined h := by
    simp [Grows, h.modules]

/-- Modules that are loaded stay, whatever becomes of their call sites. -/
def Extends (w w' : Process) : Prop :=
  w.image.modules.map (·.unbound) <+: w'.image.modules.map (·.unbound)

theorem extends_held : Held Extends where
  refl _ := List.prefix_refl _
  trans h h' := h.trans h'
  setField w o name v := (grows_held.setField w o name v).map _
  write _ _ := List.prefix_refl _
  count _ _ := List.prefix_refl _
  specialize h := (grows_held.specialize h).map _
  load h := (grows_held.load h).map _
  create h := (grows_held.create h).map _
  staged _ _ := List.prefix_refl _
  observed _ _ := List.prefix_refl _
  named _ _ := List.prefix_refl _
  recorders _ := List.prefix_refl _
  confined h := (grows_held.confined h).map _

theorem extends_rebound (w : Process) (image : ManagedImage) (h : w.image.Rebound image) :
    Extends w { w with image } := by
  simp [Extends, h.unbound]

/-- Where no module is added, the modules are the same up to their call sites. -/
theorem Extends.unbound_eq {w w' : Process} (h : Extends w w')
    (hle : w'.image.modules.length ≤ w.image.modules.length) :
    w'.image.modules.map (·.unbound) = w.image.modules.map (·.unbound) := by
  refine (h.eq_of_length_le ?_).symm
  rwa [List.length_map, List.length_map]

/-- Descriptors that are registered stay as they are. -/
def Registers (w w' : Process) : Prop := w.image.classes <+: w'.image.classes

theorem registers_kept : Kept Registers where
  refl _ := List.prefix_refl _
  trans h h' := h.trans h'
  setField w o name v := by
    unfold Registers World.setField
    split <;> exact List.prefix_refl _
  write _ _ := List.prefix_refl _
  count _ _ := List.prefix_refl _
  specialize h := by
    rcases specialize_cases h with rfl | ⟨k, _, _, rfl | ⟨r, rfl⟩⟩
    · exact List.prefix_refl _
    · exact List.prefix_append _ _
    · exact List.prefix_append _ _
  load h := by
    rw [load_eq h]
    exact List.prefix_append _ _
  create h := by
    obtain ⟨i, _, rfl⟩ := create_eq h
    exact List.prefix_refl _

theorem Registers.class? {w w' : Process} (h : Registers w w') {c : ClassId} {k : LinkedClass}
    (hk : w.image.class? c = some k) : w'.image.class? c = some k := by
  obtain ⟨more, hm⟩ := h
  have hlt : c.index < w.image.classes.length := (List.getElem?_eq_some_iff.1 hk).1
  rw [ManagedImage.class?, ← hm, List.getElem?_append_left hlt]
  exact hk

end HotReload.Managed
