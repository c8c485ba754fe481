import HotReload.Proofs.Sharing

/-! # What is recorded where

A recorder lists a specialization under the base of its name, and once.
-/

namespace HotReload

open Managed (Process)

namespace Specializations

theorem nodup_addOnce {cs : List ClassId} (h : cs.Nodup) (c : ClassId) : (addOnce c cs).Nodup := by
  unfold addOnce
  split
  · exact h
  · rename_i hc
    exact List.nodup_append.2 ⟨h, List.pairwise_singleton _ c, fun d hd e he heq =>
      hc (List.mem_singleton.1 he ▸ heq ▸ hd)⟩

end Specializations

namespace Managed

/-- Every list of a recorder holds descriptors of its base, each once. -/
def Filed (w : Process) : Prop :=
  ∀ s ∈ w.recorders, ∀ base, (s.under base).Nodup ∧
    ∀ c ∈ s.under base, ∃ k, w.image.class? c = some k ∧ k.info.base = base

namespace Filed

variable {w : Process}

theorem withImage (h : Filed w) {image : ManagedImage}
    (hclasses : ∀ c k, w.image.class? c = some k →
      ∃ l, image.class? c = some l ∧ l.info = k.info) : Filed { w with image } := by
  intro s hs base
  refine ⟨(h s hs base).1, fun c hc => ?_⟩
  obtain ⟨k, hk, hbase⟩ := (h s hs base).2 c hc
  obtain ⟨l, hl, hinfo⟩ := hclasses c k hk
  exact ⟨l, hl, by rw [hinfo, hbase]⟩

theorem grow (h : Filed w) {image : ManagedImage}
    (hgrown : w.image.classes <+: image.classes) : Filed { w with image } := by
  obtain ⟨more, hmore⟩ := hgrown
  refine h.withImage fun c k hk => ⟨k, ?_, rfl⟩
  rw [ManagedImage.class?, ← hmore]
  exact ManagedImage.class?_append hk

theorem record (h : Filed w) {c : ClassId} {k : LinkedClass} (hk : w.image.class? c = some k)
    (r : RecorderId) : Filed (w.record r c k.info.name) := by
  intro s hs base
  rcases World.mem_recorders_record hs with hs | ⟨t, ht, rfl⟩
  · exact h s hs base
  · rw [Specializations.under_record]
    split
    · rename_i hbase
      refine ⟨Specializations.nodup_addOnce (h t ht base).1 c, fun d hd => ?_⟩
      rcases Specializations.mem_addOnce hd with rfl | hd
      · exact ⟨k, hk, hbase.symm⟩
      · exact (h t ht base).2 d hd
    · exact h t ht base

end Filed

theorem filed_held : Held fun w w' => Filed w → Filed w' where
  refl _ h := h
  trans h h' hw := h' (h hw)
  setField w o name v h := by
    unfold World.setField
    split <;> exact h
  write _ _ h := h
  count _ _ h := h
  specialize := by
    intro w definition arguments c w' hs h
    rcases specialize_cases hs with rfl | ⟨k, _, _, rfl | ⟨r, rfl⟩⟩
    · exact h
    · exact h.grow (List.prefix_append _ _)
    · have hcopy : (w.image.addClass (k.specialized (TypeName.specialized definition
          arguments))).class? ⟨w.image.classes.length⟩ = some (k.specialized _) :=
        List.getElem?_concat_length
      exact (h.grow (List.prefix_append _ _)).record hcopy r
  load := by
    intro w m id w' hl h
    rw [load_eq hl]
    exact h.grow (List.prefix_append _ _)
  create := by
    intro w c o w' hc h
    obtain ⟨i, _, rfl⟩ := create_eq hc
    exact h
  staged _ _ h := h
  observed _ _ h := h
  named _ _ h := h
  recorders w h s hs := by
    rcases Array.mem_push.1 hs with hs | rfl
    · exact h s hs
    · exact fun _ => ⟨List.nodup_nil, fun c hc => absurd hc List.not_mem_nil⟩
  confined := by
    intro w D image hc h
    refine h.withImage fun c k hk => ?_
    have hinfo := hc.class_info c
    rw [hk] at hinfo
    exact Option.map_eq_some_iff.1 hinfo

theorem Step.filed {w w' : Process} (hs : Step w w') : Filed w → Filed w' :=
  hs.keeps filed_held fun w image hr h => h.withImage fun c k hk =>
    ⟨k, by rwa [ManagedImage.class?, hr.classes], rfl⟩

theorem Started.filed {w : Process} (h : Started w) : Filed w := by
  induction h with
  | empty w _ hrecorders =>
    intro s hs base
    rw [hrecorders s hs]
    exact ⟨List.nodup_nil, fun c hc => absurd hc List.not_mem_nil⟩
  | step _ hs ih => exact hs.filed ih

theorem Filed.under (h : Filed w) (recorder : RecorderId) (base : String) :
    ((w.recorded recorder).under base).Nodup ∧
      ∀ c ∈ (w.recorded recorder).under base, ∃ k, w.image.class? c = some k ∧
        k.info.base = base := by
  unfold World.recorded
  cases hs : w.recorders[recorder.index]? with
  | none => exact ⟨List.nodup_nil, fun c hc => absurd hc List.not_mem_nil⟩
  | some s => exact h s (Array.mem_of_getElem? hs) base

end Managed

end HotReload
