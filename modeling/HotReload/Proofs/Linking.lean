import HotReload.Proofs.Commands

/-! # Linked images

In an image that modules were linked into one after another, every symbol has an address of its
own, a symbol knows the module that exports it, and a descriptor the module that registered it.
Nothing that a process does afterwards changes this.
-/

namespace HotReload

/-- A search from the end finds the last element of its kind. -/
theorem find?_reverse_eq_some_iff {α : Type} {p : α → Bool} {l : List α} {a : α} :
    l.reverse.find? p = some a ↔
      p a = true ∧ ∃ before after, l = before ++ a :: after ∧ ∀ x ∈ after, ¬p x = true := by
  rw [List.find?_eq_some_iff_append]
  refine and_congr_right fun _ => ⟨?_, ?_⟩
  · rintro ⟨after, before, hsplit, hafter⟩
    refine ⟨before.reverse, after.reverse, ?_, fun x hx => ?_⟩
    · rw [← List.reverse_reverse l, hsplit]
      simp
    · simpa using hafter x (List.mem_reverse.1 hx)
  · rintro ⟨before, after, rfl, hafter⟩
    refine ⟨after.reverse, before.reverse, by simp, fun x hx => ?_⟩
    simpa using hafter x (List.mem_reverse.1 hx)

namespace ManagedImage

/-- The symbols of every module, in the order in which they were placed. -/
def symbols (image : ManagedImage) : List Symbol := image.modules.flatMap (·.exports)

structure Linked (image : ManagedImage) : Prop where
  increasing : image.symbols.Pairwise (·.address.value < ·.address.value)
  room : 0 < image.nextAddress
  placed : ∀ s ∈ image.symbols, 0 < s.address.value ∧ s.address.value < image.nextAddress
  owned : ∀ {m k}, image.module? m = some k → ∀ s ∈ k.exports, s.module = m
  registered : ∀ {m k}, image.module? m = some k →
    ∀ c ∈ k.classes, ∃ l, image.class? c = some l ∧ l.info.module = m
  distinct : ∀ {m k}, image.module? m = some k → k.classes.Nodup

theorem mem_modules {image : ManagedImage} {m : ModuleId} {k : LinkedModule}
    (h : image.module? m = some k) : k ∈ image.modules := by
  obtain ⟨n⟩ := m
  cases n with
  | zero => simp [module?] at h
  | succ n => exact List.mem_of_getElem? h

theorem mem_symbols {image : ManagedImage} {s : Symbol} :
    s ∈ image.symbols ↔ ∃ m k, image.module? m = some k ∧ s ∈ k.exports := by
  constructor
  · intro h
    obtain ⟨k, hk, hs⟩ := List.mem_flatMap.1 h
    obtain ⟨n, hn⟩ := List.getElem?_of_mem hk
    exact ⟨⟨n + 1⟩, k, hn, hs⟩
  · rintro ⟨m, k, hk, hs⟩
    exact List.mem_flatMap.2 ⟨k, mem_modules hk, hs⟩

theorem mem_symbols_of_exports {image : ManagedImage} {m : ModuleId} {s : Symbol}
    (h : s ∈ CodeImage.exports image m) : s ∈ image.symbols := by
  simp only [CodeImage.exports] at h
  cases hk : image.module? m with
  | none => simp [hk] at h
  | some k => exact mem_symbols.2 ⟨m, k, hk, by simpa [hk] using h⟩

theorem mem_classesIn {image : ManagedImage} {m : ModuleId} {c : ClassId} :
    c ∈ CodeImage.classesIn image m ↔ ∃ k, image.module? m = some k ∧ c ∈ k.classes := by
  cases hk : image.module? m <;> simp [CodeImage.classesIn, hk]

theorem Linked.exists_class? {image : ManagedImage} (h : image.Linked) {m : ModuleId} {c : ClassId}
    (hc : c ∈ CodeImage.classesIn image m) : ∃ l, image.class? c = some l ∧ l.info.module = m := by
  obtain ⟨k, hk, hc⟩ := mem_classesIn.1 hc
  exact h.registered hk c hc

theorem linked_empty (hasHook : Bool) : (ManagedImage.empty hasHook).Linked where
  increasing := List.Pairwise.nil
  room := Nat.succ_pos _
  placed s hs := absurd hs List.not_mem_nil
  owned h := by
    obtain ⟨hn, hl⟩ := number_of_module? h
    exact absurd (Nat.lt_of_lt_of_le hn hl) (Nat.lt_irrefl 0)
  registered h := by
    obtain ⟨hn, hl⟩ := number_of_module? h
    exact absurd (Nat.lt_of_lt_of_le hn hl) (Nat.lt_irrefl 0)
  distinct h := by
    obtain ⟨hn, hl⟩ := number_of_module? h
    exact absurd (Nat.lt_of_lt_of_le hn hl) (Nat.lt_irrefl 0)

section Frames

variable {image after : ManagedImage}

theorem symbols_unbound (image : ManagedImage) :
    image.symbols = (image.modules.map (·.unbound)).flatMap (·.exports) := by
  rw [symbols, List.flatMap_map]
  rfl

theorem symbols_of_unbound
    (h : after.modules.map (·.unbound) = image.modules.map (·.unbound)) :
    after.symbols = image.symbols := by
  rw [symbols_unbound, h, ← symbols_unbound]

theorem Confined.symbols {D : ClassId → Prop} (h : image.Confined D after) :
    after.symbols = image.symbols := by
  rw [ManagedImage.symbols, h.modules, ManagedImage.symbols]

/-- Linkedness is about the symbols of modules and the modules of descriptors. -/
theorem Linked.of_unbound (h : image.Linked)
    (hmodules : after.modules.map (·.unbound) = image.modules.map (·.unbound))
    (hnext : after.nextAddress = image.nextAddress)
    (hclasses : ∀ c l, image.class? c = some l →
      ∃ l', after.class? c = some l' ∧ l'.info.module = l.info.module) : after.Linked := by
  have hsymbols := symbols_of_unbound hmodules
  have hmodule {m : ModuleId} {k : LinkedModule} (hk : after.module? m = some k) :
      ∃ l, image.module? m = some l ∧ l.unbound = k.unbound := by
    have hu := module?_unbound hmodules m
    rw [hk] at hu
    obtain ⟨l, hl, he⟩ := Option.map_eq_some_iff.1 hu.symm
    exact ⟨l, hl, he⟩
  refine ⟨hsymbols ▸ h.increasing, hnext ▸ h.room, ?_, ?_, ?_, ?_⟩
  · rw [hsymbols, hnext]
    exact h.placed
  · intro m k hk s hs
    obtain ⟨l, hl, he⟩ := hmodule hk
    have hexports : l.unbound.exports = k.unbound.exports := congrArg LinkedModule.exports he
    exact h.owned hl s (hexports.symm ▸ hs : s ∈ l.unbound.exports)
  · intro m k hk c hc
    obtain ⟨l, hl, he⟩ := hmodule hk
    have hown : l.unbound.classes = k.unbound.classes := congrArg LinkedModule.classes he
    obtain ⟨d, hd, hm⟩ := h.registered hl c (hown.symm ▸ hc : c ∈ l.unbound.classes)
    obtain ⟨d', hd', hm'⟩ := hclasses c d hd
    exact ⟨d', hd', hm'.trans hm⟩
  · intro m k hk
    obtain ⟨l, hl, he⟩ := hmodule hk
    have hown : l.unbound.classes = k.unbound.classes := congrArg LinkedModule.classes he
    have hd : l.classes.Nodup := h.distinct hl
    rwa [show l.classes = k.classes from hown] at hd

theorem Linked.of_rebound (h : image.Linked) (hr : image.Rebound after) : after.Linked := by
  apply h.of_unbound hr.unbound
  · exact hr.nextAddress
  · intro c l hl
    exact ⟨l, by rwa [class?, hr.classes], rfl⟩

theorem Linked.of_confined {D : ClassId → Prop} (h : image.Linked) (hc : image.Confined D after) :
    after.Linked := by
  apply h.of_unbound
  · rw [hc.modules]
  · exact hc.nextAddress
  · intro c l hl
    have hi := hc.class_info c
    rw [hl] at hi
    obtain ⟨l', hl', he⟩ := Option.map_eq_some_iff.1 hi
    exact ⟨l', hl', by rw [he]⟩

theorem class?_append {image : ManagedImage} {more : List LinkedClass} {c : ClassId}
    {l : LinkedClass} (h : image.class? c = some l) :
    class? { image with classes := image.classes ++ more } c = some l := by
  have hc : c.index < image.classes.length := (List.getElem?_eq_some_iff.1 h).1
  simp only [class?]
  rwa [List.getElem?_append_left hc]

theorem Linked.addClass (h : image.Linked) (k : LinkedClass) : (image.addClass k).Linked := by
  have hclasses (c : ClassId) (l : LinkedClass) (hl : image.class? c = some l) :
      ∃ l', (image.addClass k).class? c = some l' ∧ l'.info.module = l.info.module :=
    ⟨l, class?_append hl, rfl⟩
  exact h.of_unbound rfl rfl hclasses

end Frames

section Link

variable (image : ManagedImage) (m : ModuleSpec Body)

theorem module?_link {id : ModuleId} {k : LinkedModule}
    (h : (image.link m).2.module? id = some k) :
    image.module? id = some k ∨ id = image.nextModule ∧ k = image.linked m := by
  obtain ⟨n⟩ := id
  cases n with
  | zero => simp [module?] at h
  | succ n =>
    rw [module?_eq, link_modules] at h
    rcases Nat.lt_trichotomy n image.modules.length with hn | rfl | hn
    · rw [List.getElem?_append_left hn] at h
      exact .inl h
    · rw [List.getElem?_concat_length] at h
      exact .inr ⟨rfl, (Option.some.inj h).symm⟩
    · rw [List.getElem?_eq_none (by simp; omega)] at h
      cases h

theorem symbols_link : (image.link m).2.symbols = image.symbols ++ (image.linked m).exports := by
  simp [symbols, link_modules]

theorem exports_linked :
    (image.linked m).exports = (definitions m).zipIdx.map fun e =>
      ⟨e.1.name, ⟨image.nextAddress + e.2 * addressStride⟩, image.nextModule, e.1.kind⟩ := by
  simp [linked, LinkedModule.exports, place, nextModule]

theorem class?_link {c : ClassId} (h : c ∈ (image.linked m).classes) :
    ∃ spec ∈ m.classes, (image.link m).2.class? c =
      some (image.linkClass { image.linked m with callSites := [], classes := [] }
        image.nextModule spec) := by
  obtain ⟨⟨spec, i⟩, he, rfl⟩ := List.mem_map.1 h
  have hi := List.mem_zipIdx_iff_getElem?.1 he
  refine ⟨spec, List.mem_of_getElem? hi, ?_⟩
  have hlength : image.classes.length ≤ image.classes.length + i := Nat.le_add_right _ _
  simp only [class?, link, List.getElem?_append_right hlength, Nat.add_sub_cancel_left,
    List.getElem?_map]
  rw [hi]
  rfl

/-- A descriptor that was there before the module is not one of its own. -/
theorem index_of_mem_linked {c : ClassId} (h : c ∈ (image.linked m).classes) :
    image.classes.length ≤ c.index := by
  obtain ⟨e, _, rfl⟩ := List.mem_map.1 h
  exact Nat.le_add_right _ _

theorem zipIdx_pairwise {α : Type} (l : List α) : l.zipIdx.Pairwise (·.2 < ·.2) := by
  have h : (l.zipIdx.map (·.2)).Pairwise (· < ·) := by
    rw [List.zipIdx_map_snd]
    exact List.pairwise_lt_range'
  exact List.pairwise_map.1 h

theorem mem_exports_linked {s : Symbol} (h : s ∈ (image.linked m).exports) :
    s.module = image.nextModule ∧ image.nextAddress ≤ s.address.value ∧
      s.address.value < (image.link m).2.nextAddress := by
  rw [exports_linked] at h
  obtain ⟨⟨f, i⟩, he, rfl⟩ := List.mem_map.1 h
  have hi : i < (definitions m).length :=
    (List.getElem?_eq_some_iff.1 (List.mem_zipIdx_iff_getElem?.1 he)).1
  refine ⟨rfl, Nat.le_add_right _ _, ?_⟩
  simp only [link, place, List.length_map, List.length_zipIdx, addressStride]
  omega

theorem Linked.link {image : ManagedImage} (h : image.Linked) (m : ModuleSpec Body) :
    (image.link m).2.Linked where
  increasing := by
    rw [symbols_link, List.pairwise_append]
    refine ⟨h.increasing, ?_, ?_⟩
    · rw [exports_linked, List.pairwise_map]
      refine (zipIdx_pairwise _).imp ?_
      intro e f hef
      simp only [addressStride]
      omega
    · intro s hs t ht
      exact Nat.lt_of_lt_of_le (h.placed s hs).2 (image.mem_exports_linked m ht).2.1
  room := Nat.lt_of_lt_of_le h.room (Nat.le_add_right _ _)
  placed := by
    intro s hs
    rw [symbols_link] at hs
    rcases List.mem_append.1 hs with hs | hs
    · exact ⟨(h.placed s hs).1, Nat.lt_of_lt_of_le (h.placed s hs).2 (Nat.le_add_right _ _)⟩
    · obtain ⟨_, hl, hu⟩ := image.mem_exports_linked m hs
      exact ⟨Nat.lt_of_lt_of_le h.room hl, hu⟩
  owned := by
    intro id k hk s hs
    rcases image.module?_link m hk with hk | ⟨rfl, rfl⟩
    · exact h.owned hk s hs
    · exact (image.mem_exports_linked m hs).1
  registered := by
    intro id k hk c hc
    rcases image.module?_link m hk with hk | ⟨rfl, rfl⟩
    · obtain ⟨l, hl, hm⟩ := h.registered hk c hc
      exact ⟨l, class?_append hl, hm⟩
    · obtain ⟨spec, _, hl⟩ := image.class?_link m hc
      exact ⟨_, hl, rfl⟩
  distinct := by
    intro id k hk
    rcases image.module?_link m hk with hk | ⟨rfl, rfl⟩
    · exact h.distinct hk
    · refine List.pairwise_map.2 ((zipIdx_pairwise m.classes).imp ?_)
      intro e f hef heq
      have hi := congrArg ClassId.index heq
      simp only at hi
      omega

end Link

end ManagedImage

end HotReload
