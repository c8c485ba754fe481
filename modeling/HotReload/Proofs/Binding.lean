import HotReload.Proofs.InPlace

/-! # What names are bound to

A slot or a selector of a new class holds what a name is bound to: the definition of the new
module itself, or that of the first module that exports the name, however old it is.
-/

namespace HotReload

namespace ManagedImage

/-- How a new module comes to hold a symbol: it defines the name, or it does not and is bound to the
first module that exports it. -/
inductive Bound (image : ManagedImage) (m : ModuleSpec Body) (a : Address) (s : Symbol) : Prop where
  | own : s.module = image.nextModule → (image.linked m).address? s.name = some a →
    Bound image m a s
  | inherited : s.module ≠ image.nextModule → (image.linked m).address? s.name = none →
      image.firstExport? s.name = some a → Bound image m a s

variable {image : ManagedImage} {m : ModuleSpec Body} {name : String} {a : Address} {s : Symbol}
  {c : ClassId}

theorem module?_nextModule (image : ManagedImage) (m : ModuleSpec Body) :
    (image.link m).2.module? image.nextModule = some (image.linked m) :=
  List.getElem?_concat_length

theorem classesIn_nextModule (image : ManagedImage) (m : ModuleSpec Body) :
    CodeImage.classesIn (image.link m).2 image.nextModule = (image.linked m).classes := by
  simp [CodeImage.classesIn, module?_nextModule]

theorem address?_nextModule (image : ManagedImage) (m : ModuleSpec Body) (name : String) :
    CodeImage.address? (image.link m).2 image.nextModule name = (image.linked m).address? name := by
  simp [CodeImage.address?, module?_nextModule]

theorem mem_link_modules {k : LinkedModule} (h : k ∈ image.modules) :
    k ∈ (image.link m).2.modules := List.mem_append_left _ h

theorem bindName_cases (ha : a = image.bindName (image.linked m) name) (hne : a ≠ .null) :
    (image.linked m).address? name = some a ∨
      (image.linked m).address? name = none ∧ image.firstExport? name = some a := by
  rw [bindName] at ha
  cases hown : (image.linked m).address? name with
  | some b => simp [ha, hown]
  | none =>
    cases hfirst : image.firstExport? name with
    | some b => simp [ha, hown, hfirst]
    | none => exact absurd (by simpa [hown, hfirst] using ha) hne

/-- There is a symbol wherever a name is bound to. -/
theorem exists_bound (hlinked : image.Linked) (ha : a = image.bindName (image.linked m) name)
    (hne : a ≠ .null) : ∃ s, (image.link m).2.symbol? a = some s ∧ Bound image m a s := by
  rcases bindName_cases ha hne with hown | ⟨hown, hfirst⟩
  · obtain ⟨s, hs, hsymbol, rfl, _⟩ := (hlinked.link m).symbol?_of_address? false
      (mem_modules (module?_nextModule image m)) hown
    exact ⟨s, hsymbol, .own (image.mem_exports_linked m hs).1 hown⟩
  · obtain ⟨k, hk, hfound⟩ := List.exists_of_findSome?_eq_some hfirst
    obtain ⟨s, hs, hsymbol, rfl, _⟩ :=
      (hlinked.link m).symbol?_of_address? false (mem_link_modules hk) hfound
    refine ⟨s, hsymbol, .inherited ?_ hown hfirst⟩
    intro e
    have hle := hlinked.module_le (List.mem_flatMap.2 ⟨k, hk, hs⟩)
    rw [e] at hle
    exact Nat.not_succ_le_self _ hle

theorem bound_bindName (hlinked : image.Linked) (ha : a = image.bindName (image.linked m) name)
    (hs : (image.link m).2.symbol? a = some s) : Bound image m a s := by
  have hne : a ≠ .null := by
    intro hnull
    rw [hnull, (hlinked.link m).symbol?_null] at hs
    cases hs
  obtain ⟨r, hr, hbound⟩ := exists_bound hlinked ha hne
  obtain rfl := Option.some.inj (hs.symm.trans hr)
  exact hbound

/-- A slot of a new class holds what a name is bound to. -/
theorem slotAt?_link (hc : c ∈ (image.linked m).classes) {i : Nat}
    (h : (image.link m).2.slotAt? c i = some a) :
    ∃ name, a = image.bindName (image.linked m) name := by
  obtain ⟨spec, _, hl⟩ := image.class?_link m hc
  rw [slotAt?_eq hl] at h
  have hmem := List.mem_of_getElem? h
  simp only [linkClass, List.map_map, List.mem_map] at hmem
  obtain ⟨e, _, rfl⟩ := hmem
  exact ⟨e.2, rfl⟩

theorem mem_table_link (hc : c ∈ (image.linked m).classes) {k : LinkedClass}
    (hk : (image.link m).2.class? c = some k) {t : SelectorTable} {selector : String}
    (h : (selector, a) ∈ k.table t) : ∃ name, a = image.bindName (image.linked m) name := by
  obtain ⟨spec, _, hl⟩ := image.class?_link m hc
  obtain rfl := Option.some.inj (hk.symm.trans hl)
  cases t <;>
  · simp only [LinkedClass.table, linkClass, List.mem_map, Prod.mk.injEq] at h
    obtain ⟨e, _, _, rfl⟩ := h
    exact ⟨e.2, rfl⟩

namespace Bound

/-- What an older version gets for a patchable symbol that a new class holds is the newest
implementation, the new module included. -/
theorem exists_newest? (h : Bound image m a s) (hlinked : image.Linked) {t : Interposition}
    {preserve : Bool} (ht : t.IsNewest preserve image) (hs : (image.link m).2.symbol? a = some s)
    (hp : s.kind.patchable preserve = true) :
    ∃ r, (image.link m).2.newest? preserve s.name = some r ∧
      SlotPolicy.newest ⟨t, preserve⟩ s a image.nextModule = r.address := by
  have hsame {k : LinkedModule} (hk : k ∈ (image.link m).2.modules)
      (ha : k.address? s.name = some a) : k.patchable? preserve s.name = some s := by
    obtain ⟨r, _, hr, _, hpatchable⟩ := (hlinked.link m).symbol?_of_address? preserve hk ha
    obtain rfl := Option.some.inj (hs.symm.trans hr)
    exact hpatchable hp
  cases h with
  | own hm hown =>
    refine ⟨s, ?_, ?_⟩
    · rw [newest?_link, hsame (mem_modules (module?_nextModule image m)) hown]
      rfl
    · rw [SlotPolicy.newest, if_pos hm]
      exact (address_of_symbol? hs).symm
  | inherited hm hown hfirst =>
    obtain ⟨k, hk, hfound⟩ := List.exists_of_findSome?_eq_some hfirst
    obtain ⟨r, hr⟩ : ∃ r, image.newest? preserve s.name = some r := by
      rw [← Option.isSome_iff_exists, newest?, List.findSome?_isSome_iff]
      exact ⟨k, List.mem_reverse.2 hk, by rw [hsame (mem_link_modules hk) hfound]; rfl⟩
    refine ⟨r, ?_, ?_⟩
    · rw [newest?_link, LinkedModule.patchable?_eq_none hown, hr]
      rfl
    · rw [SlotPolicy.newest, if_neg hm, Interposition.address?, ht s.name, hr]
      rfl

variable {policy : SlotPolicy}

/-- What an older version gets for a bound symbol is the symbol itself, or what the table holds for
a name that the new module does not define. -/
theorem newest_cases (h : Bound image m a s) (policy : SlotPolicy) :
    policy.newest s a image.nextModule = a ∨
      (image.linked m).address? s.name = none ∧
        policy.table.address? s.name = some (policy.newest s a image.nextModule) := by
  cases h with
  | own hm _ => exact .inl (by simp [SlotPolicy.newest, hm])
  | inherited hm hown _ =>
    simp only [SlotPolicy.newest, if_neg hm]
    cases htable : policy.table.address? s.name with
    | none => exact .inl rfl
    | some b => exact .inr ⟨hown, rfl⟩

/-- Refreshing what an older version got for a bound symbol changes nothing. -/
theorem inPlace_newest (h : Bound image m a s) (hs : (image.link m).2.symbol? a = some s)
    (hnames : policy.Names (image.link m).2) (i : Nat) :
    policy.inPlace (image.link m).2 image.nextModule i (policy.newest s a image.nextModule) =
      policy.newest s a image.nextModule := by
  suffices hrefreshed : ∀ b, policy.refreshed? (image.link m).2 image.nextModule
      (policy.newest s a image.nextModule) = some b → b = policy.newest s a image.nextModule by
    rw [SlotPolicy.inPlace]
    split
    · rfl
    · cases hr : policy.refreshed? (image.link m).2 image.nextModule
        (policy.newest s a image.nextModule) with
      | none => rfl
      | some b => exact hrefreshed b hr
  intro b hb
  obtain ⟨r, hr, _, hb⟩ := SlotPolicy.refreshed?_eq_some.1 hb
  rw [address?_nextModule] at hb
  rcases h.newest_cases policy with hself | ⟨hown, htable⟩
  · rw [hself] at hr ⊢
    obtain rfl := Option.some.inj (hs.symm.trans hr)
    cases h with
    | own _ hown =>
      rw [hown] at hb
      exact (Option.some.inj hb).symm
    | inherited hm hown _ =>
      rw [hown, Option.none_or] at hb
      simpa [SlotPolicy.newest, hm, hb] using hself
  · -- What the table holds has the same name, so the same entry is found again.
    obtain ⟨r', hr', hname⟩ := hnames _ _ htable
    obtain rfl := Option.some.inj (hr.symm.trans hr')
    rw [hname, hown, Option.none_or, htable] at hb
    exact (Option.some.inj hb).symm

end Bound

end ManagedImage

end HotReload
