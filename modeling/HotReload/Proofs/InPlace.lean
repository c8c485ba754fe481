import HotReload.Proofs.Versions
import HotReload.Proofs.Newest

/-! # Patching in place

A recorded specialization has each of its slots refreshed: set to the newest implementation of the
symbol that the slot holds. Refreshing twice is refreshing once, so it does not matter how many
generic definitions of a module have the specialization patched.
-/

namespace HotReload

variable {policy : SlotPolicy} {base : ManagedImage} {m : ModuleId}

/-- What the table holds under a name is a symbol of that name. -/
def SlotPolicy.Names (policy : SlotPolicy) (image : ManagedImage) : Prop :=
  ∀ name b, policy.table.address? name = some b → ∃ s, image.symbol? b = some s ∧ s.name = name

namespace SlotPolicy

theorem exists_symbol?_of_newest (hlinked : base.Linked) (htable : policy.Names base)
    {name : String} {b : Address}
    (h : (CodeImage.address? base m name).or (policy.table.address? name) = some b) :
    ∃ r, base.symbol? b = some r ∧ r.name = name := by
  cases hm : CodeImage.address? base m name with
  | none =>
    rw [hm, Option.none_or] at h
    exact htable name b h
  | some b' =>
    rw [hm, Option.some_or] at h
    obtain ⟨k, hk, hb⟩ := Option.bind_eq_some_iff.1 hm
    obtain ⟨r, _, hr, hname, _⟩ :=
      hlinked.symbol?_of_address? policy.preserve (ManagedImage.mem_modules hk) hb
    rw [Option.some.inj h] at hr
    exact ⟨r, hr, hname⟩

/-- What a slot was refreshed to is not refreshed to anything else, as long as no symbol is resolved
wrongly. -/
theorem eq_of_refreshedBy (hlinked : base.Linked) (htable : policy.Names base)
    {f : Address → Option Symbol} (hf : ∀ a s, f a = some s → base.symbol? a = some s)
    {a b d : Address} (hb : policy.refreshedBy base m f a = some b)
    (hd : policy.refreshedBy base m f b = some d) : d = b := by
  obtain ⟨s, _, _, hs⟩ := refreshedBy_eq_some.1 hb
  obtain ⟨r, hr, _, hd⟩ := refreshedBy_eq_some.1 hd
  obtain ⟨r', hr', hname⟩ := exists_symbol?_of_newest hlinked htable hs
  obtain rfl := Option.some.inj ((hf b r hr).symm.trans hr')
  rw [hname, hs] at hd
  exact (Option.some.inj hd).symm

/-- Refreshing a slot twice is refreshing it once. -/
theorem inPlace_comp (hlinked : base.Linked) (htable : policy.Names base) (i : Nat) :
    policy.inPlace base m i ∘ policy.inPlace base m i = policy.inPlace base m i := by
  funext a
  rw [Function.comp_apply]
  by_cases hi : i = 0
  · simp [inPlace, hi]
  · simp only [inPlace, if_neg hi]
    cases h : policy.refreshed? base m a with
    | none => simp [h]
    | some b =>
      rw [Option.getD_some]
      cases hd : policy.refreshed? base m b with
      | none => rfl
      | some d => exact eq_of_refreshedBy hlinked htable (fun _ _ hs => hs) h hd

end SlotPolicy

namespace GenericPass

variable {p : GenericPass ManagedImage} {definition d : ClassId} {hook : String}

theorem slotAt?_patchOne (h : Served base p.image p.cache) (definition : ClassId)
    (hook : String) (hd : (p.image.class? d).isSome) (i : Nat) :
    (patchOne policy definition m hook p d).image.slotAt? d i =
      (p.image.slotAt? d i).map (policy.inPlace base m i) := by
  obtain ⟨k, hk⟩ := Option.isSome_iff_exists.1 hd
  obtain ⟨pass, hpass⟩ := SlotPolicy.patchInPlace_isOk policy p.cache m hk
  simp only [patchOne, hpass, Swizzle.slotAt?_swizzle]
  exact SlotPolicy.slotAt?_patchInPlace h hpass i

/-- A specialization that is visited has its slots refreshed, however often it is visited. -/
theorem slotAt?_patchEach (hlinked : base.Linked) (htable : policy.Names base)
    (h : Served base p.image p.cache) (definition : ClassId) (hook : String)
    (hd : (p.image.class? d).isSome) (i : Nat) (cs : List ClassId) :
    (cs.foldl (patchOne policy definition m hook) p).image.slotAt? d i =
      if d ∈ cs then (p.image.slotAt? d i).map (policy.inPlace base m i)
      else p.image.slotAt? d i := by
  induction cs generalizing p with
  | nil => simp
  | cons c cs ih =>
    have hconfined := patchOne_confined policy definition m hook p c
    rw [List.foldl_cons, ih (patchOne_served h definition hook c) (hconfined.class?_isSome d ▸ hd)]
    by_cases hc : d = c
    · subst hc
      simp [slotAt?_patchOne h definition hook hd, SlotPolicy.inPlace_comp hlinked htable]
    · simp [hc, hconfined.slotAt? hc i]

end GenericPass

namespace PatchPass

variable {p : PatchPass ManagedImage} {d : ClassId}

theorem slotAt?_patchGeneric (hlinked : base.Linked) (htable : policy.Names base)
    (h : p.Ready base) (rules : PatchRules) (hd : (p.image.class? d).isSome) (g : ClassId)
    (i : Nat) :
    (patchGeneric policy rules m p g).image.slotAt? d i =
      if visits rules p.image d g then (p.image.slotAt? d i).map (policy.inPlace base m i)
      else p.image.slotAt? d i := by
  cases ht : rules.tracksGenerics with
  | false => simp [patchGeneric, GenericPass.patch, visits, ht]
  | true =>
    cases hi : CodeImage.info? p.image g with
    | none => simp [patchGeneric, GenericPass.patch, visits, ht, hi]
    | some info =>
      have hpass : Served base (GenericPass.mk p.image p.cache {}).image
        (GenericPass.mk p.image p.cache {}).cache := h
      have heach := GenericPass.slotAt?_patchEach (m := m) hlinked htable hpass g
        rules.lifecycleHook hd i (rules.recorded.under info.base)
      simpa [patchGeneric, GenericPass.patch, visits, ht, hi] using heach

theorem slotAt?_patchEachGeneric (hlinked : base.Linked) (htable : policy.Names base)
    (h : p.Ready base) (rules : PatchRules) (hd : (p.image.class? d).isSome) (i : Nat)
    (gs : List ClassId) :
    (gs.foldl (patchGeneric policy rules m) p).image.slotAt? d i =
      if gs.any (visits rules p.image d) then
        (p.image.slotAt? d i).map (policy.inPlace base m i)
      else p.image.slotAt? d i := by
  induction gs generalizing p with
  | nil => simp
  | cons g gs ih =>
    have hconfined := patchGeneric_confined policy (m := m) rules p g
    rw [List.foldl_cons, ih (patchGeneric_ready h rules g) (hconfined.class?_isSome d ▸ hd),
      visits_confined hconfined, slotAt?_patchGeneric hlinked htable h rules hd]
    cases hg : visits rules p.image d g <;> simp [hg, SlotPolicy.inPlace_comp hlinked htable]

/-- What patching a module in makes of the slots of a recorded specialization, whatever its
layout. -/
theorem slotAt?_patchClasses_of_isSpecialization (htable : policy.Names p.image)
    (h : p.Ready p.image) (rules : PatchRules) (hd : (p.image.class? d).isSome)
    (hold : ¬IsOlderVersion p.image m d) (hs : IsSpecialization p.image rules m d) (i : Nat) :
    (patchClasses policy rules m p).image.slotAt? d i =
      (p.image.slotAt? d i).map (policy.inPlace p.image m i) := by
  have hconfined := patchEachClass_confined policy m (CodeImage.classesIn p.image m) ([], p)
  have hready : ((CodeImage.classesIn p.image m).foldl (patchClass policy m) ([], p)).2.Ready
      p.image := patchEachClass_ready h _
  rw [patchClasses_eq, slotAt?_patchEachGeneric h.linked htable hready rules
    (hconfined.class?_isSome d ▸ hd), visits_confined hconfined,
    if_pos ((isSpecialization_iff rules d).1 hs), hconfined.slotAt? hold]

end PatchPass

end HotReload
