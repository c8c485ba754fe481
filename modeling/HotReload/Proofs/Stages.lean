import HotReload.Proofs.Versions

/-! # The stages of a patch

Patching a module in is a sequence of three kinds of stages: the slots of an old version are
brought to those of a class of the module, selectors are copied from a class of the module, and a
recorded specialization has its slots refreshed. What every stage keeps, the patch keeps.
-/

namespace HotReload

open ManagedImage (Confined)

/-- A descriptor that a patch may write into. -/
def IsPatched (base : ManagedImage) (rules : PatchRules) (m : ModuleId) (d : ClassId) : Prop :=
  IsOlderVersion base m d ∨ IsSpecialization base rules m d

/-- An image on the way of a patch: since the module was linked, only what the patch is for was
written, and the cache answers rightly. -/
structure Midway (rules : PatchRules) (base : ManagedImage) (m : ModuleId) (image : ManagedImage)
    (cache : SymbolCache) : Prop where
  linked : base.Linked
  served : Served base image cache
  confined : Confined (IsPatched base rules m) base image

/-- A class whose older versions have their slots patched. -/
def IsPlain (image : ManagedImage) (c : ClassId) : Prop :=
  ∃ info, CodeImage.info? image c = some info ∧ info.isGeneric = false ∧
    info.derivesFromGeneric = false

/-- A property of images that every stage of a patch keeps. -/
structure PatchPass.Kept (policy : SlotPolicy) (rules : PatchRules) (base : ManagedImage)
    (m : ModuleId) (I : ManagedImage → Prop) : Prop where
  patch : ∀ {image cache c d pass}, Midway rules base m image cache →
    c ∈ CodeImage.classesIn base m → IsPlain base c → IsOlderVersionOf base c d →
    policy.patch cache image d c m = .ok pass → I image → I pass.image
  copy : ∀ {image cache c d accepts}, Midway rules base m image cache →
    c ∈ CodeImage.classesIn base m → IsPatched base rules m d →
    I image → I (Swizzle.swizzle image d c accepts).2
  refresh : ∀ {image cache d pass}, Midway rules base m image cache →
    IsSpecialization base rules m d → policy.patchInPlace cache image d m = .ok pass →
    I image → I pass.image

variable {policy : SlotPolicy} {rules : PatchRules} {base image : ManagedImage} {m : ModuleId}
  {cache : SymbolCache} {c d : ClassId}

namespace Midway

theorem start (h : Served base base cache) : Midway rules base m base cache :=
  ⟨h.linked, h, Confined.refl _ _⟩

theorem step (h : Midway rules base m image cache) (hd : IsPatched base rules m d)
    {after : ManagedImage} (hc : Confined (· = d) image after) {cache' : SymbolCache}
    (hs : Served base after cache') : Midway rules base m after cache' where
  linked := h.linked
  served := hs
  confined := h.confined.trans_at hd hc

theorem patch (h : Midway rules base m image cache) (hd : IsPatched base rules m d)
    {pass : SlotPass ManagedImage} (hp : policy.patch cache image d c m = .ok pass) :
    Midway rules base m pass.image pass.cache := by
  apply h.step hd
  · exact (SlotPolicy.patch_confined hp).mono fun _ he => he.1
  · exact SlotPolicy.patch_served h.served hp

theorem copy (h : Midway rules base m image cache) (hd : IsPatched base rules m d) (c : ClassId)
    (accepts : String → Bool) :
    Midway rules base m (Swizzle.swizzle image d c accepts).2 cache := by
  have hc := Swizzle.swizzle_confined image d c accepts
  exact h.step hd hc (h.served.confined hc)

theorem refresh (h : Midway rules base m image cache) (hd : IsPatched base rules m d)
    {pass : SlotPass ManagedImage} (hp : policy.patchInPlace cache image d m = .ok pass) :
    Midway rules base m pass.image pass.cache :=
  h.step hd (SlotPolicy.patchInPlace_confined hp) (SlotPolicy.patchInPlace_served h.served hp)

/-- A class of the module is not patched. -/
theorem not_isPatched (h : Midway rules base m image cache) (hc : c ∈ CodeImage.classesIn base m)
    (hs : ¬IsSpecialization base rules m c) : ¬IsPatched base rules m c := by
  rintro (⟨e, he, hold⟩ | hin)
  · exact not_isOlderVersionOf h.linked hc he hold
  · exact hs hin

theorem class?_of_own (h : Midway rules base m image cache)
    (hc : c ∈ CodeImage.classesIn base m) (hs : ¬IsSpecialization base rules m c) :
    image.class? c = base.class? c :=
  h.confined.outside c (h.not_isPatched hc hs)

end Midway

namespace PatchPass

variable {I : ManagedImage → Prop}

def Holds (rules : PatchRules) (base : ManagedImage) (m : ModuleId) (I : ManagedImage → Prop)
    (image : ManagedImage) (cache : SymbolCache) : Prop :=
  Midway rules base m image cache ∧ I image

namespace Kept

variable (h : Kept policy rules base m I)

include h

theorem patchVersion {p : PatchPass ManagedImage} (hp : Holds rules base m I p.image p.cache)
    (hc : c ∈ CodeImage.classesIn base m) {info : ClassInfo}
    (hinfo : CodeImage.info? base c = some info) (hgeneric : info.isGeneric = false)
    {v : Versions} (hv : Versions.collect? base c = some v) (hd : d ∈ v.old) :
    let after := (PatchPass.patchVersion policy m info c d p).2
    Holds rules base m I after.image after.cache := by
  obtain ⟨hmid, hI⟩ := hp
  have holder (hl : HasLayout p.image info d) : IsOlderVersionOf base c d :=
    ⟨info, v, hinfo, hgeneric, hv, hd, (hmid.confined.hasLayout info d).1 hl⟩
  simp only [PatchPass.patchVersion]
  split
  · split
    · exact ⟨hmid, hI⟩
    · rename_i oldInfo ho
      split
      · simp only [mismatch]
        split <;> exact ⟨hmid, hI⟩
      · rename_i hl
        obtain ⟨k, hk, rfl⟩ := Option.map_eq_some_iff.1 ho
        have hold : IsPatched base rules m d := .inl ⟨c, hc, holder ⟨k, hk, by simpa using hl⟩⟩
        exact ⟨hmid.copy hold c _, h.copy hmid hc hold hI⟩
  · rename_i hderives
    split
    · exact ⟨hmid, hI⟩
    · rename_i pass hpass
      obtain ⟨k, l, hk, hl, ⟨rfl, _⟩ | ⟨hlayout, _, _⟩⟩ := SlotPolicy.patch_cases hpass
      · simp only [mismatch, if_true]
        split <;> exact ⟨hmid, hI⟩
      · have hinfo' : l.info = info := by
          have he := (hmid.confined.info? c).trans hinfo
          simpa [CodeImage.info?, hl] using he
        have hold := holder ⟨k, hk, hinfo' ▸ hlayout⟩
        have hpatched : IsPatched base rules m d := .inl ⟨c, hc, hold⟩
        have hmid' := hmid.patch hpatched hpass
        have hplain : IsPlain base c := ⟨info, hinfo, hgeneric, by simpa using hderives⟩
        have hI' := h.patch hmid hc hplain hold hpass hI
        split
        · simp only [mismatch]
          split <;> exact ⟨hmid', hI'⟩
        · exact ⟨hmid'.copy hpatched c _, h.copy hmid' hc hpatched hI'⟩

theorem patchClass {acc : List ClassId × PatchPass ManagedImage}
    (hp : Holds rules base m I acc.2.image acc.2.cache) (hc : c ∈ CodeImage.classesIn base m) :
    let after := (PatchPass.patchClass policy m acc c).2
    Holds rules base m I after.image after.cache := by
  simp only [PatchPass.patchClass, hp.1.confined.info?]
  cases hinfo : CodeImage.info? base c with
  | none => exact hp
  | some info =>
    cases hgeneric : info.isGeneric with
    | true =>
      simp only [hgeneric, if_true]
      exact hp
    | false =>
      have hcollect := hp.1.confined.collect? c
      simp only [hgeneric, Bool.false_eq_true, if_false, list, hcollect]
      split
      · exact hp
      · rename_i v hv
        split
        · have hfold := List.foldlRecOn (motive := fun (acc : Bool × PatchPass ManagedImage) =>
            Holds rules base m I acc.2.image acc.2.cache) v.old (versionStep policy m info v.new)
            (b := (false, acc.2.list c info.name)) hp fun _ hacc d hd => by
              have hnew := collect?_new hv
              rw [versionStep, hnew]
              exact h.patchVersion hacc hc hinfo hgeneric hv hd
          simp only [patchVersions]
          split <;> exact hfold
        · exact hp

theorem patchGeneric {p : PatchPass ManagedImage} (hp : Holds rules base m I p.image p.cache)
    {g : ClassId} (hg : g ∈ generics base m) :
    let after := PatchPass.patchGeneric policy rules m p g
    Holds rules base m I after.image after.cache := by
  obtain ⟨hown, hgeneric⟩ := List.mem_filter.1 hg
  obtain ⟨info, hinfo, hgeneric⟩ := (Option.any_eq_true _ _).1 hgeneric
  cases ht : rules.tracksGenerics with
  | false => simpa [PatchPass.patchGeneric, GenericPass.patch, ht] using hp
  | true =>
    have hspecial : ∀ d ∈ rules.recorded.under info.base, IsSpecialization base rules m d :=
      fun d hd => ⟨ht, g, hown, info, hinfo, hgeneric, hd⟩
    simp only [PatchPass.patchGeneric, GenericPass.patch, ht, hp.1.confined.info?, hinfo,
      Bool.not_true, Bool.false_eq_true, if_false]
    refine List.foldlRecOn (motive := fun (p : GenericPass ManagedImage) =>
      Holds rules base m I p.image p.cache) _ _ hp fun q hq d hd => ?_
    have hd := hspecial d hd
    simp only [GenericPass.patchOne]
    split
    · exact hq
    · rename_i pass hpass
      have hmid := hq.1.refresh (.inr hd) hpass
      exact ⟨hmid.copy (.inr hd) g _, h.copy hmid hown (.inr hd) (h.refresh hq.1 hd hpass hq.2)⟩

/-- What every stage keeps, patching the classes of the module keeps. -/
theorem patchClasses {p : PatchPass ManagedImage} (hbase : p.image = base) (hp : p.Ready base)
    (hI : I base) : I (PatchPass.patchClasses policy rules m p).image := by
  subst hbase
  have hclasses := List.foldlRecOn (motive := fun (acc : List ClassId × PatchPass ManagedImage) =>
    Holds rules p.image m I acc.2.image acc.2.cache) (CodeImage.classesIn p.image m)
    (PatchPass.patchClass policy m) (b := ([], p)) ⟨Midway.start hp, hI⟩
    fun _ hacc c hc => h.patchClass hacc hc
  rw [patchClasses_eq]
  exact (List.foldlRecOn (motive := fun (q : PatchPass ManagedImage) =>
    Holds rules p.image m I q.image q.cache) _ _ hclasses
    fun _ hq g hg => h.patchGeneric hq hg).2

end Kept

end PatchPass

end HotReload
