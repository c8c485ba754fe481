import HotReload.Proofs.Tables
import HotReload.Proofs.Traversal

/-! # Where patching writes

Patching a module in writes into two kinds of descriptors only: older versions of a class of the
module, under the layout that class has, and recorded specializations of a generic definition of
the module. Each stage of patching is confined to the descriptors that it is for.
-/

namespace HotReload

open ManagedImage (Confined)

variable {image : ManagedImage}

section Slots

/-- A relation between images that writing into a descriptor's slots keeps. -/
structure SlotPass.Kept {ι : Type} [CodeImage ι] (c : ClassId) (R : ι → ι → Prop) : Prop where
  refl : ∀ image, R image image
  trans : ∀ {image after last}, R image after → R after last → R image last
  write : ∀ {image index a after}, CodeImage.writeSlot image c index a = .ok after → R image after

theorem SlotPass.confined_kept (c : ClassId) : Kept c (Confined (· = c)) :=
  ⟨Confined.refl _, Confined.trans, ManagedImage.writeSlot_confined⟩

theorem SlotPass.settle_layoutMismatch {ι : Type} [CodeImage ι] (p : SlotPass ι) (c : ClassId)
    (index : Nat) (current : Address) (target : Option Address) :
    (p.settle c index current target).outcome.layoutMismatch = p.outcome.layoutMismatch := by
  unfold settle apply skip
  split
  · split
    · rfl
    · split <;> rfl
  · rfl

theorem SlotPass.Kept.invariant {ι : Type} [CodeImage ι] {c : ClassId} {R : ι → ι → Prop}
    (h : Kept c R) (image : ι) : Invariant c fun after _ => R image after where
  resolve _ _ hr := hr
  write hr hw := h.trans hr (h.write hw)

namespace SlotPolicy

variable {policy : SlotPolicy} {cache : SymbolCache} {c old new : ClassId} {m : ModuleId}

theorem patch_keeps {ι : Type} [CodeImage ι] {R : ι → ι → Prop} {image : ι} {pass : SlotPass ι}
    (hR : SlotPass.Kept old R) (h : policy.patch cache image old new m = .ok pass) :
    R image pass.image := (hR.invariant image).patch h (hR.refl image)

theorem patchInPlace_keeps {ι : Type} [CodeImage ι] {R : ι → ι → Prop} {image : ι}
    {pass : SlotPass ι} (hR : SlotPass.Kept c R)
    (h : policy.patchInPlace cache image c m = .ok pass) : R image pass.image :=
  (hR.invariant image).patchInPlace h (hR.refl image)

/-- What a patch comes to where all that it reads can be read. -/
theorem patch_of_reads {ι : Type} [CodeImage ι] (policy : SlotPolicy) (cache : SymbolCache)
    (m : ModuleId) {image : ι} {k l : ClassInfo} {xs ys : List Address}
    (hk : CodeImage.info? image old = some k) (hl : CodeImage.info? image new = some l)
    (hxs : CodeImage.slots image old = .ok xs) (hys : CodeImage.slots image new = .ok ys) :
    policy.patch cache image old new m = .ok
      (if layoutChange? k l = none ∧ xs.length = ys.length then
        ((xs.zip ys).zipIdx.drop 1).foldl (policy.patchSlot old m) ⟨image, cache, {}⟩
      else ⟨image, cache, { layoutMismatch := true }⟩) := by
  simp only [patch, hk, hl, hxs, hys, bind, Except.bind, pure, Except.pure]
  cases layoutChange? k l with
  | some change => simp
  | none => by_cases hn : xs.length = ys.length <;> simp [hn]

theorem patchInPlace_of_reads {ι : Type} [CodeImage ι] (policy : SlotPolicy)
    (cache : SymbolCache) (m : ModuleId) {image : ι} {k : ClassInfo} {xs : List Address}
    (hk : CodeImage.info? image c = some k) (hxs : CodeImage.slots image c = .ok xs) :
    policy.patchInPlace cache image c m =
      .ok ((xs.zipIdx.drop 1).foldl (policy.refreshSlot c m) ⟨image, cache, {}⟩) := by
  simp only [patchInPlace, hk, hxs, bind, Except.bind, pure, Except.pure]

/-- Going through the slots refuses no pair. -/
theorem layoutMismatch_patchEach {ι : Type} [CodeImage ι] (policy : SlotPolicy) (old : ClassId)
    (m : ModuleId) (slots : List ((Address × Address) × Nat)) (p : SlotPass ι) :
    (slots.foldl (policy.patchSlot old m) p).outcome.layoutMismatch = p.outcome.layoutMismatch := by
  refine List.foldlRecOn (motive := fun q : SlotPass ι =>
    q.outcome.layoutMismatch = p.outcome.layoutMismatch) slots _ rfl fun q hq slot _ => ?_
  obtain ⟨⟨current, wanted⟩, index⟩ := slot
  rw [← hq]
  have hs := SlotPass.settle_layoutMismatch
    { q with cache := (policy.patchable? q.cache q.image wanted (some m)).2 } old index current
  exact hs _

variable {pass : SlotPass ManagedImage}

/-- The addresses in the slots of two versions, position by position, without the destructor. -/
def pairs (old new : LinkedClass) : List ((Address × Address) × Nat) :=
  (((old.slots.map (·.address)).zip (new.slots.map (·.address))).zipIdx).drop 1

theorem patch_isOk (policy : SlotPolicy) (cache : SymbolCache) (m : ModuleId) {k l : LinkedClass}
    (hk : image.class? old = some k) (hl : image.class? new = some l) :
    ∃ pass, policy.patch cache image old new m = .ok pass :=
  ⟨_, policy.patch_of_reads cache m (ManagedImage.info?_of_class? hk)
    (ManagedImage.info?_of_class? hl) (ManagedImage.slots_of_class? hk)
    (ManagedImage.slots_of_class? hl)⟩

/-- A patch that comes to an end either refused the pair as a whole or went through its slots. -/
theorem patch_cases (h : policy.patch cache image old new m = .ok pass) :
    ∃ k l, image.class? old = some k ∧ image.class? new = some l ∧
      (pass = ⟨image, cache, { layoutMismatch := true }⟩ ∧
          ¬(layoutChange? k.info l.info = none ∧ k.slots.length = l.slots.length) ∨
        layoutChange? k.info l.info = none ∧ k.slots.length = l.slots.length ∧
          pass = (pairs k l).foldl (policy.patchSlot old m) ⟨image, cache, {}⟩) := by
  cases hk : image.class? old with
  | none => simp [patch, CodeImage.info?, hk, throw, throwThe, MonadExceptOf.throw] at h
  | some k =>
    cases hl : image.class? new with
    | none => simp [patch, CodeImage.info?, hk, hl, throw, throwThe, MonadExceptOf.throw] at h
    | some l =>
      refine ⟨k, l, rfl, rfl, ?_⟩
      rw [policy.patch_of_reads cache m (ManagedImage.info?_of_class? hk)
        (ManagedImage.info?_of_class? hl) (ManagedImage.slots_of_class? hk)
        (ManagedImage.slots_of_class? hl), List.length_map, List.length_map] at h
      obtain rfl := Except.ok.inj h
      split
      · rename_i hsame
        exact .inr ⟨hsame.1, hsame.2, rfl⟩
      · rename_i hsame
        exact .inl ⟨rfl, hsame⟩

/-- A patch writes into the old version, and only if both versions have one layout. -/
theorem patch_confined (h : policy.patch cache image old new m = .ok pass) :
    Confined (fun d => d = old ∧ ∃ k l, image.class? old = some k ∧ image.class? new = some l ∧
      layoutChange? k.info l.info = none) image pass.image := by
  have hold := patch_keeps (SlotPass.confined_kept old) h
  obtain ⟨k, l, hk, hl, ⟨rfl, _⟩ | ⟨hc, _, _⟩⟩ := patch_cases h
  · exact Confined.refl _ _
  · exact hold.mono fun d hd => ⟨hd, k, l, hk, hl, hc⟩

theorem patchInPlace_isOk (policy : SlotPolicy) (cache : SymbolCache) (m : ModuleId)
    {k : LinkedClass} (hk : image.class? c = some k) :
    ∃ pass, policy.patchInPlace cache image c m = .ok pass :=
  ⟨_, policy.patchInPlace_of_reads cache m (ManagedImage.info?_of_class? hk)
    (ManagedImage.slots_of_class? hk)⟩

theorem patchInPlace_cases (h : policy.patchInPlace cache image c m = .ok pass) :
    ∃ k, image.class? c = some k ∧
      pass = ((k.slots.map (·.address)).zipIdx.drop 1).foldl (policy.refreshSlot c m)
        ⟨image, cache, {}⟩ := by
  cases hk : image.class? c with
  | none => simp [patchInPlace, CodeImage.info?, hk, throw, throwThe, MonadExceptOf.throw] at h
  | some k =>
    rw [policy.patchInPlace_of_reads cache m (ManagedImage.info?_of_class? hk)
      (ManagedImage.slots_of_class? hk)] at h
    exact ⟨k, rfl, (Except.ok.inj h).symm⟩

theorem patchInPlace_confined (h : policy.patchInPlace cache image c m = .ok pass) :
    Confined (· = c) image pass.image := patchInPlace_keeps (SlotPass.confined_kept c) h

end SlotPolicy

end Slots

section Selectors

/-- A relation between images that the replacement of a descriptor's selectors keeps. -/
structure Swizzle.Kept {ι : Type} [CodeImage ι] (old : ClassId) (R : ι → ι → Prop) : Prop where
  refl : ∀ image, R image image
  trans : ∀ {image after last}, R image after → R after last → R image last
  replace : ∀ {image t selector a after},
    CodeImage.replaceSelector image old t selector a = .ok after → R image after

theorem Swizzle.confined_kept (old : ClassId) : Kept old (Confined (· = old)) :=
  ⟨Confined.refl _, Confined.trans, ManagedImage.replaceSelector_confined⟩

namespace Swizzle.Kept

variable {ι : Type} [CodeImage ι] {old : ClassId} {R : ι → ι → Prop}

theorem invariant (h : Kept old R) (image : ι) : Invariant old fun after => R image after where
  replace hr hreplace := h.trans hr (h.replace hreplace)

theorem copyEntry (h : Kept old R) (t : SelectorTable) (before : Selectors)
    (acc : SwizzleOutcome × ι) (e : String × Address) :
    R acc.2 (Swizzle.copyEntry old t before acc e).2 :=
  (h.invariant acc.2).copyEntry (h.refl acc.2) t before e

theorem copyTable (h : Kept old R) (new : ClassId) (accepts : String → Bool)
    (acc : SwizzleOutcome × ι) (t : SelectorTable) :
    R acc.2 (Swizzle.copyTable old new accepts acc t).2 :=
  (h.invariant acc.2).copyTable (h.refl acc.2) new accepts t

theorem swizzle (h : Kept old R) (image : ι) (new : ClassId) (accepts : String → Bool) :
    R image (Swizzle.swizzle image old new accepts).2 :=
  (h.invariant image).swizzle (h.refl image) new accepts

end Swizzle.Kept

theorem Swizzle.swizzle_confined (image : ManagedImage) (old new : ClassId)
    (accepts : String → Bool) :
    Confined (· = old) image (Swizzle.swizzle image old new accepts).2 :=
  (Swizzle.confined_kept old).swizzle image new accepts

end Selectors

section Module

def HasLayout (image : ManagedImage) (info : ClassInfo) (d : ClassId) : Prop :=
  ∃ k, image.class? d = some k ∧ layoutChange? k.info info = none

/-- An older version of a class that is no generic definition, of the layout that the class has
now. -/
def IsOlderVersionOf (image : ManagedImage) (c d : ClassId) : Prop :=
  ∃ info v, CodeImage.info? image c = some info ∧ info.isGeneric = false ∧
    Versions.collect? image c = some v ∧ d ∈ v.old ∧ HasLayout image info d

/-- An older version of one of the module's classes. -/
def IsOlderVersion (image : ManagedImage) (m : ModuleId) (d : ClassId) : Prop :=
  ∃ c ∈ CodeImage.classesIn image m, IsOlderVersionOf image c d

/-- A recorded specialization of a generic definition of the module. -/
def IsSpecialization (image : ManagedImage) (rules : PatchRules) (m : ModuleId) (d : ClassId) :
    Prop :=
  rules.tracksGenerics = true ∧ ∃ c ∈ CodeImage.classesIn image m, ∃ info,
    CodeImage.info? image c = some info ∧ info.isGeneric = true ∧
    d ∈ rules.recorded.under info.base

namespace ManagedImage.Confined

variable {D : ClassId → Prop} {after : ManagedImage}

theorem info? (h : Confined D image after) (c : ClassId) :
    CodeImage.info? after c = CodeImage.info? image c := h.class_info c

theorem module? (h : Confined D image after) (m : ModuleId) :
    after.module? m = image.module? m := by
  simp only [ManagedImage.module?, h.modules]

theorem sequence? (h : Confined D image after) (m : ModuleId) :
    CodeImage.sequence? after m = CodeImage.sequence? image m := by
  simp only [CodeImage.sequence?, h.module?]

theorem classesIn (h : Confined D image after) (m : ModuleId) :
    CodeImage.classesIn after m = CodeImage.classesIn image m := by
  simp only [CodeImage.classesIn, h.module?]

theorem callSite? (h : Confined D image after) (m : ModuleId) (name : String) :
    CodeImage.callSite? after m name = CodeImage.callSite? image m name := by
  simp only [CodeImage.callSite?, h.module?]

theorem collect? (h : Confined D image after) (c : ClassId) :
    Versions.collect? after c = Versions.collect? image c := by
  have hn (name : String) : CodeImage.classesNamed after name = CodeImage.classesNamed image name :=
    h.classIdsWhere_info (·.name == name)
  simp only [Versions.collect?, Versions.sequenceOf?, h.info?, h.sequence?, hn]

theorem hasLayout (h : Confined D image after) (info : ClassInfo) (d : ClassId) :
    HasLayout after info d ↔ HasLayout image info d := by
  have hi := h.class_info d
  simp only [HasLayout]
  cases ha : after.class? d <;> cases hb : image.class? d <;> simp_all

end ManagedImage.Confined

theorem IsOlderVersionOf.of_confined {D : ClassId → Prop} {after : ManagedImage} {c d : ClassId}
    (h : Confined D image after) (hd : IsOlderVersionOf after c d) :
    IsOlderVersionOf image c d := by
  simpa only [IsOlderVersionOf, h.info?, h.collect?, h.hasLayout] using hd

namespace GenericPass

theorem patchOne_confined (policy : SlotPolicy) (definition : ClassId) (m : ModuleId)
    (hook : String) (p : GenericPass ManagedImage) (c : ClassId) :
    Confined (· = c) p.image (patchOne policy definition m hook p c).image := by
  simp only [patchOne]
  split
  · exact Confined.refl _ _
  · rename_i pass h
    exact (SlotPolicy.patchInPlace_confined h).trans (Swizzle.swizzle_confined _ _ _ _)

theorem patchEach_confined (policy : SlotPolicy) (definition : ClassId) (m : ModuleId)
    (hook : String) (cs : List ClassId) (p : GenericPass ManagedImage) :
    Confined (· ∈ cs) p.image (cs.foldl (patchOne policy definition m hook) p).image := by
  induction cs generalizing p with
  | nil => exact Confined.refl _ _
  | cons c cs ih =>
    have hc := (patchOne_confined policy definition m hook p c).mono (E := (· ∈ c :: cs))
      fun d hd => hd ▸ List.mem_cons_self
    exact hc.trans ((ih _).mono fun d hd => List.mem_cons_of_mem c hd)

end GenericPass

namespace PatchPass

variable (policy : SlotPolicy) {m : ModuleId} {info : ClassInfo} {new : ClassId}

theorem patchVersion_confined (m : ModuleId) (old : ClassId) (p : PatchPass ManagedImage)
    (hinfo : CodeImage.info? p.image new = some info) :
    Confined (fun d => d = old ∧ HasLayout p.image info d) p.image
      (patchVersion policy m info new old p).2.image := by
  simp only [patchVersion]
  split
  · split
    · exact Confined.refl _ _
    · rename_i oldInfo ho
      split
      · rw [mismatch_image]
        exact Confined.refl _ _
      · rename_i hl
        refine (Swizzle.swizzle_confined p.image old new _).mono ?_
        rintro d rfl
        obtain ⟨k, hk, rfl⟩ := Option.map_eq_some_iff.1 ho
        exact ⟨rfl, k, hk, by simpa using hl⟩
  · split
    · exact Confined.refl _ _
    · rename_i pass h
      have hp := (SlotPolicy.patch_confined h).mono
        (E := fun d => d = old ∧ HasLayout p.image info d) <| by
          rintro d ⟨rfl, k, l, hk, hl, hc⟩
          have : l.info = info := by simpa [CodeImage.info?, hl] using hinfo
          exact ⟨rfl, k, hk, this ▸ hc⟩
      split
      · rw [mismatch_image]
        exact hp
      · rename_i hm
        refine hp.trans ((Swizzle.swizzle_confined _ _ _ _).mono ?_)
        rintro d rfl
        obtain ⟨k, l, hk, hl, ⟨rfl, _⟩ | ⟨hc, _⟩⟩ := SlotPolicy.patch_cases h
        · exact absurd rfl hm
        · have : l.info = info := by simpa [CodeImage.info?, hl] using hinfo
          exact ⟨rfl, k, hk, this ▸ hc⟩

def versionStep (m : ModuleId) (info : ClassInfo) (new : ClassId)
    (acc : Bool × PatchPass ManagedImage) (old : ClassId) : Bool × PatchPass ManagedImage :=
  (acc.1 || (patchVersion policy m info new old acc.2).1,
    (patchVersion policy m info new old acc.2).2)

theorem patchVersions_image (m : ModuleId) (info : ClassInfo) (v : Versions)
    (p : PatchPass ManagedImage) : (patchVersions policy m info v p).image =
      (v.old.foldl (versionStep policy m info v.new) (false, p)).2.image := by
  unfold patchVersions versionStep
  simp only
  split <;> rfl

theorem versionSteps_confined (m : ModuleId) (olds : List ClassId)
    (acc : Bool × PatchPass ManagedImage)
    (hinfo : CodeImage.info? acc.2.image new = some info) :
    Confined (fun d => d ∈ olds ∧ HasLayout acc.2.image info d) acc.2.image
      (olds.foldl (versionStep policy m info new) acc).2.image := by
  induction olds generalizing acc with
  | nil => exact Confined.refl _ _
  | cons old olds ih =>
    have h := patchVersion_confined policy m old acc.2 hinfo
    have hrest := ih (versionStep policy m info new acc old) ((h.info? new).trans hinfo)
    refine (h.mono ?_).trans (hrest.mono ?_)
    · rintro d ⟨rfl, hd⟩
      exact ⟨List.mem_cons_self, hd⟩
    · rintro d ⟨hd, hl⟩
      exact ⟨List.mem_cons_of_mem _ hd, (h.hasLayout info d).1 hl⟩

theorem patchVersions_confined (m : ModuleId) (v : Versions) (p : PatchPass ManagedImage)
    (hinfo : CodeImage.info? p.image v.new = some info) :
    Confined (fun d => d ∈ v.old ∧ HasLayout p.image info d) p.image
      (patchVersions policy m info v p).image := by
  rw [patchVersions_image]
  exact versionSteps_confined policy m v.old (false, p) hinfo

theorem collect?_new {c : ClassId} {v : Versions} (h : Versions.collect? image c = some v) :
    v.new = c := by
  simp only [Versions.collect?, Option.bind_eq_bind, Option.bind_eq_some_iff] at h
  obtain ⟨_, _, _, _, hv⟩ := h
  cases hv
  rfl

theorem patchClass_confined (m : ModuleId) (acc : List ClassId × PatchPass ManagedImage)
    (c : ClassId) :
    Confined (IsOlderVersionOf acc.2.image c) acc.2.image (patchClass policy m acc c).2.image := by
  simp only [patchClass]
  split
  · exact Confined.refl _ _
  · rename_i info hi
    split
    · exact Confined.refl _ _
    · rename_i hg
      split
      · exact Confined.refl _ _
      · rename_i v hv
        split
        · have h := patchVersions_confined policy m v (acc.2.list c info.name)
            ((collect?_new hv).symm ▸ hi)
          exact h.mono fun d hd => ⟨info, v, hi, by simpa using hg, hv, hd⟩
        · exact Confined.refl _ _

/-- The first part of a patch: the generic definitions it leaves for later, and the pass. -/
theorem patchEachClass_confined (m : ModuleId) (cs : List ClassId)
    (acc : List ClassId × PatchPass ManagedImage) :
    Confined (fun d => ∃ c ∈ cs, IsOlderVersionOf acc.2.image c d) acc.2.image
      (cs.foldl (patchClass policy m) acc).2.image := by
  induction cs generalizing acc with
  | nil => exact Confined.refl _ _
  | cons c cs ih =>
    have h := patchClass_confined policy m acc c
    refine (h.mono ?_).trans ((ih _).mono ?_)
    · intro d hd
      exact ⟨c, List.mem_cons_self, hd⟩
    · rintro d ⟨e, he, hd⟩
      exact ⟨e, List.mem_cons_of_mem c he, IsOlderVersionOf.of_confined h hd⟩

theorem patchClass_generics (acc : List ClassId × PatchPass ManagedImage) (c : ClassId) :
    (patchClass policy m acc c).1 =
      acc.1 ++ if (CodeImage.info? acc.2.image c).any (·.isGeneric) then [c] else [] := by
  simp only [patchClass]
  cases hi : CodeImage.info? acc.2.image c with
  | none => simp
  | some info =>
    cases hgeneric : info.isGeneric with
    | true => simp [hgeneric]
    | false =>
      simp only [hgeneric, Bool.false_eq_true, if_false]
      split
      · simp [hgeneric]
      · split <;> simp [hgeneric]

/-- The generic definitions that the first part of a patch collects. -/
theorem patchEachClass_generics (cs : List ClassId)
    (acc : List ClassId × PatchPass ManagedImage) :
    (cs.foldl (patchClass policy m) acc).1 =
      acc.1 ++ cs.filter fun c => (CodeImage.info? acc.2.image c).any (·.isGeneric) := by
  induction cs generalizing acc with
  | nil => simp
  | cons c cs ih =>
    have h := patchClass_confined policy m acc c
    simp only [List.foldl_cons, ih, h.info?, patchClass_generics, List.filter_cons]
    split <;> simp

def generics (image : ManagedImage) (m : ModuleId) : List ClassId :=
  (CodeImage.classesIn image m).filter fun c =>
    (CodeImage.info? image c).any (·.isGeneric)

theorem patchClasses_eq (rules : PatchRules) (p : PatchPass ManagedImage) :
    patchClasses policy rules m p = (generics p.image m).foldl (patchGeneric policy rules m)
      ((CodeImage.classesIn p.image m).foldl (patchClass policy m) ([], p)).2 := by
  have h := patchEachClass_generics policy (m := m) (CodeImage.classesIn p.image m) ([], p)
  rw [List.nil_append] at h
  rw [generics, ← h]
  rfl

/-- The definition has the descriptor patched in place. -/
def visits (rules : PatchRules) (image : ManagedImage) (d g : ClassId) : Bool :=
  rules.tracksGenerics && (CodeImage.info? image g).any fun info =>
    decide (d ∈ rules.recorded.under info.base)

theorem visits_confined {D : ClassId → Prop} {after : ManagedImage} (h : Confined D image after)
    (rules : PatchRules) (d : ClassId) : visits rules after d = visits rules image d := by
  funext g
  simp only [visits, h.info?]

theorem isSpecialization_iff (rules : PatchRules) (d : ClassId) :
    IsSpecialization image rules m d ↔ (generics image m).any (visits rules image d) = true := by
  simp only [IsSpecialization, generics, List.any_eq_true, List.mem_filter, visits,
    Bool.and_eq_true, Option.any_eq_true, decide_eq_true_iff]
  constructor
  · rintro ⟨ht, g, hg, info, hi, hgeneric, hd⟩
    exact ⟨g, ⟨hg, info, hi, hgeneric⟩, ht, info, hi, hd⟩
  · rintro ⟨g, ⟨hg, info, hi, hgeneric⟩, ht, info', hi', hd⟩
    rw [hi] at hi'
    cases hi'
    exact ⟨ht, g, hg, info, hi, hgeneric, hd⟩

theorem patchGeneric_confined (rules : PatchRules) (p : PatchPass ManagedImage) (g : ClassId) :
    Confined (fun d => visits rules p.image d g = true) p.image
      (patchGeneric policy rules m p g).image := by
  cases ht : rules.tracksGenerics with
  | false =>
    simp only [patchGeneric, GenericPass.patch, ht]
    exact Confined.refl _ _
  | true =>
    cases hi : CodeImage.info? p.image g with
    | none =>
      simp only [patchGeneric, GenericPass.patch, ht, hi]
      exact Confined.refl _ _
    | some info =>
      have h := GenericPass.patchEach_confined policy g m rules.lifecycleHook
        (rules.recorded.under info.base) ⟨p.image, p.cache, {}⟩
      simp only [patchGeneric, GenericPass.patch, ht, hi, Bool.not_true, Bool.false_eq_true,
        if_false]
      exact h.mono fun d hd => by simpa [visits, ht, hi] using hd

theorem patchEachGeneric_confined (rules : PatchRules) (gs : List ClassId)
    (p : PatchPass ManagedImage) :
    Confined (fun d => gs.any (visits rules p.image d) = true) p.image
      (gs.foldl (patchGeneric policy rules m) p).image := by
  induction gs generalizing p with
  | nil => exact Confined.refl _ _
  | cons g gs ih =>
    have h := patchGeneric_confined policy (m := m) rules p g
    refine (h.trans_any (ih _)).mono fun d hd => ?_
    rw [visits_confined h] at hd
    simpa using hd

theorem patchGenerics_confined (m : ModuleId) (rules : PatchRules) (p : PatchPass ManagedImage) :
    Confined (IsSpecialization p.image rules m)
      ((CodeImage.classesIn p.image m).foldl (patchClass policy m) ([], p)).2.image
      (patchClasses policy rules m p).image := by
  have h := patchEachClass_confined policy m (CodeImage.classesIn p.image m) ([], p)
  rw [patchClasses_eq]
  refine (patchEachGeneric_confined policy rules _ _).mono fun d hd => ?_
  rw [visits_confined h] at hd
  exact (isSpecialization_iff rules d).2 hd

/-- Patching the classes of a module writes into older versions of its classes of their layout and
into recorded specializations of its generic definitions, and nowhere else. -/
theorem patchClasses_confined (m : ModuleId) (rules : PatchRules) (p : PatchPass ManagedImage) :
    Confined (fun d => IsOlderVersion p.image m d ∨ IsSpecialization p.image rules m d) p.image
      (patchClasses policy rules m p).image := by
  have h := patchEachClass_confined policy m (CodeImage.classesIn p.image m) ([], p)
  exact h.trans_any (patchGenerics_confined policy m rules p)

end PatchPass

end Module

end HotReload
