import HotReload.Patch.Module

/-! # What a patch leaves alone

All that a patch does to a process is to ask for symbols and to write into tables of descriptors.
What neither disturbs, no part of a patch disturbs.
-/

namespace HotReload

variable {ι : Type} [CodeImage ι] {policy : SlotPolicy} {m : ModuleId} {c d : ClassId}

/-- A property of an image and its cache that survives questions and writes into a descriptor's
slots. -/
structure SlotPass.Invariant (c : ClassId) (J : ι → SymbolCache → Prop) : Prop where
  resolve : ∀ {image cache} a scope, J image cache → J image (cache.resolve image a scope).2
  write : ∀ {image cache index a after}, J image cache →
    CodeImage.writeSlot image c index a = .ok after → J after cache

/-- A property of an image that survives the replacement of a descriptor's selectors. -/
structure Swizzle.Invariant (c : ClassId) (I : ι → Prop) : Prop where
  replace : ∀ {image t selector a after}, I image →
    CodeImage.replaceSelector image c t selector a = .ok after → I after

/-- A property of an image and its cache that survives all that a patch does to a descriptor. -/
structure PatchPass.Invariant (c : ClassId) (J : ι → SymbolCache → Prop) : Prop where
  slots : SlotPass.Invariant c J
  selectors : ∀ cache, Swizzle.Invariant c fun image => J image cache

namespace SlotPass.Invariant

variable {J : ι → SymbolCache → Prop} (h : Invariant c J)

include h

theorem settle {p : SlotPass ι} (hp : J p.image p.cache) (index : Nat) (current : Address)
    (target : Option Address) :
    let after := p.settle c index current target
    J after.image after.cache := by
  cases target with
  | none => exact hp
  | some a =>
    simp only [SlotPass.settle, SlotPass.apply]
    split
    · exact hp
    · split
      · rename_i after hw
        exact h.write hp hw
      · exact hp

theorem patchSlot {p : SlotPass ι} (hp : J p.image p.cache)
    (slot : (Address × Address) × Nat) :
    let after := policy.patchSlot c m p slot
    J after.image after.cache := by
  obtain ⟨⟨current, wanted⟩, index⟩ := slot
  exact h.settle (p := { p with cache := (p.cache.resolve p.image wanted (some m)).2 })
    (h.resolve wanted (some m) hp) index current _

theorem refreshSlot {p : SlotPass ι} (hp : J p.image p.cache) (slot : Address × Nat) :
    let after := policy.refreshSlot c m p slot
    J after.image after.cache := by
  obtain ⟨current, index⟩ := slot
  exact h.settle (p := { p with cache := (p.cache.resolve p.image current none).2 })
    (h.resolve current none hp) index current _

theorem patch {cache : SymbolCache} {image : ι} {new : ClassId} {pass : SlotPass ι}
    (hpass : policy.patch cache image c new m = .ok pass) (hp : J image cache) :
    J pass.image pass.cache := by
  simp only [SlotPolicy.patch, bind, Except.bind, pure, Except.pure, throw, throwThe,
    MonadExceptOf.throw] at hpass
  repeat' split at hpass
  all_goals first | (obtain rfl := Except.ok.inj hpass) | cases hpass
  · exact hp
  · exact hp
  · exact List.foldlRecOn (motive := fun p : SlotPass ι => J p.image p.cache) _ _ hp
      fun p hp slot _ => h.patchSlot hp slot

theorem patchInPlace {cache : SymbolCache} {image : ι} {pass : SlotPass ι}
    (hpass : policy.patchInPlace cache image c m = .ok pass) (hp : J image cache) :
    J pass.image pass.cache := by
  simp only [SlotPolicy.patchInPlace, bind, Except.bind, pure, Except.pure, throw, throwThe,
    MonadExceptOf.throw] at hpass
  repeat' split at hpass
  all_goals first | (obtain rfl := Except.ok.inj hpass) | cases hpass
  exact List.foldlRecOn (motive := fun p : SlotPass ι => J p.image p.cache) _ _ hp
    fun p hp slot _ => h.refreshSlot hp slot

end SlotPass.Invariant

namespace Swizzle.Invariant

variable {I : ι → Prop} (h : Invariant c I)

include h

theorem copyEntry {acc : SwizzleOutcome × ι} (hacc : I acc.2) (t : SelectorTable)
    (before : Selectors) (e : String × Address) : I (Swizzle.copyEntry c t before acc e).2 := by
  obtain ⟨outcome, image⟩ := acc
  simp only [Swizzle.copyEntry]
  split
  · exact hacc
  · split
    · exact hacc
    · split
      · rename_i after hr
        exact h.replace hacc hr
      · exact hacc

theorem copyTable {acc : SwizzleOutcome × ι} (hacc : I acc.2) (new : ClassId)
    (accepts : String → Bool) (t : SelectorTable) :
    I (Swizzle.copyTable c new accepts acc t).2 := by
  simp only [Swizzle.copyTable]
  split
  · exact List.foldlRecOn (motive := fun acc : SwizzleOutcome × ι => I acc.2) _ _ hacc
      fun acc hacc e _ => h.copyEntry hacc t _ e
  · exact hacc

theorem swizzle {image : ι} (hi : I image) (new : ClassId) (accepts : String → Bool) :
    I (Swizzle.swizzle image c new accepts).2 := by
  have hfirst : I (Swizzle.copyTable c new accepts ({}, image) .onInstances).2 :=
    h.copyTable hi new accepts .onInstances
  exact h.copyTable hfirst new accepts .onClass

end Swizzle.Invariant

omit [CodeImage ι] in
theorem PatchPass.mismatch_image (p : PatchPass ι) (name : String) :
    (p.mismatch name).image = p.image := by
  unfold mismatch
  split <;> rfl

omit [CodeImage ι] in
theorem PatchPass.mismatch_cache (p : PatchPass ι) (name : String) :
    (p.mismatch name).cache = p.cache := by
  unfold mismatch
  split <;> rfl

/-- What holds of a pass and survives every older version and the count of the class holds when the
versions are patched. -/
theorem PatchPass.patchVersions_induction (policy : SlotPolicy) (m : ModuleId) (info : ClassInfo)
    (v : Versions) {M : PatchPass ι → Prop} {p : PatchPass ι} (hp : M p)
    (hversion : ∀ q old, M q → M (patchVersion policy m info v.new old q).2)
    (hcount : ∀ q n, M q → M { q with report := { q.report with classesPatched := n } }) :
    M (patchVersions policy m info v p) := by
  have hfold := List.foldlRecOn (motive := fun acc : Bool × PatchPass ι => M acc.2) v.old
    (fun acc old =>
      let one := patchVersion policy m info v.new old acc.2
      (acc.1 || one.1, one.2)) (b := (false, p)) hp fun acc hacc old _ => hversion acc.2 old hacc
  unfold patchVersions
  simp only
  split
  · exact hcount _ _ hfold
  · exact hfold

namespace PatchPass.Invariant

variable {J : ι → SymbolCache → Prop}

theorem patchVersion (h : Invariant c J) {p : PatchPass ι} (hp : J p.image p.cache)
    (info : ClassInfo) (new : ClassId) :
    let after := (PatchPass.patchVersion policy m info new c p).2
    J after.image after.cache := by
  simp only [PatchPass.patchVersion]
  split
  · split
    · exact hp
    · split
      · rwa [mismatch_image, mismatch_cache]
      · exact (h.selectors p.cache).swizzle hp new _
  · split
    · exact hp
    · rename_i pass hpass
      have hslots := h.slots.patch hpass hp
      split
      · rwa [mismatch_image, mismatch_cache]
      · exact (h.selectors pass.cache).swizzle hslots new _

theorem patchOne (h : Invariant c J) {p : GenericPass ι} (hp : J p.image p.cache)
    (definition : ClassId) (hook : String) :
    let after := GenericPass.patchOne policy definition m hook p c
    J after.image after.cache := by
  simp only [GenericPass.patchOne]
  split
  · exact hp
  · rename_i pass hpass
    exact (h.selectors pass.cache).swizzle (h.slots.patchInPlace hpass hp) definition _

theorem patchVersions (h : ∀ c, Invariant c J) {p : PatchPass ι} (hp : J p.image p.cache)
    (info : ClassInfo) (v : Versions) :
    let after := PatchPass.patchVersions policy m info v p
    J after.image after.cache :=
  PatchPass.patchVersions_induction policy m info v (M := fun p => J p.image p.cache) hp
    (fun _ old hq => (h old).patchVersion hq info v.new) fun _ _ hq => hq

theorem patchClass (h : ∀ c, Invariant c J) {acc : List ClassId × PatchPass ι}
    (hacc : J acc.2.image acc.2.cache) (c : ClassId) :
    let after := (PatchPass.patchClass policy m acc c).2
    J after.image after.cache := by
  simp only [PatchPass.patchClass]
  split
  · exact hacc
  · split
    · exact hacc
    · split
      · exact hacc
      · split
        · exact patchVersions h (p := acc.2.list c _) hacc _ _
        · exact hacc

theorem patchEachClass (h : ∀ c, Invariant c J) {acc : List ClassId × PatchPass ι}
    (hacc : J acc.2.image acc.2.cache) (cs : List ClassId) :
    let after := (cs.foldl (PatchPass.patchClass policy m) acc).2
    J after.image after.cache :=
  List.foldlRecOn (motive := fun acc : List ClassId × PatchPass ι => J acc.2.image acc.2.cache)
    cs _ hacc fun _ hacc c _ => patchClass h hacc c

theorem patchGeneric (h : ∀ c, Invariant c J) {p : PatchPass ι} (hp : J p.image p.cache)
    (rules : PatchRules) (g : ClassId) :
    let after := PatchPass.patchGeneric policy rules m p g
    J after.image after.cache := by
  simp only [PatchPass.patchGeneric, GenericPass.patch]
  split
  · exact hp
  · rename_i pass hpass
    split at hpass
    · obtain rfl := Except.ok.inj hpass
      exact hp
    · split at hpass
      · cases hpass
      · obtain rfl := Except.ok.inj hpass
        exact List.foldlRecOn (motive := fun p : GenericPass ι => J p.image p.cache) _ _ hp
          fun p hp c _ => (h c).patchOne hp g rules.lifecycleHook

theorem patchClasses (h : ∀ c, Invariant c J) {p : PatchPass ι} (hp : J p.image p.cache)
    (rules : PatchRules) :
    let after := PatchPass.patchClasses policy rules m p
    J after.image after.cache := by
  have hclasses :
      let after := ((CodeImage.classesIn p.image m).foldl (PatchPass.patchClass policy m) ([], p)).2
      J after.image after.cache := patchEachClass h hp _
  exact List.foldlRecOn (motive := fun p : PatchPass ι => J p.image p.cache) _ _ hclasses
    fun p hp g _ => patchGeneric h hp rules g

end PatchPass.Invariant

end HotReload
