import HotReload.Patch.Module

/-! # Images that answer alike

Patching reaches an image through its calls alone. Two images whose calls have the same answers, and
still do after every change that both take, are patched alike, whatever they are made of.
-/

namespace HotReload

/-- Two outcomes agree: the same failure, or related results. -/
def Agree {α β : Type} (R : α → β → Prop) : Except Failure α → Except Failure β → Prop
  | .ok a, .ok b => R a b
  | .error e, .error f => e = f
  | _, _ => False

def Beside {ι κ α : Type} (R : ι → κ → Prop) (x : α × ι) (y : α × κ) : Prop :=
  x.1 = y.1 ∧ R x.2 y.2

/-- A relation between images of two kinds under which every call that reads has one answer, and
every call that writes fails alike or has one result and keeps the relation. -/
structure CodeImage.Bisimulation {ι κ : Type} [CodeImage ι] [CodeImage κ] (R : ι → κ → Prop) :
    Prop where
  modules {image other} : R image other → modules image = modules other
  sequence? {image other} : R image other → ∀ m, sequence? image m = sequence? other m
  exports {image other} : R image other → ∀ m, exports image m = exports other m
  symbolAt? {image other} : R image other → ∀ m a, symbolAt? image m a = symbolAt? other m a
  address? {image other} : R image other → ∀ m name, address? image m name = address? other m name
  callSite? {image other} : R image other →
    ∀ m name, callSite? image m name = callSite? other m name
  classesIn {image other} : R image other → ∀ m, classesIn image m = classesIn other m
  classesNamed {image other} : R image other → ∀ name, classesNamed image name =
    classesNamed other name
  classCount {image other} : R image other → classCount image = classCount other
  info? {image other} : R image other → ∀ c, info? image c = info? other c
  slots {image other} : R image other → ∀ c, slots image c = slots other c
  selectors {image other} : R image other → ∀ c t, selectors image c t = selectors other c t
  rebind {image other} : R image other → ∀ m rs, Beside R (rebind image m rs) (rebind other m rs)
  writeSlot {image other} : R image other → ∀ c index a,
    Agree R (writeSlot image c index a) (writeSlot other c index a)
  replaceSelector {image other} : R image other → ∀ c t selector a,
    Agree R (replaceSelector image c t selector a) (replaceSelector other c t selector a)

namespace CodeImage.Bisimulation

variable {ι κ : Type} [CodeImage ι] [CodeImage κ] {R : ι → κ → Prop} {image : ι} {other : κ}

theorem find? (hR : Bisimulation R) (h : R image other) (name : String) :
    CodeImage.find? image name = CodeImage.find? other name := by
  have hat : ∀ m, CodeImage.symbolAt? image m = CodeImage.symbolAt? other m :=
    fun m => funext (hR.symbolAt? h m)
  simp only [CodeImage.find?, hR.modules h, hR.address? h, hat]

theorem search (hR : Bisimulation R) (h : R image other) (a : Address) (scope : Option ModuleId) :
    SymbolCache.search image a scope = SymbolCache.search other a scope := by
  simp only [SymbolCache.search, hR.modules h, hR.symbolAt? h]

theorem resolve (hR : Bisimulation R) (h : R image other) (cache : SymbolCache) (a : Address)
    (scope : Option ModuleId) : cache.resolve image a scope = cache.resolve other a scope := by
  simp only [SymbolCache.resolve, hR.search h]

theorem patchable? (hR : Bisimulation R) (h : R image other) (policy : SlotPolicy)
    (cache : SymbolCache) (a : Address) (scope : Option ModuleId) :
    policy.patchable? cache image a scope = policy.patchable? cache other a scope := by
  simp only [SlotPolicy.patchable?, hR.resolve h]

end CodeImage.Bisimulation

open CodeImage (Bisimulation)

section CallSites

namespace Interposition

variable {ι κ : Type} [CodeImage ι] [CodeImage κ] {R : ι → κ → Prop} {image : ι} {other : κ}

/-- Two modules were taken in alike. -/
structure Absorbed.Alike (R : ι → κ → Prop) (x : Absorbed ι) (y : Absorbed κ) : Prop where
  table : x.table = y.table
  rebound : x.rebound = y.rebound
  image : R x.image y.image

theorem rebindAll_alike (hR : Bisimulation R) (h : R image other) (batch : List Rebinding)
    (ms : List ModuleId) : Beside R (rebindAll batch ms image) (rebindAll batch ms other) := by
  refine List.foldl_rel (r := Beside R) ⟨rfl, h⟩ fun m _ x y hxy => ?_
  obtain ⟨hnames, himage⟩ := hxy
  obtain ⟨hchanged, hrebound⟩ := hR.rebind himage m batch
  exact ⟨by simp only [hnames, hchanged], hrebound⟩

theorem absorb_alike (hR : Bisimulation R) (h : R image other) (t : Interposition)
    (preserve : Bool) (m : ModuleId) :
    Agree (Absorbed.Alike R) (t.absorb preserve image m) (t.absorb preserve other m) := by
  simp only [absorb, hR.sequence? h, hR.exports h, hR.modules h]
  cases CodeImage.sequence? other m with
  | none => exact rfl
  | some sequence =>
    dsimp only
    obtain ⟨batch, table⟩ := recordExports preserve m sequence (CodeImage.exports other m) t
    have helsewhere : Beside R
        (if batch.isEmpty then ([], image)
          else rebindAll batch ((CodeImage.modules other).filter (· != m)) image)
        (if batch.isEmpty then ([], other)
          else rebindAll batch ((CodeImage.modules other).filter (· != m)) other) := by
      split
      · exact ⟨rfl, h⟩
      · exact rebindAll_alike hR h _ _
    obtain ⟨hnames, himage⟩ := helsewhere
    obtain ⟨hhere, hrebound⟩ := hR.rebind himage m table.rebindings
    exact ⟨rfl, by simp only [hnames, hhere], hrebound⟩

end Interposition

end CallSites

section Slots

variable {ι κ : Type} [CodeImage ι] [CodeImage κ] {R : ι → κ → Prop} {image : ι} {other : κ}

/-- Two slot patches have come equally far. -/
structure SlotPass.Alike (R : ι → κ → Prop) (p : SlotPass ι) (q : SlotPass κ) : Prop where
  image : R p.image q.image
  cache : p.cache = q.cache
  outcome : p.outcome = q.outcome

namespace SlotPass.Alike

variable {p : SlotPass ι} {q : SlotPass κ}

theorem apply (hR : Bisimulation R) (h : Alike R p q) (c : ClassId) (index : Nat)
    (current target : Address) :
    Alike R (p.apply c index current target) (q.apply c index current target) := by
  simp only [SlotPass.apply]
  split
  · exact ⟨h.image, h.cache, by rw [h.outcome]⟩
  · have hwrite := hR.writeSlot h.image c index target
    cases hp : CodeImage.writeSlot p.image c index target <;>
      cases hq : CodeImage.writeSlot q.image c index target <;>
      simp only [hp, hq, Agree] at hwrite ⊢
    · exact ⟨h.image, h.cache, by rw [h.outcome]⟩
    · exact ⟨hwrite, h.cache, by rw [h.outcome]⟩

theorem settle (hR : Bisimulation R) (h : Alike R p q) (c : ClassId) (index : Nat)
    (current : Address) (target : Option Address) :
    Alike R (p.settle c index current target) (q.settle c index current target) := by
  cases target with
  | none => exact ⟨h.image, h.cache, by simp only [SlotPass.settle, SlotPass.skip, h.outcome]⟩
  | some a => exact h.apply hR c index current a

theorem patchSlot (hR : Bisimulation R) (h : Alike R p q) (policy : SlotPolicy) (old : ClassId)
    (m : ModuleId) (slot : (Address × Address) × Nat) :
    Alike R (policy.patchSlot old m p slot) (policy.patchSlot old m q slot) := by
  obtain ⟨⟨current, wanted⟩, index⟩ := slot
  simp only [SlotPolicy.patchSlot, h.cache, hR.patchable? h.image]
  refine settle hR ?_ old index current _
  exact ⟨h.image, rfl, h.outcome⟩

theorem refreshSlot (hR : Bisimulation R) (h : Alike R p q) (policy : SlotPolicy) (c : ClassId)
    (m : ModuleId) (slot : Address × Nat) :
    Alike R (policy.refreshSlot c m p slot) (policy.refreshSlot c m q slot) := by
  obtain ⟨current, index⟩ := slot
  simp only [SlotPolicy.refreshSlot, h.cache, hR.patchable? h.image, hR.address? h.image]
  refine settle hR ?_ c index current _
  exact ⟨h.image, rfl, h.outcome⟩

end SlotPass.Alike

namespace SlotPolicy

theorem patch_alike (hR : Bisimulation R) (h : R image other) (policy : SlotPolicy)
    (cache : SymbolCache) (old new : ClassId) (m : ModuleId) :
    Agree (SlotPass.Alike R) (policy.patch cache image old new m)
      (policy.patch cache other old new m) := by
  simp only [patch, hR.info? h, hR.slots h, bind, Except.bind, pure, Except.pure, throw, throwThe,
    MonadExceptOf.throw]
  cases CodeImage.info? other old with
  | none => exact rfl
  | some oldInfo =>
    cases CodeImage.info? other new with
    | none => exact rfl
    | some newInfo =>
      dsimp only
      by_cases hlayout : (layoutChange? oldInfo newInfo).isSome
      · rw [if_pos hlayout, if_pos hlayout]
        exact ⟨h, rfl, rfl⟩
      rw [if_neg hlayout, if_neg hlayout]
      cases CodeImage.slots other old with
      | error e => exact rfl
      | ok oldSlots =>
        cases CodeImage.slots other new with
        | error e => exact rfl
        | ok newSlots =>
          dsimp only
          by_cases hlength : oldSlots.length = newSlots.length
          · rw [if_neg (not_not_intro hlength), if_neg (not_not_intro hlength)]
            exact List.foldl_rel (r := SlotPass.Alike R) ⟨h, rfl, rfl⟩
              fun slot _ _ _ hpq => hpq.patchSlot hR policy old m slot
          · rw [if_pos hlength, if_pos hlength]
            exact ⟨h, rfl, rfl⟩

theorem patchInPlace_alike (hR : Bisimulation R) (h : R image other) (policy : SlotPolicy)
    (cache : SymbolCache) (c : ClassId) (m : ModuleId) :
    Agree (SlotPass.Alike R) (policy.patchInPlace cache image c m)
      (policy.patchInPlace cache other c m) := by
  simp only [patchInPlace, hR.info? h, hR.slots h, bind, Except.bind, pure, Except.pure, throw,
    throwThe, MonadExceptOf.throw]
  cases CodeImage.info? other c with
  | none => exact rfl
  | some info =>
    cases CodeImage.slots other c with
    | error e => exact rfl
    | ok slots =>
      exact List.foldl_rel (r := SlotPass.Alike R) ⟨h, rfl, rfl⟩
        fun slot _ _ _ hpq => hpq.refreshSlot hR policy c m slot

end SlotPolicy

end Slots

section Selectors

namespace Swizzle

variable {ι κ : Type} [CodeImage ι] [CodeImage κ] {R : ι → κ → Prop} {image : ι} {other : κ}

theorem copyEntry_alike (hR : Bisimulation R) (old : ClassId) (t : SelectorTable)
    (before : Selectors) (entry : String × Address) {x : SwizzleOutcome × ι}
    {y : SwizzleOutcome × κ} (h : Beside R x y) :
    Beside R (copyEntry old t before x entry) (copyEntry old t before y entry) := by
  obtain ⟨outcome, image⟩ := x
  obtain ⟨_, other⟩ := y
  obtain ⟨rfl, himage⟩ := h
  simp only [copyEntry]
  cases before.lookup entry.1 with
  | none => exact ⟨rfl, himage⟩
  | some current =>
    by_cases hsame : current = entry.2
    · simp only [hsame, if_true]
      exact ⟨rfl, himage⟩
    simp only [hsame, if_false]
    have hreplace := hR.replaceSelector himage old t entry.1 entry.2
    cases hx : CodeImage.replaceSelector image old t entry.1 entry.2 <;>
      cases hy : CodeImage.replaceSelector other old t entry.1 entry.2 <;>
      simp only [hx, hy, Agree] at hreplace ⊢
    · exact ⟨rfl, himage⟩
    · exact ⟨rfl, hreplace⟩

theorem copyTable_alike (hR : Bisimulation R) (old new : ClassId) (accepts : String → Bool)
    (t : SelectorTable) {x : SwizzleOutcome × ι} {y : SwizzleOutcome × κ} (h : Beside R x y) :
    Beside R (copyTable old new accepts x t) (copyTable old new accepts y t) := by
  simp only [copyTable, hR.selectors h.2]
  cases CodeImage.selectors y.2 old t with
  | error e => exact h
  | ok before =>
    cases CodeImage.selectors y.2 new t with
    | error e => exact h
    | ok after =>
      exact List.foldl_rel (r := Beside R) h
        fun entry _ _ _ hxy => copyEntry_alike hR old t before entry hxy

theorem swizzle_alike (hR : Bisimulation R) (h : R image other) (old new : ClassId)
    (accepts : String → Bool) :
    Beside R (swizzle image old new accepts) (swizzle other old new accepts) :=
  List.foldl_rel (r := Beside R) ⟨rfl, h⟩
    fun t _ _ _ hxy => copyTable_alike hR old new accepts t hxy

end Swizzle

end Selectors

end HotReload
