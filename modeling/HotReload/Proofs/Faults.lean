import HotReload.Faulty
import HotReload.Patch.Generics

/-! # Faults in class tables

Faults that meet only what is read and written of classes leave everything else as it is without
them: modules and their symbols, call sites, and the search for a symbol.
-/

namespace HotReload

namespace Fault

def isOfTables : Fault → Bool
  | .info _ | .slots _ | .selectors _ _ | .writeSlot _ _ | .replaceSelector _ _ _ => true
  | _ => false

def isOfWrites : Fault → Bool
  | .writeSlot _ _ | .replaceSelector _ _ _ => true
  | _ => false

def names (c : ClassId) : Fault → Bool
  | .info d | .slots d | .selectors d _ | .writeSlot d _ | .replaceSelector d _ _
  | .invokeClassMethod d => meets d c
  | _ => false

theorem isOfTables_of_isOfWrites {f : Fault} (h : f.isOfWrites = true) : f.isOfTables = true := by
  cases f <;> first | rfl | cases h

end Fault

namespace Interposition

/-- A way to put one image into another in which modules and call sites are the same. -/
structure Transparent {ι κ : Type} [CodeImage ι] [CodeImage κ] (F : ι → κ) : Prop where
  modules : ∀ image, CodeImage.modules (F image) = CodeImage.modules image
  sequence? : ∀ image m, CodeImage.sequence? (F image) m = CodeImage.sequence? image m
  exports : ∀ image m, CodeImage.exports (F image) m = CodeImage.exports image m
  rebind : ∀ image m rs, CodeImage.rebind (F image) m rs =
    ((CodeImage.rebind image m rs).1, F (CodeImage.rebind image m rs).2)

namespace Transparent

variable {ι κ : Type} [CodeImage ι] [CodeImage κ] {F : ι → κ}

theorem rebindAll (h : Transparent F) (batch : List Rebinding) (ms : List ModuleId) (image : ι) :
    Interposition.rebindAll batch ms (F image) =
      ((Interposition.rebindAll batch ms image).1,
        F (Interposition.rebindAll batch ms image).2) := by
  unfold Interposition.rebindAll
  generalize ([] : List String) = names
  induction ms generalizing names image with
  | nil => rfl
  | cons m ms ih =>
    rw [List.foldl_cons, List.foldl_cons]
    simp only [h.rebind]
    exact ih (CodeImage.rebind image m batch).2 _

/-- Taking in a module does not notice what is around the modules. -/
theorem absorb (h : Transparent F) (t : Interposition) (preserve : Bool) (image : ι)
    (m : ModuleId) : t.absorb preserve (F image) m =
      (t.absorb preserve image m).map fun done => ⟨done.table, F done.image, done.rebound⟩ := by
  unfold Interposition.absorb
  rw [h.sequence?]
  cases CodeImage.sequence? image m with
  | none => rfl
  | some sequence =>
    simp only [h.exports, h.modules, h.rebindAll]
    split <;> simp only [h.rebind, Except.map]

end Transparent

end Interposition

namespace Faulty

section Calls

variable {ι : Type} {i : Faulty ι} {c : ClassId}

def OfTables (i : Faulty ι) : Prop := ∀ f ∈ i.faults, f.isOfTables = true

/-- Some call that reads the descriptor fails. -/
def Hides (i : Faulty ι) (c : ClassId) : Prop :=
  i.failsInfo c = true ∨ i.failsSlots c = true ∨ ∃ t, i.failsSelectors c t = true

def Names (i : Faulty ι) (c : ClassId) : Prop := ∃ f ∈ i.faults, f.names c = true

theorem names_of_any {p : Fault → Bool} (hp : ∀ f, p f = true → f.names c = true)
    (h : i.faults.any p = true) : i.Names c := by
  obtain ⟨f, hf, hmeets⟩ := List.any_eq_true.1 h
  exact ⟨f, hf, hp f hmeets⟩

theorem any_eq_false {p q : Fault → Bool} (hp : ∀ f, q f = true → p f = false)
    (h : ∀ f ∈ i.faults, q f = true) : i.faults.any p = false :=
  List.any_eq_false.2 fun f hf => by simp [hp f (h f hf)]

/-- What fails for a descriptor fails by a fault that names it. -/
theorem names_of_hides (h : i.Hides c) : i.Names c := by
  rcases h with h | h | ⟨t, h⟩ <;>
    exact names_of_any (fun f hf => by cases f <;> simp_all [Fault.names]) h

theorem failsWriteSlot_eq_false (h : ¬i.Names c) (index : Nat) :
    i.failsWriteSlot c index = false := by
  rw [← Bool.not_eq_true]
  exact fun hf => h (names_of_any (fun f hf => by cases f <;> simp_all [Fault.names]) hf)

theorem failsReplace_eq_false (h : ¬i.Names c) (t : SelectorTable) (selector : String) :
    i.failsReplace c t selector = false := by
  rw [← Bool.not_eq_true]
  exact fun hf => h (names_of_any (fun f hf => by cases f <;> simp_all [Fault.names]) hf)

/-- Faults that meet writes only hide nothing. -/
theorem not_hides (h : ∀ f ∈ i.faults, f.isOfWrites = true) (c : ClassId) : ¬i.Hides c := by
  have hread {p : Fault → Bool} (hp : ∀ f, f.isOfWrites = true → p f = false) :
      i.faults.any p ≠ true := by simp [any_eq_false hp h]
  rintro (hc | hc | ⟨t, hc⟩) <;>
    exact hread (fun f hf => by cases f <;> first | rfl | cases hf) hc

variable [CodeImage ι]

theorem info?_eq (h : ¬i.Hides c) : CodeImage.info? i c = CodeImage.info? i.base c := by
  have hc : i.failsInfo c = false := by simpa using fun hc => h (.inl hc)
  simp only [CodeImage.info?, hc]
  rfl

theorem slots_eq (h : ¬i.Hides c) : CodeImage.slots i c = CodeImage.slots i.base c := by
  have hc : i.failsSlots c = false := by simpa using fun hc => h (.inr (.inl hc))
  simp only [CodeImage.slots, hc]
  rfl

theorem selectors_eq (h : ¬i.Hides c) (t : SelectorTable) :
    CodeImage.selectors i c t = CodeImage.selectors i.base c t := by
  have hc : i.failsSelectors c t = false := by simpa using fun hc => h (.inr (.inr ⟨t, hc⟩))
  simp only [CodeImage.selectors, hc]
  rfl

namespace OfTables

variable (h : i.OfTables)

include h

theorem sequence?_eq (m : ModuleId) : CodeImage.sequence? i m = CodeImage.sequence? i.base m := by
  have hm : i.failsSequence m = false :=
    any_eq_false (fun f hf => by cases f <;> first | rfl | cases hf) h
  simp only [CodeImage.sequence?, hm]
  rfl

theorem symbolAt?_eq (m : ModuleId) (a : Address) :
    CodeImage.symbolAt? i m a = CodeImage.symbolAt? i.base m a := by
  have hm : i.failsSymbolAt m a = false :=
    any_eq_false (fun f hf => by cases f <;> first | rfl | cases hf) h
  simp only [CodeImage.symbolAt?, hm]
  rfl

theorem address?_eq (m : ModuleId) (name : String) :
    CodeImage.address? i m name = CodeImage.address? i.base m name := by
  have hm : i.failsAddress m name = false :=
    any_eq_false (fun f hf => by cases f <;> first | rfl | cases hf) h
  simp only [CodeImage.address?, hm]
  rfl

theorem rebind_eq (m : ModuleId) (rs : List Rebinding) : CodeImage.rebind i m rs =
    ((CodeImage.rebind i.base m rs).1, i.around (CodeImage.rebind i.base m rs).2) := by
  have hm : i.failsRebind m = false :=
    any_eq_false (fun f hf => by cases f <;> first | rfl | cases hf) h
  simp only [CodeImage.rebind, hm]
  rfl

theorem resolve_eq (cache : SymbolCache) (a : Address) (scope : Option ModuleId) :
    cache.resolve i a scope = cache.resolve i.base a scope := by
  have hsearch : SymbolCache.search i a scope = SymbolCache.search i.base a scope := by
    simp only [SymbolCache.search, h.symbolAt?_eq]
    rfl
  simp only [SymbolCache.resolve, hsearch]

theorem transparent : Interposition.Transparent i.around where
  modules _ := rfl
  sequence? image m := sequence?_eq (i := i.around image) h m
  exports _ _ := rfl
  rebind image m rs := rebind_eq (i := i.around image) h m rs

end OfTables

/-- A write that is not refused is the write without faults. -/
theorem writeSlot_ok {index : Nat} {a : Address} {after : Faulty ι} :
    CodeImage.writeSlot i c index a = .ok after ↔ i.failsWriteSlot c index = false ∧
      ∃ base, CodeImage.writeSlot i.base c index a = .ok base ∧ i.around base = after := by
  simp only [CodeImage.writeSlot]
  cases i.failsWriteSlot c index with
  | true => simp
  | false => cases CodeImage.writeSlot i.base c index a <;> simp [Except.map]

theorem replaceSelector_ok {t : SelectorTable} {selector : String} {a : Address}
    {after : Faulty ι} :
    CodeImage.replaceSelector i c t selector a = .ok after ↔ i.failsReplace c t selector = false ∧
      ∃ base, CodeImage.replaceSelector i.base c t selector a = .ok base ∧
        i.around base = after := by
  simp only [CodeImage.replaceSelector]
  cases i.failsReplace c t selector with
  | true => simp
  | false => cases CodeImage.replaceSelector i.base c t selector a <;> simp [Except.map]

end Calls

section Refusals

variable {ι : Type} [CodeImage ι] {c : ClassId}

theorem settle_refused {p : SlotPass (Faulty ι)} {index : Nat}
    (h : p.image.failsWriteSlot c index = true) (current : Address) (target : Option Address) :
    (p.settle c index current target).image = p.image ∧
      (p.settle c index current target).cache = p.cache := by
  cases target with
  | none => exact ⟨rfl, rfl⟩
  | some a =>
    simp only [SlotPass.settle, SlotPass.apply, CodeImage.writeSlot, h, if_true]
    split <;> exact ⟨rfl, rfl⟩

theorem copyEntry_refused {acc : SwizzleOutcome × Faulty ι} {t : SelectorTable}
    {e : String × Address} {before : Selectors} (h : acc.2.failsReplace c t e.1 = true) :
    (Swizzle.copyEntry c t before acc e).2 = acc.2 := by
  simp only [Swizzle.copyEntry, CodeImage.replaceSelector, h, if_true]
  split
  · rfl
  · split <;> rfl

end Refusals

end Faulty

end HotReload
