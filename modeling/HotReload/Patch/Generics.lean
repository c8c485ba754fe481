import HotReload.Patch.Selectors
import HotReload.Patch.Slots
import HotReload.Specializations

/-! # Patching specializations

When a generic definition is reloaded, every recorded specialization of its base is patched in
place, and its lifecycle selectors are copied from the new definition.
-/

namespace HotReload

inductive HookState where
  /-- Switched off, or not yet installed. -/
  | disabled
  | installed
  /-- The image offers none; generic patching is off for good. -/
  | unavailable
deriving DecidableEq, Inhabited

/-- A recorder, and whether the image records into it. -/
structure Tracker where
  state : HookState := .disabled
  recorder : RecorderId
deriving DecidableEq, Inhabited

namespace Tracker

variable {ι : Type} [CodeImage ι]

def isInstalled (t : Tracker) : Bool := t.state == .installed

/-- Installs the hook. The first attempt decides for good. -/
def install (t : Tracker) (image : ι) (enabled : Bool) : Tracker × ι :=
  if !enabled || t.state != .disabled then (t, image)
  else match CodeImage.observe image t.recorder with
    | .ok image => ({ t with state := .installed }, image)
    | .error _ => ({ t with state := .unavailable }, image)

end Tracker

structure GenericOutcome where
  specializations : Nat := 0
  slots : SlotOutcome := {}
  swizzle : SwizzleOutcome := {}
deriving DecidableEq, Inhabited

structure GenericPass (ι : Type) where
  image : ι
  cache : SymbolCache
  outcome : GenericOutcome := {}

namespace GenericPass

variable {ι : Type} [CodeImage ι]

/-- Selectors that every specialization takes from a new definition, besides the hook. -/
def lifecycleSelectors : List String := ["init", "deinit", "dealloc"]

def isLifecycle (hook selector : String) : Bool :=
  selector == hook || lifecycleSelectors.contains selector

/-- Patches one specialization; one that the image does not let be read is passed over. -/
def patchOne (policy : SlotPolicy) (definition : ClassId) (m : ModuleId) (hook : String)
    (p : GenericPass ι) (c : ClassId) : GenericPass ι :=
  match policy.patchInPlace p.cache p.image c m with
  | .error _ => p
  | .ok pass =>
    let (swizzled, image) := Swizzle.swizzle pass.image c definition (isLifecycle hook)
    ⟨image, pass.cache,
      { specializations := p.outcome.specializations + 1
        slots := p.outcome.slots.merge pass.outcome
        swizzle := p.outcome.swizzle.merge swizzled }⟩

/-- Patches every recorded specialization of a definition that the given module registered.
Nothing is done where specializations are not recorded. -/
def patch (policy : SlotPolicy) (installed : Bool) (recorded : Specializations)
    (cache : SymbolCache) (image : ι) (definition : ClassId) (m : ModuleId) (hook : String) :
    Except Failure (GenericPass ι) :=
  if !installed then .ok ⟨image, cache, {}⟩
  else match CodeImage.info? image definition with
    | none => .error (.unknownClass definition)
    | some k =>
      .ok ((recorded.under k.base).foldl (patchOne policy definition m hook) ⟨image, cache, {}⟩)

end GenericPass

end HotReload
