import HotReload.Interposition
import HotReload.SymbolCache
import HotReload.Versions

/-! # Patching slot tables

Old descriptors keep their identity, since live instances refer to them, and have their slots
set to the newest implementations. The first slot, the destructor, is never touched, and a
slot is written only when its content changes.
-/

namespace HotReload

structure SlotOutcome where
  written : Nat := 0
  /-- Slots that held the right implementation. -/
  unchanged : Nat := 0
  /-- Slots left alone, without symbol or not patchable. -/
  skipped : Nat := 0
  /-- Writes that the image refused. -/
  failed : Nat := 0
  /-- The pair was refused because its layout changed. -/
  layoutMismatch : Bool := false
deriving DecidableEq, Inhabited

def SlotOutcome.merge (a b : SlotOutcome) : SlotOutcome :=
  { written := a.written + b.written
    unchanged := a.unchanged + b.unchanged
    skipped := a.skipped + b.skipped
    failed := a.failed + b.failed
    layoutMismatch := a.layoutMismatch || b.layoutMismatch }

/-- What a slot patch reads besides the image. -/
structure SlotPolicy where
  table : Interposition
  /-- Accessors of mutable storage stay. -/
  preserve : Bool

structure SlotPass (ι : Type) where
  image : ι
  cache : SymbolCache
  outcome : SlotOutcome := {}

namespace SlotPass

variable {ι : Type} [CodeImage ι]

/-- Brings one slot to its target. -/
def apply (p : SlotPass ι) (c : ClassId) (index : Nat) (current target : Address) : SlotPass ι :=
  if current = target then
    { p with outcome := { p.outcome with unchanged := p.outcome.unchanged + 1 } }
  else match CodeImage.writeSlot p.image c index target with
    | .ok image =>
      { p with image, outcome := { p.outcome with written := p.outcome.written + 1 } }
    | .error _ => { p with outcome := { p.outcome with failed := p.outcome.failed + 1 } }

def skip (p : SlotPass ι) : SlotPass ι :=
  { p with outcome := { p.outcome with skipped := p.outcome.skipped + 1 } }

/-- Brings one slot to its target, or leaves it alone without one. -/
def settle (p : SlotPass ι) (c : ClassId) (index : Nat) (current : Address) :
    Option Address → SlotPass ι
  | some target => p.apply c index current target
  | none => p.skip

end SlotPass

namespace SlotPolicy

variable {ι : Type} [CodeImage ι]

def patchable? (policy : SlotPolicy) (cache : SymbolCache) (image : ι) (a : Address)
    (scope : Option ModuleId) : Option Symbol × SymbolCache :=
  let (s, cache) := cache.resolve image a scope
  (s.filter fun s => s.kind.patchable policy.preserve, cache)

/-- The implementation that a slot of the new version stands for. A slot that the module inherits
is bound to the first module that defined its symbol, so the newest implementation is preferred. -/
def newest (policy : SlotPolicy) (s : Symbol) (a : Address) (m : ModuleId) : Address :=
  if s.module = m then a else (policy.table.address? s.name).getD a

def patchSlot (policy : SlotPolicy) (old : ClassId) (m : ModuleId) (p : SlotPass ι)
    (slot : (Address × Address) × Nat) : SlotPass ι :=
  let ((current, wanted), index) := slot
  let (s, cache) := policy.patchable? p.cache p.image wanted (some m)
  { p with cache }.settle old index current (s.map fun s => policy.newest s wanted m)

/-- Points the slots of an old descriptor at the implementations that the new one, registered by
the given module, holds. -/
def patch (policy : SlotPolicy) (cache : SymbolCache) (image : ι) (old new : ClassId)
    (m : ModuleId) : Except Failure (SlotPass ι) := do
  let some oldInfo := CodeImage.info? image old | throw (.unknownClass old)
  let some newInfo := CodeImage.info? image new | throw (.unknownClass new)
  let refused : SlotPass ι := ⟨image, cache, { layoutMismatch := true }⟩
  if (layoutChange? oldInfo newInfo).isSome then return refused
  let oldSlots ← CodeImage.slots image old
  let newSlots ← CodeImage.slots image new
  if oldSlots.length ≠ newSlots.length then return refused
  return ((oldSlots.zip newSlots).zipIdx.drop 1).foldl (policy.patchSlot old m) ⟨image, cache, {}⟩

/-- Brings a slot to the newest implementation of the symbol that it holds: that of the given
module, or else the interposed one. -/
def refreshSlot (policy : SlotPolicy) (c : ClassId) (m : ModuleId) (p : SlotPass ι)
    (slot : Address × Nat) : SlotPass ι :=
  let (current, index) := slot
  let (s, cache) := policy.patchable? p.cache p.image current none
  let target := s.bind fun s =>
    (CodeImage.address? p.image m s.name).or (policy.table.address? s.name)
  { p with cache }.settle c index current target

/-- Patches a descriptor that has no new version of its own, such as a specialization. -/
def patchInPlace (policy : SlotPolicy) (cache : SymbolCache) (image : ι) (c : ClassId)
    (m : ModuleId) : Except Failure (SlotPass ι) := do
  let some _ := CodeImage.info? image c | throw (.unknownClass c)
  let slots ← CodeImage.slots image c
  return (slots.zipIdx.drop 1).foldl (policy.refreshSlot c m) ⟨image, cache, {}⟩

end SlotPolicy

end HotReload
