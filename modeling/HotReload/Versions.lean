import HotReload.CodeImage

/-! # Versions of a class

A reload registers a second descriptor under a type name that is in use. Descriptors of modules
loaded earlier are old versions, which may own the only instances; they are patched towards the
new one while their layout is unchanged.
-/

namespace HotReload

/-- The descriptors of one type name, seen from the newest. -/
structure Versions where
  name : String
  new : ClassId
  /-- Descriptors of earlier modules, oldest first. -/
  old : List ClassId
deriving DecidableEq, Inhabited

namespace Versions

variable {ι : Type} [CodeImage ι]

/-- The place in load order of the module that registered a descriptor. -/
def sequenceOf? (image : ι) (c : ClassId) : Option Nat :=
  (CodeImage.info? image c).bind fun k => CodeImage.sequence? image k.module

def collect? (image : ι) (new : ClassId) : Option Versions := do
  let info ← CodeImage.info? image new
  let sequence ← CodeImage.sequence? image info.module
  let old := (CodeImage.classesNamed image info.name).filter fun c =>
    c != new && (sequenceOf? image c).any (· < sequence)
  return ⟨info.name, new, old⟩

def isRedefinition (v : Versions) : Bool := !v.old.isEmpty

end Versions

structure LayoutChange where
  oldSize : Nat
  newSize : Nat
  oldAddressPoint : Nat
  newAddressPoint : Nat
deriving DecidableEq, Inhabited

def LayoutChange.message (c : LayoutChange) : String :=
  "size " ++ toString c.oldSize ++ " -> " ++ toString c.newSize ++ ", address point " ++
    toString c.oldAddressPoint ++ " -> " ++ toString c.newAddressPoint

/-- Slots may be copied only between descriptors of the same size and address point. -/
def layoutChange? (old new : ClassInfo) : Option LayoutChange :=
  if old.size = new.size ∧ old.addressPoint = new.addressPoint then none
  else some ⟨old.size, new.size, old.addressPoint, new.addressPoint⟩

end HotReload
