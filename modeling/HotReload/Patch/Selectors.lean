import HotReload.CodeImage

/-! # Swizzling selector tables

Types that are called by selector get their new implementations copied into the old descriptor's
tables, one selector at a time. Selectors that the old version never had are not added.
-/

namespace HotReload

structure SwizzleOutcome where
  replaced : Nat := 0
  /-- Selectors of the new version that the old one lacks. -/
  missing : Nat := 0
  /-- Swaps that the image refused. -/
  failed : Nat := 0
deriving DecidableEq, Inhabited

namespace SwizzleOutcome

def merge (a b : SwizzleOutcome) : SwizzleOutcome :=
  ⟨a.replaced + b.replaced, a.missing + b.missing, a.failed + b.failed⟩

end SwizzleOutcome

namespace Swizzle

variable {ι : Type} [CodeImage ι]

/-- Copies one entry of the new table, compared with the old table as it was read. -/
def copyEntry (old : ClassId) (t : SelectorTable) (before : Selectors)
    (acc : SwizzleOutcome × ι) (entry : String × Address) : SwizzleOutcome × ι :=
  let (outcome, image) := acc
  match before.lookup entry.1 with
  | none => ({ outcome with missing := outcome.missing + 1 }, image)
  | some current =>
    if current = entry.2 then acc
    else match CodeImage.replaceSelector image old t entry.1 entry.2 with
      | .ok image => ({ outcome with replaced := outcome.replaced + 1 }, image)
      | .error _ => ({ outcome with failed := outcome.failed + 1 }, image)

/-- Copies the accepted entries of one table; a pair that cannot be read is passed over. -/
def copyTable (old new : ClassId) (accepts : String → Bool) (acc : SwizzleOutcome × ι)
    (t : SelectorTable) : SwizzleOutcome × ι :=
  match CodeImage.selectors acc.2 old t, CodeImage.selectors acc.2 new t with
  | .ok before, .ok after => (after.filter fun e => accepts e.1).foldl (copyEntry old t before) acc
  | _, _ => acc

/-- Copies the accepted implementations of the new descriptor into the old one. -/
def swizzle (image : ι) (old new : ClassId) (accepts : String → Bool) : SwizzleOutcome × ι :=
  [SelectorTable.onInstances, .onClass].foldl (copyTable old new accepts) ({}, image)

end Swizzle

end HotReload
