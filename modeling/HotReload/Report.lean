import HotReload.Identity

/-! # What a load reports -/

namespace HotReload

/-- Advice attached to a load that changed nothing. -/
inductive Hint where
  | nothingPatched
deriving DecidableEq, Inhabited

def Hint.message : Hint → String
  | .nothingPatched =>
    "no classes patched and no symbols rebound; check that the module was built with " ++
      "interposable call sites and dynamic replacement enabled"

/-- A listener whose state no longer matches the code. -/
structure Divergence where
  listener : String
  reason : String
deriving DecidableEq, Inhabited

structure LoadReport where
  module : ModuleId
  sequence : Nat
  /-- Descriptors that the module registered. -/
  classes : List ClassId := []
  classNames : List String := []
  /-- Redefined classes whose old versions were patched. -/
  classesPatched : Nat := 0
  slotsWritten : Nat := 0
  /-- Classes passed over because their layout changed. -/
  layoutMismatches : List String := []
  selectorsSwizzled : Nat := 0
  specializationsPatched : Nat := 0
  /-- Names whose call sites changed, in increasing order. -/
  rebound : List String := []
  hint : Option Hint := none
  divergences : List Divergence := []
deriving DecidableEq, Inhabited

def LoadReport.needsRestart (r : LoadReport) : Bool := !r.divergences.isEmpty

end HotReload
