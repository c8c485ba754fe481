/-! # Settings of the reloader

Every setting has a default, so nothing has to be configured.
-/

namespace HotReload

/-- Where loads are carried out. -/
inductive QueueMode where
  /-- The host pumps the queue from its own loop. -/
  | main
  /-- A thread of its own owns the reloader. -/
  | background
deriving DecidableEq, Inhabited

namespace QueueMode

def name : QueueMode → String
  | main => "main"
  | background => "background"

def ofName? : String → Option QueueMode
  | "main" => some main
  | "background" => some background
  | _ => none

end QueueMode

structure Settings where
  /-- Track specializations of generic types and patch them when their definition is reloaded. -/
  patchGenerics : Bool := true
  /-- Notify the listeners that need key paths. Left open, this follows the marker symbol. -/
  keyPaths : Option Bool := none
  verbose : Bool := false
  benchmark : Bool := false
  /-- Pattern of the type names that the sweep skips. -/
  exclusion : Option String := none
  /-- Never redirect accessors of static or global mutable storage. -/
  preserveStatics : Bool := false
  /-- Selector sent to live instances of patched types. -/
  lifecycleHook : String := "injected"
  /-- Types at which the walk over declared references stops. -/
  frameworkRoots : List String := ["Object"]
  /-- Symbol whose presence switches key paths on when they are left open. -/
  keyPathMarker : String := "RoutingKit.Parameters"
  /-- Run test-case classes again once their module is patched in. -/
  runTestCases : Bool := true
  /-- Class selector called on each test-case class. -/
  testEntry : String := "runTests"
  queue : QueueMode := .background
deriving DecidableEq, Inhabited

/-- The log filter used when the host sets none. -/
def logFilter (verbose : Bool) : String :=
  if verbose then "livepatch_engine=debug,info" else "livepatch_engine=info,warn"

end HotReload
