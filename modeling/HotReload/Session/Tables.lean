import HotReload.Session.Basic

/-! # Patching step by step

Besides whole loads, a host can take each step of one by itself. These steps work on tables that
belong to the session, so they neither read nor change those of the reloader.
-/

namespace HotReload.Session

variable {ι : Type} [Host ι]

def resolve (s : Session ι) (a : Address) (scope : Option ModuleId) : Option Symbol × Session ι :=
  let (found, cache) := s.cache.resolve s.image a scope
  (found, { s with cache })

def moduleLoaded (s : Session ι) : Session ι := { s with cache := s.cache.moduleLoaded }

def absorb (s : Session ι) (m : ModuleId) : Except Failure (List String) × Session ι :=
  match s.table.absorb s.settings.preserveStatics s.image m with
  | .error e => (.error e, s)
  | .ok done =>
    (.ok done.rebound,
      { s with table := done.table, world := { s.world with image := done.image } })

def record (s : Session ι) (name : String) (i : Implementation) : Bool × Session ι :=
  let (changed, table) := s.table.record name i
  (changed, { s with table })

def slotPolicy (s : Session ι) : SlotPolicy := ⟨s.table, s.settings.preserveStatics⟩

def adopt (s : Session ι) :
    Except Failure (SlotPass (Faulty ι)) → Except Failure SlotOutcome × Session ι
  | .error e => (.error e, s)
  | .ok pass =>
    (.ok pass.outcome,
      { s with cache := pass.cache, world := { s.world with image := pass.image } })

def patch (s : Session ι) (old new : ClassId) (m : ModuleId) :
    Except Failure SlotOutcome × Session ι :=
  s.adopt (s.slotPolicy.patch s.cache s.image old new m)

def patchInPlace (s : Session ι) (c : ClassId) (m : ModuleId) :
    Except Failure SlotOutcome × Session ι :=
  s.adopt (s.slotPolicy.patchInPlace s.cache s.image c m)

/-- Swizzles the selectors of a list, or all of them. -/
def swizzle (s : Session ι) (old new : ClassId) (only : Option (List String)) :
    SwizzleOutcome × Session ι :=
  let (outcome, image) := Swizzle.swizzle s.image old new fun n => only.all (·.contains n)
  (outcome, { s with world := { s.world with image } })

def installTracker (s : Session ι) (enabled : Bool) : Session ι :=
  let (tracker, image) := s.tracker.install s.image enabled
  { s with tracker, world := { s.world with image } }

def recorded (s : Session ι) : Specializations := s.world.recorded s.tracker.recorder

def observe (s : Session ι) (c : ClassId) (typeName : String) : Session ι :=
  { s with world := s.world.record s.tracker.recorder c typeName }

def patchSpecializations (s : Session ι) (definition : ClassId) (m : ModuleId) (hook : String) :
    Except Failure GenericOutcome × Session ι :=
  match GenericPass.patch s.slotPolicy s.tracker.isInstalled s.recorded s.cache s.image definition
      m hook with
  | .error e => (.error e, s)
  | .ok pass =>
    (.ok pass.outcome,
      { s with cache := pass.cache, world := { s.world with image := pass.image } })

def runTestCases (s : Session ι) (m : ModuleId) (entry : String) : Verdict × Session ι :=
  let (verdict, world) := (Listener.testCases entry).tell s.world m
  (verdict, { s with world })

end HotReload.Session
