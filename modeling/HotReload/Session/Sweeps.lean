import HotReload.Session.Basic

/-! # Sweeps of a session

A host can sweep on its own, from roots of its choice, with the sweeper of its reloader or with one
made for the purpose.
-/

namespace HotReload.Session

variable {ι : Type} [Host ι]

/-- The sweeper in use: that of the reloader, if the host has one. -/
def sweeperInUse (s : Session ι) : Sweeper :=
  match s.reloading with
  | .direct _ => s.loop.sweeper
  | _ => s.sweeper

def addReader (s : Session ι) (r : SealedReader) : Session ι :=
  match s.reloading with
  | .direct _ => { s with loop := s.loop.addReader r }
  | _ => { s with sweeper := { s.sweeper with readers := s.sweeper.readers ++ [r] } }

def sweep (s : Session ι) (sweeper : Sweeper) (roots : List Node) (modified : List String)
    (hook : String) : Except Failure SweepReport × Session ι :=
  match HotReload.sweep Host.objects (sweeper.rules modified hook) roots s.world with
  | .ok (report, world) => (.ok report, { s with world })
  | .error e => (.error e, s)

/-- The type names of the references that a class of an object's chain declares. -/
def referenceTypes (s : Session ι) (o : ObjectId) (declaring : String) : List String :=
  ((Subject.managed o).references Host.objects s.world declaring).filterMap fun n =>
    n.typeName? Host.objects s.world

end HotReload.Session
