import HotReload.Announcement
import HotReload.Pattern
import HotReload.Sweep.Walk

/-! # The host's main loop

Sweeps change the host's own objects, so they run on its main loop, followed by the announcement
of the load. The loop runs a task at once, or keeps it until the host asks. It outlives the
reloader, which shares the roots, the sweeper and the subscribers with the host.
-/

namespace HotReload

/-- What decides where a sweep goes, whatever it sweeps for. -/
structure Sweeper where
  /-- Pattern of the type names to pass over. -/
  exclusion : Option Pattern
  frameworkRoots : List String
  readers : List SealedReader := []

namespace Sweeper

/-- A sweeper for an exclusion pattern; one that is no pattern leaves the sweep unfiltered. -/
def make (exclusion : Option String) (frameworkRoots : List String) : Sweeper :=
  { exclusion := exclusion.bind Pattern.compile?, frameworkRoots }

def isFiltered (s : Sweeper) : Bool := s.exclusion.isSome

def rules (s : Sweeper) (modified : List String) (hook : String) : SweepRules :=
  { excludes := fun name => s.exclusion.any (·.occursIn name)
    frameworkRoots := s.frameworkRoots
    readers := s.readers
    modified
    hook }

end Sweeper

/-- What is left to do for a load: sweep the roots of that time, then announce the load. -/
structure Task where
  roots : List Node
  hook : String
  announcement : Announcement

structure MainLoop where
  /-- Tasks wait until the host runs them. -/
  isDeferred : Bool
  /-- Tasks that wait, oldest first. -/
  pending : List Task := []
  roots : List Node := []
  sweeper : Sweeper
  lastSweep : Option SweepReport := none
  subscribers : Subscribers := {}

section Tasks

variable {ι : Type} [Host ι]

/-- Sweeps for a task, unless there are no roots or the load has no classes. -/
def Sweeper.sweepFor (sweeper : Sweeper) (t : Task) (w : World ι) :
    Option SweepReport × World ι :=
  let modified := t.announcement.classNames
  if modified.isEmpty || t.roots.isEmpty then (none, w)
  else match sweep Host.objects (sweeper.rules modified t.hook) t.roots w with
    | .ok (report, w) => (some report, w)
    | .error _ => (none, w)

namespace MainLoop

def noteSweep (l : MainLoop) (result : Option SweepReport) : MainLoop :=
  { l with lastSweep := result.or l.lastSweep }

def announce (l : MainLoop) (a : Announcement) : MainLoop :=
  { l with subscribers := (l.subscribers.publish a).2 }

/-- Runs a task: the sweep for the load first, then its announcement. -/
def run (l : MainLoop) (t : Task) (w : World ι) : MainLoop × World ι :=
  let (result, w) := l.sweeper.sweepFor t w
  ((l.noteSweep result).announce t.announcement, w)

/-- Runs a task now, or keeps it for later. -/
def dispatch (l : MainLoop) (t : Task) (w : World ι) : MainLoop × World ι :=
  if l.isDeferred then ({ l with pending := l.pending ++ [t] }, w) else l.run t w

def runPending (l : MainLoop) (w : World ι) : Nat × MainLoop × World ι :=
  let tasks := l.pending
  let (l, w) := tasks.foldl (fun (l, w) t => l.run t w) ({ l with pending := [] }, w)
  (tasks.length, l, w)

def addRoot (l : MainLoop) (n : Node) : MainLoop := { l with roots := l.roots ++ [n] }

def rootsText (l : MainLoop) : String :=
  "SeedRoots \x7b len: " ++ toString l.roots.length ++ " \x7d"

def clearRoots (l : MainLoop) : MainLoop := { l with roots := [] }

def addReader (l : MainLoop) (r : SealedReader) : MainLoop :=
  { l with sweeper := { l.sweeper with readers := l.sweeper.readers ++ [r] } }

end MainLoop

end Tasks

end HotReload
