import HotReload.Faulty
import HotReload.LoadQueue
import HotReload.Managed.Objects

/-! # Sessions

A session is a host at work on one image. It holds the process, the main loop, a reloader that it
calls itself or has handed to a queue, and tables of its own beside those of the reloader, for
patching step by step.
-/

namespace HotReload

/-- Who calls the reloader. -/
inductive Reloading where
  /-- There is none, or it went away with its queue. -/
  | absent
  /-- The host calls it. -/
  | direct (reloader : Reloader)
  | queued (queue : LoadQueue)

/-- A load that the host has submitted under a name. -/
structure Submission where
  name : String
  ticket : Nat
  /-- The reply, until the host has taken it. -/
  reply : Option (Except Failure LoadReport) := none

structure Session (ι : Type) where
  settings : Settings
  world : World (Faulty ι)
  loop : MainLoop
  reloading : Reloading
  /-- The sweeper used while the host has no reloader to call. -/
  sweeper : Sweeper
  cache : SymbolCache := {}
  table : Interposition := {}
  tracker : Tracker
  submissions : List Submission := []
  /-- The ticket of the next submission. -/
  nextTicket : Nat := 0

namespace Session

variable {ι : Type} [Host ι]

/-- A session over an image, with or without a reloader. The main loop defers tasks on request. -/
def start (image : ι) (faults : List Fault) (settings : Settings) (withReloader isDeferred : Bool) :
    Session ι :=
  let (recorder, w) := World.addRecorder { image := (⟨image, faults⟩ : Faulty ι) }
  let (reloading, w) :=
    if withReloader then
      let (r, w) := Reloader.start settings w
      (Reloading.direct r, w)
    else (.absent, w)
  { settings, world := w, reloading
    loop := Reloader.loopFor settings isDeferred
    sweeper := Sweeper.make settings.exclusion settings.frameworkRoots
    tracker := { recorder } }

def image (s : Session ι) : Faulty ι := s.world.image

/-- The reloader that the host calls itself. -/
def reloader? (s : Session ι) : Option Reloader :=
  match s.reloading with
  | .direct r => some r
  | _ => none

def queue? (s : Session ι) : Option LoadQueue :=
  match s.reloading with
  | .queued q => some q
  | _ => none

/-- Changes the image by an action that may fail; a failing action changes nothing. -/
def edit {α : Type} (s : Session ι) (f : Faulty ι → Except Failure (α × Faulty ι)) :
    Except Failure α × Session ι :=
  match f s.image with
  | .ok (a, image) => (.ok a, { s with world := { s.world with image } })
  | .error e => (.error e, s)

/-- Runs something on the image itself, which has no faults. -/
def within {α : Type} (s : Session ι) (f : World ι → α × World ι) : α × Session ι :=
  let (a, world) := Faulty.run s.world f
  (a, { s with world })

/-- Runs something on the image itself that may fail; a failing action changes nothing. -/
def attempt {α : Type} (s : Session ι) (f : World ι → Except Failure (α × World ι)) :
    Except Failure α × Session ι :=
  s.within fun w => match f w with
    | .ok (a, w) => (.ok a, w)
    | .error e => (.error e, w)

def addFault (s : Session ι) (fault : Fault) : Session ι :=
  { s with world := { s.world with
      image := { s.image with faults := s.image.faults ++ [fault] } } }

def clearFaults (s : Session ι) : Session ι :=
  { s with world := { s.world with image := { s.image with faults := [] } } }

/-- The log is kept back while a queue works in the background, and empty afterwards. -/
def takeLog (s : Session ι) : List LogEntry × Session ι :=
  if s.queue?.any (·.mode == .background) then ([], s)
  else (s.world.log.toList, { s with world := { s.world with log := #[] } })

/-- An object in listings: its type name and its number. -/
def objectText (s : Session ι) (o : ObjectId) : String :=
  (Host.objects (ι := Faulty ι)).className s.world o ++ "#" ++ toString o.number

def listed (s : Session ι) (v : Value ObjectId) : Value String :=
  v.bind fun o => .object (s.objectText o)

/-- Lets the image go, and with it the reloader and its queue. Objects stay without their class. -/
def release (s : Session ManagedImage) : Session ManagedImage :=
  { s with
    world := { s.world with image := ⟨.empty false, []⟩ }
    reloading := .absent }

end Session

end HotReload
