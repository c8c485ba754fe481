import HotReload.Listener
import HotReload.MainLoop
import HotReload.Patch.Module
import HotReload.Settings

/-! # The reloader

A reload takes one module through every stage: it is loaded, patched in, and told to the listeners;
then the main loop sweeps the live objects and announces the load. Once the module is loaded,
whatever goes wrong with one slot, class or listener is counted and never stops the rest.
-/

namespace HotReload

structure Reloader where
  settings : Settings
  cache : SymbolCache := {}
  table : Interposition := {}
  tracker : Tracker
  listeners : List Listener

structure Loaded (ι : Type) where
  result : Except Failure LoadReport
  reloader : Reloader
  loop : MainLoop
  world : World ι

namespace Reloader

variable {ι : Type} [Host ι]

/-- A reloader over the world's image. The hook for specializations is installed at once when
generic types are to be patched. -/
def start (settings : Settings) (w : World ι) : Reloader × World ι :=
  let (recorder, w) := w.addRecorder
  let (tracker, image) := Tracker.install ⟨.disabled, recorder⟩ w.image settings.patchGenerics
  let listeners := if settings.runTestCases then [Listener.testCases settings.testEntry] else []
  ({ settings, tracker, listeners }, { w with image })

def loopFor (settings : Settings) (isDeferred : Bool) : MainLoop :=
  { isDeferred, sweeper := Sweeper.make settings.exclusion settings.frameworkRoots }

/-- Listeners that need key paths are told. Left open, the marker symbol decides. -/
def keyPathsEnabled (r : Reloader) (image : ι) : Bool :=
  r.settings.keyPaths.getD (CodeImage.find? image r.settings.keyPathMarker).isSome

def rules (r : Reloader) (w : World ι) : PatchRules :=
  { preserve := r.settings.preserveStatics
    lifecycleHook := r.settings.lifecycleHook
    tracksGenerics := r.tracker.isInstalled
    recorded := w.recorded r.tracker.recorder }

def patchIn (r : Reloader) (w : World ι) (m : ModuleId) : Except Failure (Patched ι) :=
  match CodeImage.sequence? w.image m with
  | none => .error (.unknownModule m)
  | some sequence => HotReload.patchIn (r.rules w) r.cache r.table w.image m sequence

/-- Tells the listeners of a module; the diverged ones are reported. -/
def tellListeners (r : Reloader) (w : World ι) (report : LoadReport) : LoadReport × World ι :=
  let (divergences, w) :=
    Listener.tellAll r.listeners (r.keyPathsEnabled w.image) report.module w
  ({ report with divergences }, w)

def task (r : Reloader) (loop : MainLoop) (report : LoadReport) : Task :=
  { roots := loop.roots
    hook := r.settings.lifecycleHook
    announcement :=
      ⟨report.module, report.sequence, report.classes, report.classNames, report.rebound⟩ }

/-- Loads the module at a path and patches it into the running process. -/
def load (r : Reloader) (loop : MainLoop) (w : World ι) (path : Path) : Loaded ι :=
  if path.isEmpty then ⟨.error .emptyModulePath, r, loop, w⟩
  else
    let (loaded, image) := CodeImage.loadModule w.image path
    let w := { w with image }
    match loaded with
    | .error e => ⟨.error e, r, loop, w⟩
    | .ok m =>
      let r := { r with cache := r.cache.moduleLoaded }
      match r.patchIn w m with
      | .error e => ⟨.error e, r, loop, w⟩
      | .ok patched =>
        let r := { r with cache := patched.cache, table := patched.table }
        let (report, w) := r.tellListeners { w with image := patched.image } patched.report
        let (loop, w) := loop.dispatch (r.task loop report) w
        ⟨.ok report, r, loop, w⟩

end Reloader

end HotReload
