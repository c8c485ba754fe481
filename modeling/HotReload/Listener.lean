import HotReload.Report
import HotReload.Sweep.View

/-! # Listeners

Once a module has been patched in, listeners are told of it. One of them runs the test cases that
the module brings; those of the host may report that their state no longer matches the code.
-/

namespace HotReload

inductive Listener where
  /-- Calls the class selector on every test-case class of the module. -/
  | testCases (entry : String)
  /-- A listener of the host, and what it reports as diverged. -/
  | host (name : String) (needsKeyPaths : Bool) (diverged : Option String)

inductive Verdict where
  | ok
  | diverged (reason : String)
deriving DecidableEq, Inhabited

namespace Listener

variable {ι : Type} [Host ι]

def name : Listener → String
  | testCases _ => "test-case-runner"
  | host name _ _ => name

/-- The listener is told only while key paths are enabled. -/
def needsKeyPaths : Listener → Bool
  | testCases _ => false
  | host _ b _ => b

/-- Runs a class that is a test case; its failures do not count. -/
def runTestCase (entry : String) (w : World ι) (c : ClassId) : World ι :=
  match CodeImage.info? w.image c with
  | some k => if k.isTestCase then (Host.invokeClassMethod w c entry).2 else w
  | none => w

def tell (w : World ι) (m : ModuleId) : Listener → Verdict × World ι
  | testCases entry => (.ok, (CodeImage.classesIn w.image m).foldl (runTestCase entry) w)
  | host name _ diverged =>
    let w := w.write (.listened name m (CodeImage.classesIn w.image m))
    (match diverged with
      | some reason => .diverged reason
      | none => .ok, w)

/-- Tells one of several listeners, collecting divergences. -/
def tellOne (keyPaths : Bool) (m : ModuleId) (acc : List Divergence × World ι) (l : Listener) :
    List Divergence × World ι :=
  if l.needsKeyPaths && !keyPaths then acc
  else match l.tell acc.2 m with
    | (.ok, w) => (acc.1, w)
    | (.diverged reason, w) => (acc.1 ++ [⟨l.name, reason⟩], w)

def tellAll (ls : List Listener) (keyPaths : Bool) (m : ModuleId) (w : World ι) :
    List Divergence × World ι :=
  ls.foldl (tellOne keyPaths m) ([], w)

end Listener

end HotReload
