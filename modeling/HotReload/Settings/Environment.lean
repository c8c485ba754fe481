import HotReload.Failure
import HotReload.Text.Basic
import HotReload.Settings

/-! # Settings from the environment

Environment variables overlay the settings one after another, in a fixed order. The first value
that its variable does not take stops the overlay; what earlier variables set stays.
-/

namespace HotReload.Settings

def lowerAscii (s : String) : String :=
  String.ofList (s.toList.map fun c => if 'A' ≤ c ∧ c ≤ 'Z' then Char.ofNat (c.toNat + 32) else c)

def flagWord? : String → Option Bool
  | "1" | "true" | "yes" | "on" => some true
  | "0" | "false" | "no" | "off" => some false
  | _ => none

/-- A flag, up to white space around it and the case of ASCII letters. -/
def flag? (value : String) : Option Bool := flagWord? (lowerAscii (Text.trim value))

/-- A queue mode, up to the case of ASCII letters. -/
def queueMode? (value : String) : Option QueueMode := QueueMode.ofName? (lowerAscii value)

/-- A variable, and what it does to the settings when it takes the value. -/
structure Variable where
  name : String
  set? : String → Settings → Option Settings

/-- The variables, in the order in which they are read. -/
def Variable.all : List Variable := [
  ⟨"LIVEPATCH_GENERICS", fun v s => (flag? v).map fun b => { s with patchGenerics := b }⟩,
  ⟨"LIVEPATCH_KEYPATHS", fun v s => (flag? v).map fun b => { s with keyPaths := some b }⟩,
  ⟨"LIVEPATCH_VERBOSE", fun v s => (flag? v).map fun b => { s with verbose := b }⟩,
  ⟨"LIVEPATCH_BENCHMARK", fun v s => (flag? v).map fun b => { s with benchmark := b }⟩,
  ⟨"LIVEPATCH_EXCLUDE",
    fun v s => some { s with exclusion := if v.isEmpty then none else some v }⟩,
  ⟨"LIVEPATCH_PRESERVE_STATICS",
    fun v s => (flag? v).map fun b => { s with preserveStatics := b }⟩,
  ⟨"LIVEPATCH_TESTS", fun v s => (flag? v).map fun b => { s with runTestCases := b }⟩,
  ⟨"LIVEPATCH_QUEUE", fun v s => (queueMode? v).map fun q => { s with queue := q }⟩]

/-- Reads the given variables in order, up to the first value that is not taken. -/
def overlayWith (lookup : String → Option String) :
    List Variable → Settings → Settings × Except SettingsFailure Unit
  | [], s => (s, .ok ())
  | v :: vs, s =>
    match lookup v.name with
    | none => overlayWith lookup vs s
    | some value =>
      match v.set? value s with
      | some t => overlayWith lookup vs t
      | none => (s, .error (.invalidVariable v.name value))

/-- Overlays the environment. The settings are those reached, also after a failure. -/
def overlay (lookup : String → Option String) (s : Settings) :
    Settings × Except SettingsFailure Unit :=
  overlayWith lookup Variable.all s

end HotReload.Settings
