import HotReload.Failure
import HotReload.Settings
import HotReload.Toml.Document

/-! # Settings from a document

A TOML document sets what it names; keys that are no setting are ignored. A setting of the wrong
type makes the document as a whole malformed.
-/

namespace HotReload.Settings

open Toml (Item Entries)

def flagOf? : Item → Option Bool
  | .bool b => some b
  | _ => none

def textOf? : Item → Option String
  | .text s => some s
  | _ => none

def textsOf? : Item → Option (List String)
  | .array items => items.mapM textOf?
  | _ => none

/-- A choice without content, where a table names it: nothing is in its value. -/
def isVoid : Item → Bool
  | .array items => items.isEmpty
  | .table _ entries => entries.isEmpty
  | .tables all => all.isEmpty
  | _ => false

/-- A mode is written as text, or as a table with the mode as its only key. -/
def modeOf? : Item → Option QueueMode
  | .text s => QueueMode.ofName? s
  | .table _ [(name, content)] => if isVoid content then QueueMode.ofName? name else none
  | _ => none

def set? (key : String) (i : Item) (s : Settings) : Option Settings :=
  match key with
  | "enable_generic_patching" => (flagOf? i).map fun b => { s with patchGenerics := b }
  | "enable_key_path_hook" => (flagOf? i).map fun b => { s with keyPaths := some b }
  | "verbose_logging" => (flagOf? i).map fun b => { s with verbose := b }
  | "benchmark_timing" => (flagOf? i).map fun b => { s with benchmark := b }
  | "sweep_exclusion_pattern" => (textOf? i).map fun t => { s with exclusion := some t }
  | "preserve_static_state" => (flagOf? i).map fun b => { s with preserveStatics := b }
  | "lifecycle_hook" => (textOf? i).map fun t => { s with lifecycleHook := t }
  | "framework_roots" => (textsOf? i).map fun ts => { s with frameworkRoots := ts }
  | "key_path_marker" => (textOf? i).map fun t => { s with keyPathMarker := t }
  | "run_test_cases" => (flagOf? i).map fun b => { s with runTestCases := b }
  | "test_entry" => (textOf? i).map fun t => { s with testEntry := t }
  | "queue" => (modeOf? i).map fun q => { s with queue := q }
  | _ => some s

/-- The settings of a table; what it does not name has its default. -/
def ofEntries? (t : Entries) : Option Settings :=
  t.foldlM (fun s e => set? e.1 e.2 s) {}

def ofText (source : String) : Except SettingsFailure Settings :=
  match (Toml.document source).bind ofEntries? with
  | some s => .ok s
  | none => .error .malformed

end HotReload.Settings
