import HotReload.CodeImage

/-! # Interposition

The newest implementation of every patchable name that some module has provided. An entry gives
way only to a module of the same or a higher place in load order; a module that does not export a
name leaves its entry alone.
-/

namespace HotReload

/-- The newest known implementation of a name. -/
structure Implementation where
  address : Address
  module : ModuleId
  sequence : Nat
deriving DecidableEq, Inhabited

structure Interposition where
  /-- Implementations by name; names are distinct. -/
  entries : List (String × Implementation) := []
deriving DecidableEq, Inhabited

namespace Interposition

def entry? (t : Interposition) (name : String) : Option Implementation := t.entries.lookup name

def address? (t : Interposition) (name : String) : Option Address :=
  (t.entry? name).map (·.address)

def size (t : Interposition) : Nat := t.entries.length

def put (name : String) (i : Implementation) :
    List (String × Implementation) → List (String × Implementation)
  | [] => [(name, i)]
  | e :: es => if e.1 = name then (e.1, i) :: es else e :: put name i es

/-- Records an implementation unless a later module has provided one. The flag says whether the
recorded address changed. -/
def record (t : Interposition) (name : String) (i : Implementation) : Bool × Interposition :=
  match t.entry? name with
  | none => (true, ⟨put name i t.entries⟩)
  | some old =>
    if i.sequence < old.sequence then (false, t)
    else (old.address != i.address, ⟨put name i t.entries⟩)

def rebindings (t : Interposition) : List Rebinding := t.entries.map fun e => ⟨e.1, e.2.address⟩

/-- Adds a name to an increasing list that may hold it. -/
def insertName (name : String) : List String → List String
  | [] => [name]
  | n :: ns =>
    if name = n then n :: ns
    else if name < n then name :: n :: ns
    else n :: insertName name ns

def sortedNames (names : List String) : List String :=
  names.foldl (fun sorted n => insertName n sorted) []

variable {ι : Type} [CodeImage ι]

/-- Records the patchable exports of a module one after another; for each, the rebinding that
leads to the newest implementation at that moment. -/
def recordExports (preserve : Bool) (m : ModuleId) (sequence : Nat) (exports : List Symbol)
    (t : Interposition) : List Rebinding × Interposition :=
  (exports.filter (·.kind.patchable preserve)).foldl (fun (batch, t) s =>
    let t := (t.record s.name ⟨s.address, m, sequence⟩).2
    match t.address? s.name with
    | some a => (batch ++ [⟨s.name, a⟩], t)
    | none => (batch, t)) ([], t)

/-- Rebinds the call sites of several modules; also the names that changed. -/
def rebindAll (batch : List Rebinding) (modules : List ModuleId) (image : ι) : List String × ι :=
  modules.foldl (fun (names, image) m =>
    let (changed, image) := CodeImage.rebind image m batch
    (names ++ changed, image)) ([], image)

structure Absorbed (ι : Type) where
  table : Interposition
  image : ι
  /-- The names whose call sites changed, in increasing order. -/
  rebound : List String

/-- Takes in a loaded module: records its patchable exports, points the call sites of every other
module at them, then replays the whole table into the module, which was linked against the oldest
definitions. -/
def absorb (t : Interposition) (preserve : Bool) (image : ι) (m : ModuleId) :
    Except Failure (Absorbed ι) :=
  match CodeImage.sequence? image m with
  | none => .error (.unknownModule m)
  | some sequence =>
    let (batch, t) := recordExports preserve m sequence (CodeImage.exports image m) t
    let others := (CodeImage.modules image).filter (· != m)
    let (elsewhere, image) := if batch.isEmpty then ([], image) else rebindAll batch others image
    let (here, image) := CodeImage.rebind image m t.rebindings
    .ok ⟨t, image, sortedNames (elsewhere ++ here)⟩

end Interposition

end HotReload
