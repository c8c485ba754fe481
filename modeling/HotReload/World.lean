import HotReload.Specializations
import HotReload.Value

/-! # The running process

A world is an image together with everything its code can reach while it runs: the objects, the
recorders of specializations, and what the host keeps by name, counts and reads back.
-/

namespace HotReload

/-- An object of the managed image. Its fields keep the order in which they came to be. -/
structure Instance where
  cls : ClassId
  fields : List (String × Value ObjectId)

/-- What the host reads back after code ran. -/
inductive LogEntry where
  | value (v : Value ObjectId)
  /-- A host object received a hook. -/
  | hooked (object : Nat) (hook : String)
  /-- A listener was told of a module with these descriptors. -/
  | listened (listener : String) (module : ModuleId) (classes : List ClassId)

structure World (ι : Type) where
  image : ι
  objects : Array Instance := #[]
  recorders : Array Specializations := #[]
  /-- Objects that the host has named. -/
  names : List (String × ObjectId) := []
  counters : List (String × Nat) := []
  log : Array LogEntry := #[]

namespace Instance

/-- Sets the first field of a name, or appends one. -/
def setField (name : String) (v : Value ObjectId) :
    List (String × Value ObjectId) → List (String × Value ObjectId)
  | [] => [(name, v)]
  | e :: es => if e.1 = name then (e.1, v) :: es else e :: setField name v es

end Instance

namespace World

variable {ι κ : Type}

def withImage (w : World ι) (image : κ) : World κ :=
  { image, objects := w.objects, recorders := w.recorders, names := w.names,
    counters := w.counters, log := w.log }

def instance? (w : World ι) (o : ObjectId) : Option Instance :=
  match o.number with
  | 0 => none
  | n + 1 => w.objects[n]?

def fields (w : World ι) (o : ObjectId) : List (String × Value ObjectId) :=
  ((w.instance? o).map (·.fields)).getD []

def field? (w : World ι) (o : ObjectId) (name : String) : Option (Value ObjectId) :=
  (w.fields o).lookup name

def setField (w : World ι) (o : ObjectId) (name : String) (v : Value ObjectId) : World ι :=
  match o.number with
  | 0 => w
  | n + 1 => { w with objects := w.objects.modify n fun i =>
      { i with fields := Instance.setField name v i.fields } }

def named? (w : World ι) (name : String) : Option ObjectId := w.names.lookup name

/-- Names an object; an older object of the name loses it. -/
def name (w : World ι) (name : String) (o : ObjectId) : World ι :=
  { w with names := (name, o) :: w.names.filter (·.1 != name) }

/-- The value that the host writes with its names; an unknown name means no value. -/
def resolve (w : World ι) (v : Value String) : Value ObjectId :=
  v.bind fun n => match w.named? n with
    | some o => .object o
    | none => .unit

def write (w : World ι) (e : LogEntry) : World ι := { w with log := w.log.push e }

def count (w : World ι) (key : String) : Nat × World ι :=
  let n := (w.counters.lookup key).getD 0 + 1
  (n, { w with counters := (key, n) :: w.counters.filter (·.1 != key) })

def addRecorder (w : World ι) : RecorderId × World ι :=
  (⟨w.recorders.size⟩, { w with recorders := w.recorders.push {} })

def recorded (w : World ι) (r : RecorderId) : Specializations := (w.recorders[r.index]?).getD {}

def record (w : World ι) (r : RecorderId) (c : ClassId) (typeName : String) : World ι :=
  { w with recorders := w.recorders.modify r.index fun s => s.record c typeName }

end World

end HotReload
