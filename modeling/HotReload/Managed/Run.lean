import HotReload.Managed.Tables
import HotReload.World

/-! # Running code in the managed image

Bodies are evaluated by structural recursion, given a way to call an address. Calls nest at most
`callDepth` deep; a call beyond that fails like any other failing call.
-/

namespace HotReload.Managed

abbrev Process := World ManagedImage

abbrev Datum := Value ObjectId

/-- Creates an instance of a descriptor, its declared fields without value. -/
def create (w : Process) (c : ClassId) : Except Failure (ObjectId × Process) :=
  (w.image.classOrFail c).map fun k =>
    let fresh : Instance := ⟨c, k.fields.map fun f => (f, .unit)⟩
    (⟨w.objects.size + 1⟩, { w with objects := w.objects.push fresh })

def createNamed (w : Process) (name : String) : Except Failure (ObjectId × Process) :=
  match w.image.latestClass? name with
  | some c => create w c
  | none => .error (.unknownType name)

/-- Creates a number of instances of the newest descriptor of a type name, and names them by a stem
and their position. -/
def createMany (className stem : String) :
    List Nat → Process → Except Failure (List ObjectId × Process)
  | [], w => .ok ([], w)
  | n :: ns, w => do
    let (o, w) ← createNamed w className
    let (os, w) ← createMany className stem ns (w.name (stem ++ toString n) o)
    return (o :: os, w)

/-- Creates a chain of instances, each of which holds the next in a field. In a cycle the last one
holds the first. -/
def createChain (w : Process) (className : String) (count : Nat) (field : String) (cycle : Bool)
    (stem : String) : Except Failure (Unit × Process) := do
  let (os, w) ← createMany className stem (List.range count) w
  let links := os.zip (os.drop 1 ++ if cycle then os.take 1 else [])
  return ((), links.foldl (fun w e => w.setField e.1 field (.object e.2)) w)

/-- Specializes a generic definition; a new specialization is recorded. -/
def specialize (w : Process) (definition : String) (arguments : List String) :
    Except Failure (ClassId × Process) :=
  (w.image.specialize definition arguments).map fun (c, isNew, image) =>
    let w := { w with image }
    match isNew, image.recorder with
    | true, some r => (c, w.record r c (TypeName.specialized definition arguments))
    | _, _ => (c, w)

def load (w : Process) (m : ModuleSpec Body) : Except Failure (ModuleId × Process) :=
  (w.image.load m).map fun (id, image) => (id, { w with image })

def callTarget (image : ManagedImage) (m : ModuleId) (name : String) : Except Failure Address :=
  match image.module? m with
  | none => .error (.unknownModule m)
  | some k => match k.target? name with
    | some a => .ok a
    | none => .error (.unresolvedSymbol name k.name)

/-- The class of an object. Descriptors are never taken back, so the class of an object is missing
only when the image that created it is gone. -/
def classOf (w : Process) (o : ObjectId) : Except Failure (ClassId × LinkedClass) :=
  match (w.instance? o).bind fun i => (w.image.class? i.cls).map fun k => (i.cls, k) with
  | some found => .ok found
  | none => .error .imageReleased

/-- The target of a virtual call: the slot of the object's own descriptor. -/
def methodTarget (w : Process) (o : ObjectId) (method : String) : Except Failure Address := do
  let (_, k) ← classOf w o
  match k.slot? method with
  | some a => .ok a
  | none => .error (.unknownMethod k.info.name method)

/-- The target of a message: the selector of the object's own descriptor. -/
def messageTarget (w : Process) (o : ObjectId) (selector : String) : Except Failure Address := do
  let (c, k) ← classOf w o
  match k.selector? .onInstances selector with
  | some a => .ok a
  | none => .error (.unknownSelector c .onInstances selector)

def classTarget (image : ManagedImage) (c : ClassId) (selector : String) :
    Except Failure Address := do
  let k ← image.classOrFail c
  match k.selector? .onClass selector with
  | some a => .ok a
  | none => .error (.unknownSelector c .onClass selector)

abbrev Outcome := Except Failure Datum × Process

/-- What a body sees of its call. -/
structure Frame where
  module : ModuleId
  receiver : Option ObjectId
  args : List Datum

/-- A failing action yields its label as text. -/
def failed (e : Failure) : Datum := .text ("!" ++ e.label)

/-- The value of an action that changes the process only when it succeeds. -/
def settle {α : Type} (w : Process) (r : Except Failure (α × Process)) (f : α → Datum) :
    Datum × Process :=
  match r with
  | .ok (a, w) => (f a, w)
  | .error e => (failed e, w)

abbrev Caller := Address → Option ObjectId → List Datum → Process → Outcome

def callThrough (call : Caller) (target : Except Failure Address) (receiver : Option ObjectId)
    (args : List Datum) (w : Process) : Datum × Process :=
  match target with
  | .error e => (failed e, w)
  | .ok a => match call a receiver args w with
    | (.ok v, w) => (v, w)
    | (.error e, w) => (failed e, w)

mutual

def eval (call : Caller) (f : Frame) : Body → Process → Datum × Process
  | .constant v, w => (w.resolve v, w)
  | .list items, w =>
    let (vs, w) := evalAll call f items w
    (.list vs, w)
  | .argument i, w => ((f.args[i]?).getD .unit, w)
  | .arguments, w => (.list f.args, w)
  | .receiver, w => ((f.receiver.map Value.object).getD .unit, w)
  | .definingModule, w => (.int f.module.number, w)
  | .call symbol args, w =>
    let (vs, w) := evalAll call f args w
    callThrough call (callTarget w.image f.module symbol) none vs w
  | .callSelf method args, w =>
    match f.receiver with
    | none => (.text "!NoReceiver", w)
    | some o =>
      let (vs, w) := evalAll call f args w
      callThrough call (methodTarget w o method) (some o) vs w
  | .sendSelf selector args, w =>
    match f.receiver with
    | none => (.text "!NoReceiver", w)
    | some o =>
      let (vs, w) := evalAll call f args w
      callThrough call (messageTarget w o selector) (some o) vs w
  | .getField field, w =>
    ((f.receiver.bind fun o => w.field? o field).getD .unit, w)
  | .setField field e, w =>
    let (v, w) := eval call f e w
    match f.receiver with
    | none => (.unit, w)
    | some o => (.unit, w.setField o field v)
  | .setNamed name field e, w =>
    let (v, w) := eval call f e w
    match w.named? name with
    | none => (.unit, w)
    | some o => (.unit, w.setField o field v)
  | .log e, w =>
    let (v, w) := eval call f e w
    (v, w.write (.value v))
  | .count key, w =>
    let (n, w) := w.count key
    (.int n, w)
  | .sequence steps, w =>
    let (vs, w) := evalAll call f steps w
    (vs.getLast?.getD .unit, w)
  | .specialize definition arguments, w =>
    settle w (specialize w definition arguments) fun c => .int c.index
  | .load m, w => settle w (load w m) fun id => .int id.number
  | .create name, w => settle w (createNamed w name) .object

def evalAll (call : Caller) (f : Frame) : List Body → Process → List Datum × Process
  | [], w => ([], w)
  | b :: bs, w =>
    let (v, w) := eval call f b w
    let (vs, w) := evalAll call f bs w
    (v :: vs, w)

end

/-- Calls the function at an address; calls nest at most as deep as given. -/
def callAt : Nat → Caller
  | 0, _, _, _, w => (.error .callTooDeep, w)
  | depth + 1, a, receiver, args, w =>
    match w.image.functionAt? a with
    | none => (.error (.unknownAddress a), w)
    | some g =>
      let (v, w) := eval (callAt depth) ⟨g.symbol.module, receiver, args⟩ g.body w
      (.ok v, w)

def callDepth : Nat := 4096

def callAddress : Caller := callAt callDepth

def callTo (target : Except Failure Address) (receiver : Option ObjectId) (args : List Datum)
    (w : Process) : Outcome :=
  match target with
  | .error e => (.error e, w)
  | .ok a => callAddress a receiver args w

def callSymbol (w : Process) (m : ModuleId) (name : String) (args : List Datum) : Outcome :=
  callTo (callTarget w.image m name) none args w

def callMethod (w : Process) (o : ObjectId) (method : String) (args : List Datum) : Outcome :=
  callTo (methodTarget w o method) (some o) args w

def send (w : Process) (o : ObjectId) (selector : String) (args : List Datum) : Outcome :=
  callTo (messageTarget w o selector) (some o) args w

def sendClass (w : Process) (c : ClassId) (selector : String) (args : List Datum) : Outcome :=
  callTo (classTarget w.image c selector) none args w

end HotReload.Managed
