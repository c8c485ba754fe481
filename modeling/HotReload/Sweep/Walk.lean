import HotReload.Sweep.View

/-! # The sweep over live objects

After a load, every live object of a redefined type is sent the lifecycle hook once. Objects are
found by walking the graph from the host's roots: containers by their shape, objects through their
fields, or through the references that their classes declare. Objects are told apart by identity,
so that cycles end.
-/

namespace HotReload

/-- A reader for sealed containers of one type name. -/
structure SealedReader where
  typeName : String
  /-- The reader reports that it understood what it read. -/
  claims : Bool
deriving DecidableEq, Inhabited

structure SweepReport where
  /-- Distinct objects reached and entered. -/
  visited : Nat := 0
  /-- Objects that answered the hook. -/
  notified : Nat := 0
  /-- Distinct objects passed over by the exclusion. -/
  excluded : Nat := 0
deriving DecidableEq, Inhabited

/-- What a sweep goes by. -/
structure SweepRules where
  /-- Type names whose objects are passed over, with everything in them. -/
  excludes : String → Bool
  /-- Types at which the walk over declared references stops. -/
  frameworkRoots : List String
  readers : List SealedReader
  /-- Names of the types that have changed. -/
  modified : List String
  hook : String

/-- The progress of a sweep. -/
structure Walk (ι : Type) where
  world : World ι
  seen : List ObjectIdentity := []
  report : SweepReport := {}

namespace SweepRules

/-- The type, or its generic definition, has changed. -/
def isModified (rules : SweepRules) (className : String) : Bool :=
  rules.modified.contains className || rules.modified.contains (TypeName.base className)

end SweepRules

/-- A field that holds type metadata rather than an instance. -/
def isMetatypeField (label : String) (typeName : Option String) : Bool :=
  label.endsWith ".Type" || label.endsWith ".Protocol" || label == "metatype" || label == "isa" ||
    typeName.any (·.endsWith ".Type")

namespace Walk

variable {ι : Type}

def each (visit : Node → Walk ι → Walk ι) (nodes : List Node) (s : Walk ι) : Walk ι :=
  nodes.foldl (fun s n => visit n s) s

/-- The children of a container that the sweep enters, by the shape of the container. -/
def entered (v : ObjectView ι) (w : World ι) (n : Node) : List Node :=
  match n.shape with
  | .sequence | .set | .optional | .sealed => n.children.map (·.2)
  | .mapping => (n.children.filter (·.1 == .value)).map (·.2)
  | .record =>
    (n.children.filter fun c => match c.1 with
      | .field label => !isMetatypeField label (c.2.typeName? v w)
      | _ => true).map (·.2)
  | .scalar | .object => []

/-- Lets readers of the node's type read it, until one claims it. -/
def readSealed (visit : Node → Walk ι → Walk ι) (name : Option String) (children : List Node) :
    List SealedReader → Walk ι → Walk ι
  | [], s => s
  | r :: rs, s =>
    if name = some r.typeName then
      let s := each visit children s
      if r.claims then s else readSealed visit name children rs s
    else readSealed visit name children rs s

def throughFields (v : ObjectView ι) (visit : Node → Walk ι → Walk ι) (o : Subject)
    (s : Walk ι) : Walk ι :=
  let fields := (o.fields s.world).filter fun f => !isMetatypeField f.1 (f.2.typeName? v s.world)
  each visit (fields.map (·.2)) s

/-- Visits the references that the classes of an object declare, up to the first framework root. -/
def throughReferences (v : ObjectView ι) (rules : SweepRules) (visit : Node → Walk ι → Walk ι)
    (o : Subject) (s : Walk ι) : Walk ι :=
  ((o.chain v s.world).takeWhile fun c => !rules.frameworkRoots.contains c).foldl
    (fun s c => each visit (o.references v s.world c) s) s

def announce (v : ObjectView ι) (rules : SweepRules) (o : Subject) (className : String)
    (s : Walk ι) : Walk ι :=
  if rules.isModified className then
    let (answered, world) := o.notify v s.world rules.hook
    let notified := if answered then s.report.notified + 1 else s.report.notified
    { s with world, report := { s.report with notified } }
  else s

/-- Visits an object: nothing if it was seen before; only counts it if it is excluded; otherwise
enters it and then sends the hook. -/
def visitObject (v : ObjectView ι) (rules : SweepRules) (visit : Node → Walk ι → Walk ι)
    (o : Subject) (s : Walk ι) : Walk ι :=
  if o.identity ∈ s.seen then s
  else
    let s := { s with seen := o.identity :: s.seen }
    let className := o.className v s.world
    if rules.excludes className then
      { s with report := { s.report with excluded := s.report.excluded + 1 } }
    else
      let s := { s with report := { s.report with visited := s.report.visited + 1 } }
      let s :=
        if o.introspects v s.world then throughFields v visit o s
        else throughReferences v rules visit o s
      announce v rules o className s

/-- Visits a node and what hangs from it, as deep as given. -/
def visit (v : ObjectView ι) (rules : SweepRules) : Nat → Node → Walk ι → Walk ι
  | 0, _, s => s
  | depth + 1, n, s =>
    match n.shape with
    | .object => match n.subject? with
      | some o => visitObject v rules (visit v rules depth) o s
      | none => s
    | .sealed =>
      readSealed (visit v rules depth) (n.typeName? v s.world) (entered v s.world n)
        rules.readers s
    | _ => each (visit v rules depth) (entered v s.world n) s

end Walk

/-- A depth that no walk exceeds whose hooks leave fields alone: along a path every object occurs
once, and between two objects the path stays inside one field. The slack is for hooks that do
change fields. -/
def World.walkDepth {ι : Type} (w : World ι) (roots : List Node) : Nat :=
  let nodes := roots.foldl (fun n r => n + r.size) 0
  let fields := w.objects.foldl (fun n i => i.fields.foldl (fun n f => n + f.2.size) (n + 1)) 0
  nodes + fields + 65536

/-- Walks the graph from the roots. -/
def sweep {ι : Type} (v : ObjectView ι) (rules : SweepRules) (roots : List Node) (w : World ι) :
    Except Failure (SweepReport × World ι) :=
  if roots.isEmpty then .error .emptyRootSet
  else
    let s := Walk.each (Walk.visit v rules (w.walkDepth roots)) roots { world := w }
    .ok (s.report, s.world)

end HotReload
