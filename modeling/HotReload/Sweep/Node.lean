import HotReload.World

/-! # The graph that a sweep walks

Roots and what hangs from them are seen as nodes of a few shapes. Runtime values, host scalars and
containers, and objects of the host share this view; children carry a role that says how they hang
from their parent.
-/

namespace HotReload

inductive Shape where
  | scalar
  | sequence
  | set
  | mapping
  | optional
  | record
  /-- An object with identity. -/
  | object
  /-- A foreign container that only a reader made for it understands. -/
  | sealed
deriving DecidableEq, Inhabited

def Shape.name : Shape → String
  | .scalar => "Scalar"
  | .sequence => "Sequence"
  | .set => "Set"
  | .mapping => "Mapping"
  | .optional => "Optional"
  | .record => "Record"
  | .object => "Object"
  | .sealed => "Opaque"

def Shape.ofName? (s : String) : Option Shape :=
  [scalar, sequence, set, mapping, optional, record, object, sealed].find? (·.name == s)

inductive Role where
  | element
  | key
  | value
  | payload
  | field (label : String)
deriving DecidableEq, Inhabited

def Role.diagnostic : Role → String
  | .element => "Element"
  | .key => "Key"
  | .value => "Value"
  | .payload => "Payload"
  | .field label => "Field(" ++ Text.quote label ++ ")"

structure HostObject (ν : Type) where
  /-- Its identity. -/
  id : Nat
  className : String
  /-- The hooks that it answers. -/
  responds : List String
  introspects : Bool
  fields : List (String × ν)
  /-- Its class and superclasses, most derived first. -/
  chain : List String
  /-- References, each with the class that declares its slot. -/
  slots : List (String × ν)

inductive Node where
  | value (v : Value ObjectId)
  /-- A host value without parts. Library types have no type name of their own. -/
  | scalar (typeName : Option String)
  /-- A host value with parts. -/
  | compound (shape : Shape) (typeName : Option String) (children : List (Role × Node))
  | host (object : HostObject Node)

namespace Node

instance : Inhabited Node := ⟨.value .unit⟩

def shape : Node → Shape
  | value (.list _) => .sequence
  | value (.map _) => .mapping
  | value (.object _) => .object
  | value _ => .scalar
  | scalar _ => .scalar
  | compound s _ _ => s
  | host _ => .object

def children : Node → List (Role × Node)
  | value (.list items) => items.map fun v => (.element, .value v)
  | value (.map entries) =>
    entries.flatMap fun e => [(.key, .scalar none), (.value, .value e.2)]
  | value _ => []
  | scalar _ => []
  | compound _ _ cs => cs
  | host _ => []

def sequence (items : List Node) : Node :=
  .compound .sequence none (items.map fun n => (.element, n))

/-- A set, ordered by key; of equal keys the last element stays. -/
def set (items : List (String × Node)) : Node :=
  let kept := items.foldl (fun m e => Value.insertEntry e.1 e.2 m) []
  .compound .set none (kept.map fun e => (.element, e.2))

/-- A mapping, ordered by key; of equal keys the last entry stays. -/
def mapping (entries : List (String × Node × Node)) : Node :=
  let kept := entries.foldl (fun m e => Value.insertEntry e.1 e.2 m) []
  .compound .mapping none (kept.flatMap fun e => [(.key, e.2.1), (.value, e.2.2)])

def optional (payload : Option Node) : Node :=
  .compound .optional none (payload.toList.map fun n => (.payload, n))

/-- A tuple, its parts labelled by position. -/
def tuple (items : List Node) : Node :=
  .compound .record none (items.zipIdx.map fun e => (.field (toString e.2), e.1))

mutual

/-- How many nodes hang from the node, itself included; objects of the image count as one. -/
def size : Node → Nat
  | value v => v.size
  | scalar _ => 1
  | compound _ _ cs => 1 + sizeChildren cs
  | host o => 1 + sizeLabelled o.fields + sizeLabelled o.slots

def sizeChildren : List (Role × Node) → Nat
  | [] => 0
  | (_, n) :: ns => size n + sizeChildren ns

def sizeLabelled : List (String × Node) → Nat
  | [] => 0
  | (_, n) :: ns => size n + sizeLabelled ns

end

end Node

end HotReload
