import HotReload.Sweep.View

/-! # Outlines of nodes

The outline of a node names its shape, its type and the roles and outlines of its children. Types
whose name is a path are left out, and an object shows nothing of its inside.
-/

namespace HotReload

/-- The shape of a node and of what hangs from it, as text. -/
inductive Outline where
  | node (shape : String) (typeName : Option String) (children : List (String × Outline))

namespace Outline

def occursIn (part : List Char) : List Char → Bool
  | [] => part.isEmpty
  | c :: rest => part.isPrefixOf (c :: rest) || occursIn part rest

/-- Type names that hold a path separator are left out. -/
def shownType (name : Option String) : Option String :=
  name.filter fun t => !occursIn [':', ':'] t.toList

variable {ι : Type}

mutual

def ofValue (v : ObjectView ι) (w : World ι) : Value ObjectId → Outline
  | .list items => .node "Sequence" (some "List") (ofItems v w items)
  | .map entries => .node "Mapping" (some "Map") (ofEntries v w entries)
  | .object o => .node "Object" (shownType (some (v.className w o))) []
  | x => .node "Scalar" (Node.typeName? v w (.value x)) []

def ofItems (v : ObjectView ι) (w : World ι) : List (Value ObjectId) → List (String × Outline)
  | [] => []
  | x :: xs => (Role.element.diagnostic, ofValue v w x) :: ofItems v w xs

def ofEntries (v : ObjectView ι) (w : World ι) :
    List (String × Value ObjectId) → List (String × Outline)
  | [] => []
  | (_, x) :: es =>
    (Role.key.diagnostic, .node "Scalar" none []) ::
      (Role.value.diagnostic, ofValue v w x) :: ofEntries v w es

end

mutual

def ofNode (v : ObjectView ι) (w : World ι) : Node → Outline
  | .value x => ofValue v w x
  | .scalar t => .node "Scalar" (shownType t) []
  | .compound s t cs => .node s.name (shownType t) (ofChildren v w cs)
  | .host o => .node "Object" (shownType (some o.className)) []

def ofChildren (v : ObjectView ι) (w : World ι) : List (Role × Node) → List (String × Outline)
  | [] => []
  | (r, n) :: ns => (r.diagnostic, ofNode v w n) :: ofChildren v w ns

end

end Outline

end HotReload
