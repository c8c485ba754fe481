import HotReload.Sweep.Node

/-! # Objects as a sweep sees them

The sweep asks an object for its class name, its fields, its declared references and whether it
answers a hook. For objects of the host the answers are given with them; for objects of an image
they come through a view, which depends on the image and on whether it is still there. An image with
such a view, whose class methods can be called, is one whose code runs.
-/

namespace HotReload

/-- How a sweep sees the objects of an image. -/
structure ObjectView (ι : Type) where
  className : World ι → ObjectId → String
  /-- The fields of the object are visible one by one. -/
  introspects : World ι → ObjectId → Bool
  /-- The class of the object and its superclasses, most derived first. -/
  chain : World ι → ObjectId → List String
  /-- The names of the fields that a class of the chain declares, if the class is known. -/
  declared : World ι → ObjectId → String → List String
  /-- Sends a hook; the flag says whether the object answered. -/
  notify : World ι → ObjectId → String → Bool × World ι

/-- An image whose code can be run inside a world. -/
class Host (ι : Type) extends CodeImage ι where
  /-- Calls a class selector without arguments. -/
  invokeClassMethod : World ι → ClassId → String → Except Failure Unit × World ι
  objects : ObjectView ι

/-- The view of objects that have outlived their image. -/
def ObjectView.released {ι : Type} : ObjectView ι where
  className _ _ := "<released>"
  introspects _ _ := false
  chain _ _ := []
  declared _ _ _ := []
  notify w _ _ := (false, w)

/-- An object that a sweep may enter: one of the image, or one of the host. -/
inductive Subject where
  | managed (o : ObjectId)
  | host (o : HostObject Node)

/-- What tells two objects apart. -/
inductive ObjectIdentity where
  | managed (o : ObjectId)
  | host (id : Nat)
deriving DecidableEq

def Node.subject? : Node → Option Subject
  | .value (.object o) => some (.managed o)
  | .host o => some (.host o)
  | _ => none

namespace Subject

variable {ι : Type}

def identity : Subject → ObjectIdentity
  | managed o => .managed o
  | host o => .host o.id

def className (v : ObjectView ι) (w : World ι) : Subject → String
  | managed o => v.className w o
  | host o => o.className

def introspects (v : ObjectView ι) (w : World ι) : Subject → Bool
  | managed o => v.introspects w o
  | host o => o.introspects

def fields (w : World ι) : Subject → List (String × Node)
  | managed o => (w.fields o).map fun e => (e.1, .value e.2)
  | host o => o.fields

def chain (v : ObjectView ι) (w : World ι) : Subject → List String
  | managed o => v.chain w o
  | host o => o.chain

/-- The references in the slots that a class of the chain declares. -/
def references (v : ObjectView ι) (w : World ι) (declaring : String) : Subject → List Node
  | managed o =>
    let declared := v.declared w o declaring
    ((w.fields o).filter fun e => e.2.object?.isSome && declared.contains e.1).map fun e =>
      .value e.2
  | host o => (o.slots.filter (·.1 == declaring)).map (·.2)

def notify (v : ObjectView ι) (w : World ι) (hook : String) : Subject → Bool × World ι
  | managed o => v.notify w o hook
  | host o => (o.responds.contains hook, w.write (.hooked o.id hook))

end Subject

namespace Node

variable {ι : Type}

/-- The type name of a node, for types that have one of their own. -/
def typeName? (v : ObjectView ι) (w : World ι) : Node → Option String
  | value .unit => some "Unit"
  | value (.bool _) => some "Bool"
  | value (.int _) => some "Int"
  | value (.text _) => some "String"
  | value (.list _) => some "List"
  | value (.map _) => some "Map"
  | value (.object o) => some (v.className w o)
  | scalar t => t
  | compound _ t _ => t
  | host o => some o.className

end Node

end HotReload
