import HotReload.Managed.Run
import HotReload.Sweep.View

/-! # Objects of the managed image

An object keeps the descriptor that it was created with. Its own descriptor answers for its class
and names its superclass; from there on the newest descriptor of each name counts.
-/

namespace HotReload.Managed

def ownClass? (w : Process) (o : ObjectId) : Option LinkedClass :=
  (w.instance? o).bind fun i => w.image.class? i.cls

def newestClass? (image : ManagedImage) (name : String) : Option LinkedClass :=
  (image.latestClass? name).bind image.class?

/-- Climbs from a class to its superclasses, up to one that is unknown or listed already. Names
are distinct, so more steps than there are descriptors change nothing. -/
def climb (image : ManagedImage) : Nat → List String → Option LinkedClass → List String
  | _, listed, none => listed
  | 0, listed, some _ => listed
  | steps + 1, listed, some k =>
    if k.info.name ∈ listed then listed
    else climb image steps (listed ++ [k.info.name])
      (k.info.superclass.bind (newestClass? image))

/-- The object's class and its superclasses, most derived first. -/
def classChain (w : Process) (o : ObjectId) : List String :=
  climb w.image (w.image.classes.length + 1) [] (ownClass? w o)

/-- The fields that a class declares: by the object's own descriptor if it has that name, and by
the newest descriptor of the name otherwise. -/
def declaredFields (w : Process) (o : ObjectId) (name : String) : List String :=
  let own := (ownClass? w o).filter (·.info.name == name)
  ((own.or (newestClass? w.image name)).map (·.fields)).getD []

def notify (w : Process) (o : ObjectId) (hook : String) : Bool × Process :=
  match send w o hook [] with
  | (.ok _, w) => (true, w)
  | (.error _, w) => (false, w)

def className (w : Process) (o : ObjectId) : String :=
  ((ownClass? w o).map (·.info.name)).getD "<released>"

def view : ObjectView ManagedImage where
  className := className
  introspects w o := (ownClass? w o).any fun k => !k.isLegacy
  chain := classChain
  declared := declaredFields
  notify := notify

end HotReload.Managed

namespace HotReload

instance : Host ManagedImage where
  invokeClassMethod w c selector :=
    match Managed.sendClass w c selector [] with
    | (.ok _, w) => (.ok (), w)
    | (.error e, w) => (.error e, w)
  objects := Managed.view

end HotReload
