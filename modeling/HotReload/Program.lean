import HotReload.Symbol
import HotReload.Value

/-! # Modules before they are loaded

A module description lists functions, imports and classes. Function bodies are expressions of a
small language: they compute values, call through the module's own call sites, use the receiver,
and act on the image itself.
-/

namespace HotReload

/-- A function to export, with a body of type `β`. -/
structure FunctionSpec (β : Type) where
  name : String
  kind : SymbolKind
  body : β
deriving Inhabited

/-- A class descriptor to register. Slots and selectors are bound to symbols by name. -/
structure ClassSpec where
  name : String
  superclass : Option String := none
  size : Nat := 16
  addressPoint : Nat := 0
  /-- A generic definition, from which specializations are made. -/
  isGeneric : Bool := false
  derivesFromGeneric : Bool := false
  /-- Instances offer no introspection. -/
  isLegacy : Bool := false
  isTestCase : Bool := false
  slots : List (String × String) := []
  selectors : List (String × String) := []
  classSelectors : List (String × String) := []
  fields : List String := []

structure ModuleSpec (β : Type) where
  name : String
  functions : List (FunctionSpec β) := []
  imports : List String := []
  classes : List ClassSpec := []
deriving Inhabited

namespace ClassSpec

/-- The name of the slot that every class has first. -/
def destructorSlot : String := "deinit"

def destructor (c : ClassSpec) : String := c.name ++ "." ++ destructorSlot

/-- The symbols that the class's tables name, in order. -/
def references (c : ClassSpec) : List String :=
  (c.slots ++ c.selectors ++ c.classSelectors).map (·.2)

end ClassSpec

namespace ModuleSpec

variable {β : Type}

def functionNames (m : ModuleSpec β) : List String := m.functions.map (·.name)

/-- Every name that the module defines: its functions and its classes' destructors. -/
def defined (m : ModuleSpec β) : List String :=
  m.functionNames ++ m.classes.map (·.destructor)

/-- Every name that has to be defined somewhere: imports first, then the classes' references. -/
def references (m : ModuleSpec β) : List String :=
  m.imports ++ m.classes.flatMap (·.references)

/-- The destructors that the module leaves to the linker, each once. -/
def missingDestructors (m : ModuleSpec β) : List String :=
  (m.classes.map (·.destructor)).eraseDups.filter fun d => !m.functionNames.contains d

end ModuleSpec

inductive Body where
  /-- A constant; objects are named as the host names them. -/
  | constant (value : Value String)
  /-- The values of the items, in order. -/
  | list (items : List Body)
  | argument (index : Nat)
  | arguments
  | receiver
  /-- The number of the module that defines the function. -/
  | definingModule
  /-- A call through the call sites of the defining module. -/
  | call (symbol : String) (args : List Body)
  /-- A virtual call on the receiver. -/
  | callSelf (method : String) (args : List Body)
  /-- A message to the receiver. -/
  | sendSelf (selector : String) (args : List Body)
  | getField (field : String)
  | setField (field : String) (value : Body)
  /-- Sets a field of an object that the host has named. -/
  | setNamed (object field : String) (value : Body)
  | log (value : Body)
  /-- Increments a counter of the host. -/
  | count (key : String)
  /-- The value of the last step. -/
  | sequence (steps : List Body)
  | specialize (definition : String) (arguments : List String)
  | load (module : ModuleSpec Body)
  | create (className : String)

instance : Inhabited Body := ⟨.constant .unit⟩

end HotReload
