import HotReload.Failure
import HotReload.Symbol
import HotReload.Text.Basic

/-! # The image a reload works on

A reload reaches the running program through one interface: modules and their symbols, call sites,
class descriptors with slot and selector tables, and the allocation of specializations. Everything
here reads or changes tables; running code is a separate matter. A specialization is named by its
generic definition followed by its arguments in angle brackets.
-/

namespace HotReload

namespace TypeName

/-- The characters before the first `<`. -/
def head (name : String) : List Char := name.toList.takeWhile (· != '<')

/-- The name without its type arguments. -/
def base (name : String) : String := String.ofList (Text.trimChars (head name))

/-- The name of the specialization of `definition` for `arguments`. -/
def specialized (definition : String) (arguments : List String) : String :=
  definition ++ "<" ++ ", ".intercalate arguments ++ ">"

end TypeName

/-- What a class descriptor says about its class. -/
structure ClassInfo where
  /-- Full type name, with type arguments for specializations. -/
  name : String
  /-- The module that registered the descriptor. -/
  module : ModuleId
  superclass : Option String
  size : Nat
  /-- Offset of the address point inside the metadata. -/
  addressPoint : Nat
  isGeneric : Bool
  derivesFromGeneric : Bool
  isTestCase : Bool
deriving DecidableEq, Inhabited

def ClassInfo.base (c : ClassInfo) : String := TypeName.base c.name

/-- Redirects the call sites for a name. -/
structure Rebinding where
  name : String
  address : Address
deriving DecidableEq, Inhabited

/-- The place where the specializations that an image allocates are recorded. -/
structure RecorderId where
  index : Nat
deriving DecidableEq, Inhabited

abbrev Selectors := List (String × Address)

/-- An image whose code can be replaced while it runs. -/
class CodeImage (ι : Type) where
  /-- Loads the module found at a path. A failed load may still use up what was found there. -/
  loadModule : ι → Path → Except Failure ModuleId × ι
  /-- The loaded modules, in load order. -/
  modules : ι → List ModuleId
  /-- The position of a module in load order, from one. -/
  sequence? : ι → ModuleId → Option Nat
  /-- The symbols that a module exports, in the order of its table. -/
  exports : ι → ModuleId → List Symbol
  /-- The symbol of a module at an address. -/
  symbolAt? : ι → ModuleId → Address → Option Symbol
  /-- The address that a module exports under a name. -/
  address? : ι → ModuleId → String → Option Address
  /-- The current target of a module's call site for a name. -/
  callSite? : ι → ModuleId → String → Option Address
  /-- Redirects the call sites of a module; also the names of those that changed. -/
  rebind : ι → ModuleId → List Rebinding → List String × ι
  /-- The descriptors that a module registered. -/
  classesIn : ι → ModuleId → List ClassId
  /-- Every descriptor of a type name, in registration order. -/
  classesNamed : ι → String → List ClassId
  /-- How many descriptors are registered, specializations included. -/
  classCount : ι → Nat
  info? : ι → ClassId → Option ClassInfo
  slots : ι → ClassId → Except Failure (List Address)
  writeSlot : ι → ClassId → Nat → Address → Except Failure ι
  selectors : ι → ClassId → SelectorTable → Except Failure Selectors
  /-- Replaces the implementation of a selector that the table has. -/
  replaceSelector : ι → ClassId → SelectorTable → String → Address → Except Failure ι
  /-- Has every new specialization recorded. -/
  observe : ι → RecorderId → Except Failure ι

namespace CodeImage

variable {ι : Type} [CodeImage ι]

def exportedNames (image : ι) : List String :=
  ((modules image).flatMap fun m => (exports image m).map (·.name)).eraseDups

/-- The call sites of a module for exported names, with their targets. -/
def callSites (image : ι) (m : ModuleId) : List (String × Address) :=
  (exportedNames image).filterMap fun name => (callSite? image m name).map fun a => (name, a)

/-- The symbol of a name in the most recently loaded module that exports it. -/
def find? (image : ι) (name : String) : Option Symbol :=
  (modules image).reverse.findSome? fun m =>
    (address? image m name).bind (symbolAt? image m)

end CodeImage

end HotReload
