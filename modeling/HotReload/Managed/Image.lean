import HotReload.CodeImage
import HotReload.Program

/-! # The managed image

A complete runtime kept in memory. Functions are bodies at synthetic addresses, classes carry slot
and selector tables, and every call that a module makes by name goes through the module's own
call sites.
-/

namespace HotReload

/-- A linked function: its symbol, which holds its address, and its body. -/
structure LinkedFunction where
  symbol : Symbol
  body : Body

structure LinkedModule where
  name : String
  functions : List LinkedFunction
  /-- The current target of each name that the module calls; names are distinct. -/
  callSites : List (String × Address)
  classes : List ClassId

/-- A slot of a class, found by name in calls and by position in patches. -/
structure Slot where
  name : String
  address : Address
deriving DecidableEq, Inhabited

structure LinkedClass where
  info : ClassInfo
  slots : List Slot
  selectors : Selectors
  classSelectors : Selectors
  fields : List String
  isLegacy : Bool

structure ManagedImage where
  modules : List LinkedModule
  classes : List LinkedClass
  /-- Modules that wait to be loaded, by path. -/
  staged : List (Path × ModuleSpec Body)
  /-- The next function gets this address. -/
  nextAddress : Nat
  /-- The allocation of specializations can be observed. -/
  hasHook : Bool
  /-- Where new specializations are recorded. -/
  recorder : Option RecorderId

namespace LinkedModule

def exports (m : LinkedModule) : List Symbol := m.functions.map (·.symbol)

/-- The last export of a name counts. -/
def symbol? (m : LinkedModule) (name : String) : Option Symbol :=
  m.exports.reverse.find? (·.name == name)

def address? (m : LinkedModule) (name : String) : Option Address :=
  (m.symbol? name).map (·.address)

def function? (m : LinkedModule) (a : Address) : Option LinkedFunction :=
  m.functions.find? (·.symbol.address == a)

def target? (m : LinkedModule) (name : String) : Option Address := m.callSites.lookup name

end LinkedModule

namespace LinkedClass

def table (c : LinkedClass) : SelectorTable → Selectors
  | .onInstances => c.selectors
  | .onClass => c.classSelectors

def slot? (c : LinkedClass) (name : String) : Option Address :=
  (c.slots.find? (·.name == name)).map (·.address)

def selector? (c : LinkedClass) (t : SelectorTable) (selector : String) : Option Address :=
  (c.table t).lookup selector

end LinkedClass

namespace ManagedImage

def firstAddress : Nat := 0x1000

def addressStride : Nat := 0x10

def empty (hasHook : Bool) : ManagedImage :=
  { modules := [], classes := [], staged := [], nextAddress := firstAddress, hasHook,
    recorder := none }

/-- Modules are numbered from one. -/
def module? (image : ManagedImage) (m : ModuleId) : Option LinkedModule :=
  match m.number with
  | 0 => none
  | n + 1 => image.modules[n]?

def class? (image : ManagedImage) (c : ClassId) : Option LinkedClass := image.classes[c.index]?

def classOrFail (image : ManagedImage) (c : ClassId) : Except Failure LinkedClass :=
  match image.class? c with
  | some k => .ok k
  | none => .error (.unknownClass c)

def moduleIds (image : ManagedImage) : List ModuleId :=
  (List.range image.modules.length).map fun n => ⟨n + 1⟩

/-- The positions of the descriptors that satisfy a test, in registration order. -/
def classIdsWhere (image : ManagedImage) (p : LinkedClass → Bool) : List ClassId :=
  (image.classes.zipIdx.filter fun e => p e.1).map fun e => ⟨e.2⟩

/-- The most recently registered descriptor of a type name. -/
def latestClass? (image : ManagedImage) (name : String) : Option ClassId :=
  (image.classIdsWhere (·.info.name == name)).getLast?

def moduleNamed? (image : ManagedImage) (name : String) : Option ModuleId :=
  (image.modules.findIdx? (·.name == name)).map fun n => ⟨n + 1⟩

/-- The address that the first module to export a name exports it at. -/
def firstExport? (image : ManagedImage) (name : String) : Option Address :=
  image.modules.findSome? (·.address? name)

def functionAt? (image : ManagedImage) (a : Address) : Option LinkedFunction :=
  image.modules.findSome? (·.function? a)

def modifyModule (image : ManagedImage) (m : ModuleId) (f : LinkedModule → LinkedModule) :
    ManagedImage :=
  match m.number with
  | 0 => image
  | n + 1 => { image with modules := image.modules.modify n f }

def modifyClass (image : ManagedImage) (c : ClassId) (f : LinkedClass → LinkedClass) :
    ManagedImage :=
  { image with classes := image.classes.modify c.index f }

end ManagedImage

end HotReload
