import HotReload.Faulty
import HotReload.Mapped.Manifest

/-! # The mapped image

An image of modules that describe themselves by manifests. Each module brings its own writable
tables, and patching writes into them. The image cannot observe the allocation of specializations.
Which libraries the platform opens, and what it says where it opens none, is given with the image.
-/

namespace HotReload

structure MappedModule where
  name : String
  symbols : List Symbol
  /-- Called names with the content of their cells; a name may have several cells. -/
  callSites : List (String × Address)
  classes : List ClassId

structure MappedClass where
  info : ClassInfo
  slots : List Address
  selectors : List (RawName × Address)
  classSelectors : List (RawName × Address)

structure MappedImage where
  modules : List MappedModule := []
  classes : List MappedClass := []
  /-- The manifests of the libraries that the platform opens, by path. Each is loaded once. -/
  staged : List (String × Manifest) := []
  /-- What the platform says of a path at which it opens none. -/
  openError : String → String := fun _ => ""
  /-- Entry points that have been called, in order. -/
  calls : List Address := []

namespace MappedModule

/-- The last symbol of a name counts. -/
def address? (m : MappedModule) (name : String) : Option Address :=
  (m.symbols.reverse.find? (·.name == name)).map (·.address)

/-- The last symbol at an address counts. -/
def symbolAt? (m : MappedModule) (a : Address) : Option Symbol :=
  m.symbols.reverse.find? (·.address == a)

/-- Writes an address into every cell of a name; as often as a cell changed, the name. -/
def rebindName (r : Rebinding) : List (String × Address) → List String × List (String × Address)
  | [] => ([], [])
  | e :: es =>
    let (names, es) := rebindName r es
    if e.1 = r.name ∧ e.2 ≠ r.address then (r.name :: names, (e.1, r.address) :: es)
    else (names, e :: es)

end MappedModule

namespace MappedClass

def table (c : MappedClass) : SelectorTable → List (RawName × Address)
  | .onInstances => c.selectors
  | .onClass => c.classSelectors

def readable (c : MappedClass) (t : SelectorTable) : Selectors :=
  (c.table t).filterMap fun e => e.1.text?.map fun s => (s, e.2)

def replaceFirst (selector : String) (a : Address) :
    List (RawName × Address) → List (RawName × Address)
  | [] => []
  | e :: es =>
    if e.1.text? = some selector then (e.1, a) :: es else e :: replaceFirst selector a es

end MappedClass

namespace MappedImage

/-- The number of addresses: an address that is written as a number has 64 bits. -/
def addressCount : Nat := 0x10000000000000000

/-- Entry points that the process itself provides for manifests to refer to. They lie above every
address that a manifest can write as a number. -/
def entryPoint (n : Nat) : Address := ⟨addressCount + n⟩

def addressText (a : Address) : String :=
  if addressCount ≤ a.value then "fn#" ++ toString (a.value - addressCount) else a.text

def callCount (image : MappedImage) (a : Address) : Nat := image.calls.count a

def module? (image : MappedImage) (m : ModuleId) : Option MappedModule :=
  match m.number with
  | 0 => none
  | n + 1 => image.modules[n]?

def class? (image : MappedImage) (c : ClassId) : Option MappedClass := image.classes[c.index]?

def classOrFail (image : MappedImage) (c : ClassId) : Except Failure MappedClass :=
  match image.class? c with
  | some k => .ok k
  | none => .error (.unknownClass c)

def modifyModule (image : MappedImage) (m : ModuleId) (f : MappedModule → MappedModule) :
    MappedImage :=
  match m.number with
  | 0 => image
  | n + 1 => { image with modules := image.modules.modify n f }

def modifyClass (image : MappedImage) (c : ClassId) (f : MappedClass → MappedClass) :
    MappedImage :=
  { image with classes := image.classes.modify c.index f }

/-- A symbol record, or why it is refused. -/
def readSymbol (m : ModuleId) (r : RawSymbol) : Except String Symbol :=
  match r.name.text? with
  | none => .error "symbol with a null or non-UTF-8 name"
  | some name => match SymbolKind.ofCode? r.kind with
    | none => .error ("symbol " ++ name ++ " has unknown kind " ++ toString r.kind)
    | some kind => .ok ⟨name, r.address, m, kind⟩

def readCallSite (r : RawCallSite) : Except String (String × Address) :=
  match r.name.text? with
  | none => .error "call site with a null or non-UTF-8 name"
  | some name => match r.cell with
    | none => .error ("call site " ++ name ++ " has no cell")
    | some a => .ok (name, a)

def readClass (m : ModuleId) (r : RawClass) : Except String MappedClass :=
  match r.name.text? with
  | none => .error "class with a null or non-UTF-8 name"
  | some name =>
    if r.slots.isNull && r.slots.count > 0 then
      .error ("class " ++ name ++ " has no slot array")
    else .ok
      { info :=
          { name, module := m, superclass := r.superclass.text?, size := r.size
            addressPoint := r.addressPoint, isGeneric := r.isGeneric
            derivesFromGeneric := r.derivesFromGeneric, isTestCase := r.isTestCase }
        slots := r.slots.items
        selectors := r.selectors.items
        classSelectors := r.classSelectors.items }

/-- The records of a manifest read as a module, or why the first malformed one is refused:
symbols first, then call sites, then classes. -/
def readManifest (image : MappedImage) (library : String) (m : Manifest) :
    Except String (MappedModule × List MappedClass) := do
  let id : ModuleId := ⟨image.modules.length + 1⟩
  let symbols ← m.symbols.items.mapM (readSymbol id)
  let callSites ← m.callSites.items.mapM readCallSite
  let classes ← m.classes.items.mapM (readClass id)
  let ids := classes.zipIdx.map fun e => ⟨image.classes.length + e.2⟩
  return (⟨(m.name.text?).getD library, symbols, callSites, ids⟩, classes)

def register (image : MappedImage) (path : Path) (m : Manifest) :
    Except Failure (ModuleId × MappedImage) :=
  match image.readManifest path.shown m with
  | .error reason => .error (.library (.invalidManifest path.shown reason))
  | .ok (module, classes) =>
    .ok (⟨image.modules.length + 1⟩,
      { image with
        modules := image.modules ++ [module]
        classes := image.classes ++ classes })

def stage (image : MappedImage) (path : Path) (m : Manifest) : MappedImage :=
  { image with staged := image.staged.filter (·.1 != path.shown) ++ [(path.shown, m)] }

/-- Why no library is opened at a path; the platform is not asked where it cannot be. -/
def openFailure (image : MappedImage) (path : Path) : LibraryFailure :=
  match path.text? with
  | none => .invalidPath path.quoted
  | some text =>
    match path.bytes.findIdx? (· == 0) with
    | some n => .platform ("Invalid path: nul byte found in provided data at position: " ++
        toString n)
    | none => .notFound (text ++ ": " ++ image.openError text)

/-- Opens the library at a path and registers its manifest. -/
def loadStaged (image : MappedImage) (path : Path) : Except Failure ModuleId × MappedImage :=
  match image.staged.lookup path.shown with
  | none => (.error (.library (image.openFailure path)), image)
  | some m =>
    let taken := { image with staged := image.staged.filter (·.1 != path.shown) }
    match taken.register path m with
    | .ok (id, image) => (.ok id, image)
    | .error e => (.error e, taken)

def rebindOne (m : ModuleId) (acc : List String × MappedImage) (r : Rebinding) :
    List String × MappedImage :=
  match acc.2.module? m with
  | none => acc
  | some k =>
    let (names, callSites) := MappedModule.rebindName r k.callSites
    (acc.1 ++ names, acc.2.modifyModule m fun k => { k with callSites })

def writeSlot (image : MappedImage) (c : ClassId) (index : Nat) (a : Address) :
    Except Failure MappedImage :=
  match image.class? c with
  | none => .error (.unknownClass c)
  | some k =>
    if index < k.slots.length then
      .ok (image.modifyClass c fun k => { k with slots := k.slots.set index a })
    else .error (.slotOutOfBounds c index k.slots.length)

def replaceSelector (image : MappedImage) (c : ClassId) (t : SelectorTable) (selector : String)
    (a : Address) : Except Failure MappedImage :=
  match image.class? c with
  | none => .error (.unknownClass c)
  | some k =>
    if (k.readable t).any (·.1 == selector) then
      .ok (image.modifyClass c fun k =>
        match t with
        | .onInstances => { k with selectors := MappedClass.replaceFirst selector a k.selectors }
        | .onClass =>
          { k with classSelectors := MappedClass.replaceFirst selector a k.classSelectors })
    else .error (.unknownSelector c t selector)

instance : CodeImage MappedImage where
  loadModule := loadStaged
  modules image := (List.range image.modules.length).map fun n => ⟨n + 1⟩
  sequence? image m := (image.module? m).map fun _ => m.number
  exports image m := ((image.module? m).map (·.symbols)).getD []
  symbolAt? image m a := (image.module? m).bind (·.symbolAt? a)
  address? image m name := (image.module? m).bind (·.address? name)
  callSite? image m name := (image.module? m).bind (·.callSites.lookup name)
  rebind image m rs := rs.foldl (rebindOne m) ([], image)
  classesIn image m := ((image.module? m).map (·.classes)).getD []
  classesNamed image name :=
    (image.classes.zipIdx.filter (·.1.info.name == name)).map fun e => ⟨e.2⟩
  classCount image := image.classes.length
  info? image c := (image.class? c).map (·.info)
  slots image c := (image.classOrFail c).map (·.slots)
  writeSlot := writeSlot
  selectors image c t := (image.classOrFail c).map (·.readable t)
  replaceSelector := replaceSelector
  observe _ _ := .error .hookUnavailable

/-- The implementation that a call of a class selector reaches: the first that is not null. -/
def classTarget (image : MappedImage) (c : ClassId) (selector : String) :
    Except Failure Address := do
  let k ← image.classOrFail c
  match (k.readable .onClass).find? fun e => e.1 == selector && !e.2.isNull with
  | some e => .ok e.2
  | none => .error (.unknownSelector c .onClass selector)

instance : Host MappedImage where
  invokeClassMethod w c selector :=
    match w.image.classTarget c selector with
    | .error e => (.error e, w)
    | .ok a => (.ok (), { w with image := { w.image with calls := w.image.calls ++ [a] } })
  objects := ObjectView.released

end MappedImage

end HotReload
