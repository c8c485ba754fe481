import HotReload.Managed.Image

/-! # Linking a module into the managed image

Names are bound as in a flat namespace: a name that the module defines means its own definition,
and any other name the definition of the first module that exports it. A module with a name that
nobody defines is refused before anything changes.
-/

namespace HotReload.ManagedImage

/-- The first name that the module refers to and neither defines nor finds exported. -/
def unresolved? (image : ManagedImage) (m : ModuleSpec Body) : Option String :=
  m.references.find? fun s => !m.defined.contains s && (image.firstExport? s).isNone

/-- The functions to define: those of the module, then the destructors that it lacks. -/
def definitions (m : ModuleSpec Body) : List (FunctionSpec Body) :=
  m.functions ++ m.missingDestructors.map fun d => ⟨d, .destructor, .constant .unit⟩

def place (id : ModuleId) (start : Nat) (fs : List (FunctionSpec Body)) : List LinkedFunction :=
  fs.zipIdx.map fun (f, i) =>
    ⟨⟨f.name, ⟨start + i * addressStride⟩, id, f.kind⟩, f.body⟩

/-- The target of a name inside a module with the given functions. -/
def bindName (image : ManagedImage) (own : LinkedModule) (name : String) : Address :=
  ((own.address? name).or (image.firstExport? name)).getD .null

/-- One call site for each name that the module defines, then for each other import. -/
def linkCallSites (image : ManagedImage) (own : LinkedModule) (imports : List String) :
    List (String × Address) :=
  let names := (own.exports.map (·.name)).eraseDups
  let foreign := imports.eraseDups.filter fun s => !names.contains s
  (names ++ foreign).filterMap fun s =>
    ((own.address? s).or (image.firstExport? s)).map fun a => (s, a)

def linkClass (image : ManagedImage) (own : LinkedModule) (id : ModuleId) (c : ClassSpec) :
    LinkedClass :=
  let bound (table : List (String × String)) : Selectors :=
    table.map fun e => (e.1, image.bindName own e.2)
  { info :=
      { name := c.name, module := id, superclass := c.superclass, size := c.size
        addressPoint := c.addressPoint, isGeneric := c.isGeneric
        derivesFromGeneric := c.derivesFromGeneric, isTestCase := c.isTestCase }
    slots := (bound ((ClassSpec.destructorSlot, c.destructor) :: c.slots)).map fun e => ⟨e.1, e.2⟩
    selectors := bound c.selectors
    classSelectors := bound c.classSelectors
    fields := c.fields
    isLegacy := c.isLegacy }

/-- The image with the module added, whatever its references. -/
def link (image : ManagedImage) (m : ModuleSpec Body) : ModuleId × ManagedImage :=
  let id : ModuleId := ⟨image.modules.length + 1⟩
  let functions := place id image.nextAddress (definitions m)
  let own : LinkedModule := { name := m.name, functions, callSites := [], classes := [] }
  let linked : LinkedModule :=
    { own with
      callSites := image.linkCallSites own m.imports
      classes := m.classes.zipIdx.map fun e => ⟨image.classes.length + e.2⟩ }
  (id,
    { image with
      modules := image.modules ++ [linked]
      classes := image.classes ++ m.classes.map (image.linkClass own id)
      nextAddress := image.nextAddress + functions.length * addressStride })

/-- Loads a module whose references are all defined. -/
def load (image : ManagedImage) (m : ModuleSpec Body) : Except Failure (ModuleId × ManagedImage) :=
  match image.unresolved? m with
  | some name => .error (.unresolvedSymbol name m.name)
  | none => .ok (image.link m)

def stage (image : ManagedImage) (path : Path) (m : ModuleSpec Body) : ManagedImage :=
  { image with
    staged := image.staged.filter (fun e => e.1.parts != path.parts) ++ [(path, m)] }

/-- Takes the module staged at a path and loads it. The module is taken also if it is refused. -/
def loadStaged (image : ManagedImage) (path : Path) : Except Failure ModuleId × ManagedImage :=
  match image.staged.find? fun e => e.1.parts == path.parts with
  | none => (.error (.moduleNotFound path), image)
  | some (_, m) =>
    let taken := { image with staged := image.staged.filter fun e => e.1.parts != path.parts }
    match taken.load m with
    | .ok (id, loaded) => (.ok id, loaded)
    | .error e => (.error e, taken)

/-- A specialization of a generic definition: the existing one, or a copy of the newest
definition under the specialized name. The flag says whether it is new. -/
def specialize (image : ManagedImage) (definition : String) (arguments : List String) :
    Except Failure (ClassId × Bool × ManagedImage) :=
  let name := TypeName.specialized definition arguments
  match image.latestClass? name with
  | some c => .ok (c, false, image)
  | none =>
    let templates := image.classes.filter fun c => c.info.isGeneric && c.info.name == definition
    match templates.getLast? with
    | none => .error (.unknownType definition)
    | some t =>
      let copy := { t with info := { t.info with name, isGeneric := false } }
      .ok (⟨image.classes.length⟩, true, { image with classes := image.classes ++ [copy] })

end HotReload.ManagedImage
