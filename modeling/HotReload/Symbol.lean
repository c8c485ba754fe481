import HotReload.Identity

/-! # Exported symbols

Every symbol carries an explicit kind, so nothing has to be guessed from its name. The kind
alone, with one policy switch, decides whether its code may be redirected.
-/

namespace HotReload

inductive SymbolKind where
  | function
  | method
  | getter
  | setter
  | staticMember
  /-- Hands out the address of static or global mutable storage. -/
  | mutableAddressor
  /-- Getter of a foreign type, emitted into several units. -/
  | opaqueGetter
  /-- Deallocating destructor, the first slot of every class. -/
  | destructor
  | thunk
  | runtimeInternal
  | metadata
deriving DecidableEq, Inhabited

namespace SymbolKind

/-- Every kind, in the order of the manifest codes. -/
def all : List SymbolKind :=
  [.function, .method, .getter, .setter, .staticMember, .mutableAddressor, .opaqueGetter,
    .destructor, .thunk, .runtimeInternal, .metadata]

def code : SymbolKind → Nat
  | .function => 0
  | .method => 1
  | .getter => 2
  | .setter => 3
  | .staticMember => 4
  | .mutableAddressor => 5
  | .opaqueGetter => 6
  | .destructor => 7
  | .thunk => 8
  | .runtimeInternal => 9
  | .metadata => 10

def ofCode? (n : Nat) : Option SymbolKind := all[n]?

def name : SymbolKind → String
  | .function => "function"
  | .method => "method"
  | .getter => "getter"
  | .setter => "setter"
  | .staticMember => "static"
  | .mutableAddressor => "addressor"
  | .opaqueGetter => "opaque-getter"
  | .destructor => "destructor"
  | .thunk => "thunk"
  | .runtimeInternal => "runtime"
  | .metadata => "metadata"

def ofName? (s : String) : Option SymbolKind := all.find? (·.name == s)

theorem ofCode?_code (k : SymbolKind) : ofCode? k.code = some k := by cases k <;> rfl

/-- Code of this kind may be redirected to a newer implementation. With `preserve` set, accessors
of mutable storage stay, so reloaded code keeps reading the old storage. -/
def patchable (preserve : Bool) : SymbolKind → Bool
  | .function | .method | .getter | .setter | .staticMember => true
  | .mutableAddressor => !preserve
  | .opaqueGetter | .destructor | .thunk | .runtimeInternal | .metadata => false

end SymbolKind

structure Symbol where
  name : String
  address : Address
  module : ModuleId
  kind : SymbolKind
deriving DecidableEq, Inhabited

end HotReload
