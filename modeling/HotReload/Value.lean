import HotReload.Text.Quoted

/-! # Runtime values

Values are built over a type of object references: the host writes references by name, the running
image holds them by identity, and printed values hold the reference's text. Maps keep their keys
in increasing order, one entry a key.
-/

namespace HotReload

/-- A runtime value whose object references are of type `ρ`. -/
inductive Value (ρ : Type) where
  | unit
  | bool (b : Bool)
  | int (i : Int)
  | text (s : String)
  | list (items : List (Value ρ))
  | map (entries : List (String × Value ρ))
  | object (ref : ρ)
deriving Inhabited

namespace Value

variable {ρ σ : Type}

/-- Adds an entry, replacing one of the same key, and keeps the keys in order. -/
def insertEntry {α : Type} (key : String) (a : α) : List (String × α) → List (String × α)
  | [] => [(key, a)]
  | (k, b) :: rest =>
    if key = k then (key, a) :: rest
    else if key < k then (key, a) :: (k, b) :: rest
    else (k, b) :: insertEntry key a rest

/-- A map from entries in any order; of equal keys the last stays. -/
def mapOf (entries : List (String × Value ρ)) : Value ρ :=
  .map (entries.foldl (fun m e => insertEntry e.1 e.2 m) [])

mutual

def bind (f : ρ → Value σ) : Value ρ → Value σ
  | unit => unit
  | bool b => bool b
  | int i => int i
  | text s => text s
  | list items => list (bindItems f items)
  | map entries => map (bindEntries f entries)
  | object ref => f ref

def bindItems (f : ρ → Value σ) : List (Value ρ) → List (Value σ)
  | [] => []
  | v :: vs => bind f v :: bindItems f vs

def bindEntries (f : ρ → Value σ) : List (String × Value ρ) → List (String × Value σ)
  | [] => []
  | (k, v) :: es => (k, bind f v) :: bindEntries f es

end

mutual

/-- Equality of values; references are equal by identity. -/
def beq [BEq ρ] : Value ρ → Value ρ → Bool
  | unit, unit => true
  | bool a, bool b => a == b
  | int a, int b => a == b
  | text a, text b => a == b
  | list as, list bs => beqItems as bs
  | map as, map bs => beqEntries as bs
  | object a, object b => a == b
  | _, _ => false

def beqItems [BEq ρ] : List (Value ρ) → List (Value ρ) → Bool
  | [], [] => true
  | a :: as, b :: bs => beq a b && beqItems as bs
  | _, _ => false

def beqEntries [BEq ρ] : List (String × Value ρ) → List (String × Value ρ) → Bool
  | [], [] => true
  | (k, a) :: as, (l, b) :: bs => k == l && beq a b && beqEntries as bs
  | _, _ => false

end

instance [BEq ρ] : BEq (Value ρ) := ⟨beq⟩

def text? : Value ρ → Option String
  | text s => some s
  | _ => none

def int? : Value ρ → Option Int
  | int i => some i
  | _ => none

def object? : Value ρ → Option ρ
  | object ref => some ref
  | _ => none

mutual

def size : Value ρ → Nat
  | list items => 1 + sizeItems items
  | map entries => 1 + sizeEntries entries
  | _ => 1

def sizeItems : List (Value ρ) → Nat
  | [] => 0
  | v :: vs => size v + sizeItems vs

def sizeEntries : List (String × Value ρ) → Nat
  | [] => 0
  | (_, v) :: es => size v + sizeEntries es

end

mutual

/-- The value as diagnostics show it, over the texts of its references. -/
def diagnostic : Value String → String
  | unit => "()"
  | bool b => if b then "true" else "false"
  | int i => toString i
  | text s => Text.quote s
  | list items => "[" ++ ", ".intercalate (diagnosticItems items) ++ "]"
  | map entries => "\x7b" ++ ", ".intercalate (diagnosticEntries entries) ++ "\x7d"
  | object ref => ref

def diagnosticItems : List (Value String) → List String
  | [] => []
  | v :: vs => diagnostic v :: diagnosticItems vs

def diagnosticEntries : List (String × Value String) → List String
  | [] => []
  | (k, v) :: es => (Text.quote k ++ ": " ++ diagnostic v) :: diagnosticEntries es

end

end Value

end HotReload
