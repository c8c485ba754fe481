import HotReload.Text.Quoted

/-! # Module paths

A path is a byte string. Two paths name the same staged module when they have the same parts:
repeated separators, separators at the end and `.` parts after the first do not count.
-/

namespace HotReload

/-- A path, as the bytes the host gave. -/
structure Path where
  bytes : List UInt8
deriving DecidableEq, Inhabited

namespace Path

def ofText (s : String) : Path := ⟨s.toUTF8.toList⟩

def isEmpty (p : Path) : Bool := p.bytes.isEmpty

def separator : UInt8 := 0x2F

def dot : List UInt8 := [0x2E]

/-- The bytes between separators, empty runs included. -/
def runs : List UInt8 → List (List UInt8)
  | [] => [[]]
  | b :: rest =>
    if b = separator then [] :: runs rest
    else match runs rest with
      | [] => [[b]]
      | r :: rs => (b :: r) :: rs

/-- What a path is compared by. -/
structure Parts where
  absolute : Bool
  /-- A relative path starts with the part `.`. -/
  fromHere : Bool
  names : List (List UInt8)
deriving DecidableEq

def parts (p : Path) : Parts :=
  let absolute := p.bytes.head? == some separator
  { absolute
    fromHere := !absolute && (runs p.bytes).head? == some dot
    names := (runs p.bytes).filter fun r => !r.isEmpty && r != dot }

def text? (p : Path) : Option String := Text.Utf8.decode? p.bytes

/-- The path in messages: bytes that are no text are replaced. -/
def shown (p : Path) : String := Text.Utf8.decodeLossy p.bytes

def quoted (p : Path) : String := Text.quoteBytes p.bytes

end Path

end HotReload
