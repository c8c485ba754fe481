/-! # Text

Bytes are read as characters and broken runs. A broken run is the longest start of a character
that the bytes hold, so a lenient reader replaces each run by one replacement character. White space
is what the Unicode property `White_Space` says, and text is trimmed by it.
-/

namespace HotReload.Text.Utf8

/-- A piece of a byte string: a character, or a run of bytes that starts none. -/
inductive Piece where
  | char (c : Char)
  | broken (bytes : List UInt8)

/-- Where the reader stands: between characters, or inside one. -/
inductive State where
  | idle
  /-- Bytes read so far, their value, the range of the next byte, and how many follow it. -/
  | inside (read : List UInt8) (value : Nat) (lo hi : UInt8) (more : Nat)

/-- The state after the first byte of a character, or the piece that this byte makes alone. -/
def first (b : UInt8) : Piece ⊕ State :=
  let n := b.toNat
  if n < 0x80 then .inl (.char (Char.ofNat n))
  else if 0xC2 ≤ n ∧ n ≤ 0xDF then .inr (.inside [b] (n - 0xC0) 0x80 0xBF 0)
  else if n = 0xE0 then .inr (.inside [b] 0 0xA0 0xBF 1)
  else if n = 0xED then .inr (.inside [b] 0xD 0x80 0x9F 1)
  else if 0xE1 ≤ n ∧ n ≤ 0xEF then .inr (.inside [b] (n - 0xE0) 0x80 0xBF 1)
  else if n = 0xF0 then .inr (.inside [b] 0 0x90 0xBF 2)
  else if 0xF1 ≤ n ∧ n ≤ 0xF3 then .inr (.inside [b] (n - 0xF0) 0x80 0xBF 2)
  else if n = 0xF4 then .inr (.inside [b] 4 0x80 0x8F 2)
  else .inl (.broken [b])

def start (b : UInt8) : List Piece × State :=
  match first b with
  | .inl p => ([p], .idle)
  | .inr s => ([], s)

def step (s : State) (b : UInt8) : List Piece × State :=
  match s with
  | .idle => start b
  | .inside read value lo hi more =>
    if lo ≤ b ∧ b ≤ hi then
      let value := value * 64 + (b.toNat - 0x80)
      match more with
      | 0 => ([.char (Char.ofNat value)], .idle)
      | more + 1 => ([], .inside (read ++ [b]) value 0x80 0xBF more)
    else
      let (ps, s) := start b
      (.broken read :: ps, s)

def piecesFrom : State → List UInt8 → List Piece
  | .idle, [] => []
  | .inside read _ _ _ _, [] => [.broken read]
  | s, b :: rest => (step s b).1 ++ piecesFrom (step s b).2 rest

def pieces (bytes : List UInt8) : List Piece := piecesFrom .idle bytes

def decode? (bytes : List UInt8) : Option String :=
  let chars := (pieces bytes).mapM fun
    | .char c => some c
    | .broken _ => none
  chars.map String.ofList

/-- The text with each broken run replaced by U+FFFD. -/
def decodeLossy (bytes : List UInt8) : String :=
  String.ofList ((pieces bytes).map fun
    | .char c => c
    | .broken _ => '\uFFFD')

end HotReload.Text.Utf8

namespace HotReload.Text

/-- Inclusive ranges of the Unicode property `White_Space`. -/
def blankRanges : List (Nat × Nat) :=
  [(0x09, 0x0D), (0x20, 0x20), (0x85, 0x85), (0xA0, 0xA0), (0x1680, 0x1680), (0x2000, 0x200A),
    (0x2028, 0x2029), (0x202F, 0x202F), (0x205F, 0x205F), (0x3000, 0x3000)]

def isBlank (c : Char) : Bool := blankRanges.any fun r => r.1 ≤ c.toNat && c.toNat ≤ r.2

def trimChars (cs : List Char) : List Char :=
  ((cs.dropWhile isBlank).reverse.dropWhile isBlank).reverse

def trim (s : String) : String := String.ofList (trimChars s.toList)

end HotReload.Text
