import HotReload.Pattern.Item

/-! # Bracketed classes

Between brackets stand characters, ranges, sets by name and further brackets; they form unions, and
unions are combined by set operations from left to right.
-/

namespace HotReload.Pattern

open Unicode (Ranges)

/-- A part of a pattern, and how deep it nests. -/
structure Part (α : Type) where
  value : α
  depth : Nat
deriving Inhabited

/-- Parts side by side nest one level deeper than the deepest of them; a single one does not. -/
def depthOf : List Nat → Nat
  | [] => 0
  | [d] => d
  | ds => ds.foldl max 0 + 1

inductive SetOp where
  | inter
  | diff
  | symmDiff
deriving DecidableEq, Inhabited

def SetOp.apply : SetOp → Ranges → Ranges → Ranges
  | inter => Ranges.inter
  | diff => Ranges.diff
  | symmDiff => Ranges.symmDiff

structure Bracket where
  /-- The operand before the last operator. -/
  left : Option (Part Ranges × SetOp) := none
  /-- What has been read since. -/
  set : Ranges := []
  depths : List Nat := []
  /-- Nothing but hyphens has been read. -/
  isFresh : Bool := true

namespace Bracket

def add (b : Bracket) (r : Ranges) (depth : Nat) : Bracket :=
  { b with set := b.set ++ r, depths := b.depths ++ [depth] }

def value (f : Flags) (b : Bracket) : Part Ranges :=
  let right : Part Ranges := ⟨b.set, depthOf b.depths⟩
  match b.left with
  | none => right
  | some (left, op) =>
    ⟨op.apply (f.fold left.value) (f.fold right.value), max left.depth right.depth + 1⟩

/-- Starts the operand after an operator. -/
def operator (f : Flags) (b : Bracket) (op : SetOp) : Bracket :=
  { left := some (b.value f, op), isFresh := false }

def close? (f : Flags) (negated : Bool) (b : Bracket) : Option (Part Ranges) :=
  let part := b.value f
  (f.negate? negated (f.fold part.value)).map fun r => ⟨r, part.depth + 1⟩

end Bracket

/-- Reads a set by name, from behind its first bracket; nothing when it is none. -/
def namedSet? (cs : List Char) : Option ((String × Bool) × List Char) :=
  match cs with
  | ':' :: rest =>
    let (negated, rest) := match rest with
      | '^' :: r => (true, r)
      | r => (false, r)
    match rest.span (· != ':') with
    | (name, ':' :: ']' :: rest) =>
      let name := String.ofList name
      if (namedSets.lookup name).isSome then some ((name, negated), rest) else none
    | _ => none
  | _ => none

def bracketItem (f : Flags) : List Char → Option (Item × List Char)
  | [] => none
  | '\\' :: rest => escape f rest
  | c :: rest => some (.literal c.toNat false, rest)

/-- The next character that counts after the first. A comment counts as its sign alone. -/
def second? (f : Flags) : List Char → Option Char
  | [] => none
  | _ :: rest =>
    if !f.verbose then rest.head?
    else match rest.dropWhile Text.isBlank with
      | [] => rest.head?
      | '#' :: r => (r.dropWhile Text.isBlank).head?.or rest.head?
      | c :: _ => some c

def bracketRange (f : Flags) (cs : List Char) : Option (Ranges × List Char) := do
  let (first, rest) ← bracketItem f cs
  match f.skip rest with
  | [] => none
  | '-' :: more =>
    if second? f ('-' :: more) == some ']' || second? f ('-' :: more) == some '-' then
      return (← first.set? f, '-' :: more)
    else
      let (last, rest) ← bracketItem f (f.skip more)
      let lo ← first.literal?
      let hi ← last.literal?
      let _ ← f.memberSet? lo
      let _ ← f.memberSet? hi
      if lo ≤ hi then return ([(lo, hi)], rest) else none
  | rest => return (← first.set? f, rest)

mutual

/-- Reads a class, from behind its opening bracket. The fuel bounds the characters read. -/
def bracket (f : Flags) : Nat → List Char → Option (Part Ranges × List Char)
  | 0, _ => none
  | fuel + 1, cs =>
    match f.skip cs with
    | '^' :: rest => bracketRest f true fuel {} rest
    | rest => bracketRest f false fuel {} rest

def bracketRest (f : Flags) (negated : Bool) :
    Nat → Bracket → List Char → Option (Part Ranges × List Char)
  | 0, _, _ => none
  | fuel + 1, b, cs =>
    match f.skip cs with
    | [] => none
    | c :: rest =>
      if b.isFresh && c == '-' then bracketRest f negated fuel (b.add [(0x2D, 0x2D)] 0) rest
      else if b.isFresh && b.depths.isEmpty && c == ']' then
        bracketRest f negated fuel { b.add [(0x5D, 0x5D)] 0 with isFresh := false } rest
      else
        let b := { b with isFresh := false }
        match c, rest with
        | ']', rest => (b.close? f negated).map fun part => (part, rest)
        | '&', '&' :: rest => bracketRest f negated fuel (b.operator f .inter) rest
        | '-', '-' :: rest => bracketRest f negated fuel (b.operator f .diff) rest
        | '~', '~' :: rest => bracketRest f negated fuel (b.operator f .symmDiff) rest
        | '[', rest =>
          match namedSet? rest with
          | some ((name, inverted), rest) =>
            match f.namedSet? name inverted with
            | some r => bracketRest f negated fuel (b.add r 0) rest
            | none => none
          | none =>
            match bracket f fuel rest with
            | some (inner, rest) => bracketRest f negated fuel (b.add inner.value inner.depth) rest
            | none => none
        | c, rest =>
          match bracketRange f (c :: rest) with
          | some (r, rest) => bracketRest f negated fuel (b.add r 0) rest
          | none => none

end

end HotReload.Pattern
