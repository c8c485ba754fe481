import HotReload.Unicode.Ranges

/-! # Search expressions

An expression stands for a set of stretches of text. It is searched by positions: from a list of
positions it leads to the positions at which a stretch that starts at one of them may end.
-/

namespace HotReload.Pattern

/-- The characters of identifiers: all of them, or those of ASCII. -/
inductive WordKind where
  | unicode
  | ascii
deriving DecidableEq, Inhabited

/-- Conditions on a position, by the characters on its two sides. -/
inductive Look where
  | textStart
  | textEnd
  /-- A line starts after each line feed. -/
  | lineStart
  | lineEnd
  /-- A line starts after each line feed, carriage return, or both together. -/
  | crlfStart
  | crlfEnd
  | boundary (words : WordKind)
  | noBoundary (words : WordKind)
  | wordStart (words : WordKind)
  | wordEnd (words : WordKind)
  /-- No word character precedes. -/
  | wordStartHalf (words : WordKind)
  /-- No word character follows. -/
  | wordEndHalf (words : WordKind)
deriving DecidableEq, Inhabited

inductive Expr where
  | empty
  /-- One character of a set. -/
  | chars (set : Unicode.Ranges)
  | look (condition : Look)
  | seq (first second : Expr)
  | either (left right : Expr)
  /-- At least and at most so often; without an upper bound as often as possible. -/
  | repeated (e : Expr) (least : Nat) (most : Option Nat)
deriving DecidableEq, Inhabited

namespace Look

/-- A condition holds between two characters, of which one or both may be missing. -/
def holds (isWord : WordKind → Char → Bool) (before after : Option Char) : Look → Bool
  | textStart => before.isNone
  | textEnd => after.isNone
  | lineStart => before.all (· == '\n')
  | lineEnd => after.all (· == '\n')
  | crlfStart => before.all fun c => c == '\n' || (c == '\r' && after != some '\n')
  | crlfEnd => after.all fun c => c == '\r' || (c == '\n' && before != some '\r')
  | boundary k => before.any (isWord k) != after.any (isWord k)
  | noBoundary k => before.any (isWord k) == after.any (isWord k)
  | wordStart k => !before.any (isWord k) && after.any (isWord k)
  | wordEnd k => before.any (isWord k) && !after.any (isWord k)
  | wordStartHalf k => !before.any (isWord k)
  | wordEndHalf k => !after.any (isWord k)

end Look

abbrev Positions := List Nat

namespace Positions

/-- Merges two increasing lists of positions; neither is longer than the fuel. -/
def mergeWith : Nat → Positions → Positions → Positions
  | 0, ps, _ => ps
  | _, [], qs => qs
  | _, ps, [] => ps
  | fuel + 1, p :: ps, q :: qs =>
    if p < q then p :: mergeWith fuel ps (q :: qs)
    else if q < p then q :: mergeWith fuel (p :: ps) qs
    else p :: mergeWith fuel ps qs

def merge (ps qs : Positions) : Positions := mergeWith (ps.length + qs.length) ps qs

/-- Takes a step a number of times. A list that the step leaves alone stays. -/
def iterate (step : Positions → Positions) : Nat → Positions → Positions
  | 0, ps => ps
  | n + 1, ps =>
    let qs := step ps
    if qs = ps then ps else iterate step n qs

/-- What any number of steps up to the given one reaches. -/
def reach (step : Positions → Positions) : Nat → Positions → Positions
  | 0, ps => ps
  | n + 1, ps =>
    let qs := merge ps (step ps)
    if qs = ps then ps else reach step n qs

end Positions

namespace Expr

def before (text : Array Char) : Nat → Option Char
  | 0 => none
  | p + 1 => text[p]?

/-- Where stretches that start at the given positions may end. -/
def ends (isWord : WordKind → Char → Bool) (text : Array Char) : Expr → Positions → Positions
  | empty, ps => ps
  | chars set, ps => ps.filterMap fun p =>
    if text[p]?.any fun c => set.contains c.toNat then some (p + 1) else none
  | look l, ps => ps.filter fun p => l.holds isWord (before text p) text[p]?
  | seq a b, ps => ends isWord text b (ends isWord text a ps)
  | either a b, ps => Positions.merge (ends isWord text a ps) (ends isWord text b ps)
  | repeated e least most, ps =>
    let step := ends isWord text e
    Positions.reach step ((most.map (· - least)).getD (text.size + 1))
      (Positions.iterate step least ps)

/-- Every stretch of the expression is empty. -/
def isZeroWidth : Expr → Bool
  | empty | look _ => true
  | chars _ => false
  | seq a b | either a b => a.isZeroWidth && b.isZeroWidth
  | repeated e _ most => most == some 0 || e.isZeroWidth

def byteCount (c : Nat) : Nat :=
  if c < 0x80 then 1 else if c < 0x800 then 2 else if c < 0x10000 then 3 else 4

/-- A measure of how much room a compiled form of the expression takes. -/
def weight : Expr → Nat
  | empty | look _ => 1
  | chars set => match set with
    | [(lo, hi)] => if lo = hi then byteCount lo else 2
    | _ => set.length + 1
  | seq a b => a.weight + b.weight
  | either a b => a.weight + b.weight + 1
  | repeated e least most =>
    if e.isZeroWidth then e.weight
    else match most with
      | none => e.weight * max least 1 + 1
      | some most => e.weight * least + (e.weight + 1) * (most - least) + 1

end Expr

end HotReload.Pattern
