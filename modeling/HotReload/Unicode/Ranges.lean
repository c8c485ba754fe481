/-! # Sets of code points

A set of code points is kept as a list of inclusive ranges. Tables write it as hexadecimal text,
`41-5A 61-7A AA`, one range or single code point after another. The set operations return ranges in
increasing order with a gap between any two.
-/

namespace HotReload.Unicode

/-- A set of code points, as inclusive ranges. -/
abbrev Ranges := List (Nat × Nat)

/-- The value of a hexadecimal digit; other characters count as zero. -/
def hexDigit (c : Char) : Nat :=
  if '0' ≤ c ∧ c ≤ '9' then c.toNat - '0'.toNat
  else if 'A' ≤ c ∧ c ≤ 'F' then c.toNat - 'A'.toNat + 10
  else if 'a' ≤ c ∧ c ≤ 'f' then c.toNat - 'a'.toNat + 10
  else 0

def hexValue (cs : List Char) : Nat := cs.foldl (fun n c => n * 16 + hexDigit c) 0

def lastCodePoint : Nat := 0x10FFFF

namespace Ranges

def contains (r : Ranges) (c : Nat) : Bool := r.any fun p => p.1 ≤ c && c ≤ p.2

/-- One entry of a table: a code point, or two joined by a hyphen. -/
def entry (cs : List Char) : Nat × Nat :=
  match cs.span (· != '-') with
  | (lo, []) => (hexValue lo, hexValue lo)
  | (lo, _ :: hi) => (hexValue lo, hexValue hi)

/-- The words of a table's text, which stand between blanks and line ends. -/
def words (s : String) : List (List Char) :=
  ((s.split fun c => c == ' ' || c == '\n').toList.map (·.toString.toList)).filter (!·.isEmpty)

def ofText (s : String) : Ranges := (words s).map entry

/-- Joins a range with those that follow it, given in increasing order of their starts: as long as
the next one touches or overlaps, the range grows over it. -/
def joinFrom (p : Nat × Nat) : Ranges → Ranges
  | [] => [p]
  | q :: rest => if q.1 ≤ p.2 + 1 then joinFrom (p.1, max p.2 q.2) rest else p :: joinFrom q rest

def join : Ranges → Ranges
  | [] => []
  | p :: rest => joinFrom p rest

/-- The same set in increasing order, with gaps. -/
def normalize (r : Ranges) : Ranges := join (r.mergeSort fun p q => p.1 ≤ q.1)

def union (r s : Ranges) : Ranges := normalize (r ++ s)

/-- The gaps of a set in increasing order, from a start up to a last code point. -/
def gaps (start last : Nat) : Ranges → Ranges
  | [] => if start ≤ last then [(start, last)] else []
  | p :: rest =>
    if start < p.1 then (start, p.1 - 1) :: gaps (p.2 + 1) last rest else gaps (p.2 + 1) last rest

/-- The code points up to the last one given that are not in the set. -/
def complementUpTo (last : Nat) (r : Ranges) : Ranges := gaps 0 last (normalize r)

def complement (r : Ranges) : Ranges := complementUpTo lastCodePoint r

def inter (r s : Ranges) : Ranges := complement (union (complement r) (complement s))

def diff (r s : Ranges) : Ranges := inter r (complement s)

def symmDiff (r s : Ranges) : Ranges := union (diff r s) (diff s r)

end Ranges

end HotReload.Unicode
