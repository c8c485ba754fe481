import HotReload.Pattern.Flags

/-! # Character sets of a pattern

The sets that escapes and bracketed names stand for, and what the flags do to a set. A pattern that
does not go beyond ASCII must not have sets that do.
-/

namespace HotReload.Pattern

open Unicode (Ranges)

/-- The letters of the classes for digits, blanks and words. -/
inductive Letter where
  | digit
  | space
  | word
deriving DecidableEq, Inhabited

namespace Letter

def ofChar? : Char → Option Letter
  | 'd' => some digit
  | 's' => some space
  | 'w' => some word
  | _ => none

/-- Letters, marks, decimal digits, connectors and joiners. -/
def wordSet : Ranges :=
  Ranges.normalize
    ((["Alpha", "Join_C"].flatMap fun p => (Unicode.property? p).getD []) ++
      Unicode.categories ["Mn", "Mc", "Me", "Nd", "Pc"])

def asciiWordSet : Ranges := [(0x30, 0x39), (0x41, 0x5A), (0x5F, 0x5F), (0x61, 0x7A)]

def set : Letter → Ranges
  | digit => Unicode.categories ["Nd"]
  | space => Text.blankRanges
  | word => wordSet

def asciiSet : Letter → Ranges
  | digit => [(0x30, 0x39)]
  | space => [(0x09, 0x0D), (0x20, 0x20)]
  | word => asciiWordSet

end Letter

def WordKind.has (k : WordKind) (c : Char) : Bool :=
  match k with
  | .unicode => Letter.wordSet.contains c.toNat
  | .ascii => Letter.asciiWordSet.contains c.toNat

/-- The sets that go by a name between `[:` and `:]`. -/
def namedSets : List (String × Ranges) := [
  ("alnum", [(0x30, 0x39), (0x41, 0x5A), (0x61, 0x7A)]),
  ("alpha", [(0x41, 0x5A), (0x61, 0x7A)]),
  ("ascii", [(0x00, 0x7F)]),
  ("blank", [(0x09, 0x09), (0x20, 0x20)]),
  ("cntrl", [(0x00, 0x1F), (0x7F, 0x7F)]),
  ("digit", [(0x30, 0x39)]),
  ("graph", [(0x21, 0x7E)]),
  ("lower", [(0x61, 0x7A)]),
  ("print", [(0x20, 0x7E)]),
  ("punct", [(0x21, 0x2F), (0x3A, 0x40), (0x5B, 0x60), (0x7B, 0x7E)]),
  ("space", [(0x09, 0x0D), (0x20, 0x20)]),
  ("upper", [(0x41, 0x5A)]),
  ("word", Letter.asciiWordSet),
  ("xdigit", [(0x30, 0x39), (0x41, 0x46), (0x61, 0x66)])]

/-- Adds what differs from a member at most in case. -/
def closeCase (r : Ranges) : Ranges :=
  let added := (Unicode.foldingClasses.filter (·.any r.contains)).flatMap fun cs =>
    cs.map fun c => (c, c)
  Ranges.normalize (r ++ added)

/-- Adds the other case of the ASCII letters. -/
def closeAsciiCase (r : Ranges) : Ranges :=
  let shifted (start target : Nat) : Ranges :=
    (Ranges.inter r [(start, start + 25)]).map fun p => (p.1 - start + target, p.2 - start + target)
  Ranges.normalize (r ++ shifted 0x41 0x61 ++ shifted 0x61 0x41)

namespace Flags

/-- A set as the flag for case has it. -/
def fold (f : Flags) (r : Ranges) : Ranges :=
  if !f.ignoreCase then r else if f.unicode then closeCase r else closeAsciiCase r

/-- The complement of a set on request. Without characters beyond ASCII it is a set of bytes, which
must not hold bytes that are no character. -/
def negate? (f : Flags) (negated : Bool) (r : Ranges) : Option Ranges :=
  if f.unicode then some (if negated then r.complement else r)
  else
    let r := if negated then Ranges.complementUpTo 0xFF r else r
    if r.all (·.2 ≤ 0x7F) then some r else none

def letterSet? (f : Flags) (l : Letter) (negated : Bool) : Option Ranges :=
  f.negate? negated (if f.unicode then l.set else l.asciiSet)

def namedSet? (f : Flags) (name : String) (negated : Bool) : Option Ranges :=
  (namedSets.lookup name).bind fun r => f.negate? negated (f.fold r)

/-- The set of a Unicode property, which goes beyond ASCII. -/
def propertySet? (f : Flags) (set : Ranges) (negated : Bool) : Option Ranges :=
  if f.unicode then f.negate? negated (f.fold set) else none

/-- The set of a character that stands for itself in a class. -/
def memberSet? (f : Flags) (c : Nat) : Option Ranges :=
  if f.unicode || c ≤ 0x7F then some [(c, c)] else none

def dotSet? (f : Flags) : Option Ranges :=
  if !f.unicode then none
  else if f.dotAll then some [(0, Unicode.lastCodePoint)]
  else if f.crlf then some (Ranges.complement [(0x0A, 0x0A), (0x0D, 0x0D)])
  else some (Ranges.complement [(0x0A, 0x0A)])

end Flags

end HotReload.Pattern
