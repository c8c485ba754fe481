import HotReload.Pattern.Bracket

/-! # Patterns

A pattern is text in the usual notation for regular expressions, without conditions on what
surrounds a match and without references back. It is searched for anywhere in a text.

A pattern is a choice of branches, a branch a sequence of items with repetitions, and a group a
pattern in parentheses. Every step takes a character off the text, so that the length of the text
bounds them all.
-/

namespace HotReload.Pattern

structure Scope where
  flags : Flags := {}
  /-- Names of the groups so far, which are distinct. -/
  names : List String := []

/-- An item of a branch. Changes of flags are items that cannot be repeated. -/
structure Piece where
  part : Part Expr
  isRepeatable : Bool

namespace Piece

def ofExpr (e : Expr) : Piece := ⟨⟨e, 0⟩, true⟩

def flags : Piece := ⟨⟨.empty, 0⟩, false⟩

/-- Repeats the last of the pieces, which come latest first. -/
def repeatLast? (least : Nat) (most : Option Nat) : List Piece → Option (List Piece)
  | [] => none
  | p :: ps =>
    if p.isRepeatable then
      some (⟨⟨.repeated p.part.value least most, p.part.depth + 1⟩, true⟩ :: ps)
    else none

/-- The branch that pieces form, which come latest first. -/
def branch (ps : List Piece) : Part Expr :=
  ⟨ps.foldl (fun e p => .seq p.part.value e) .empty, depthOf (ps.map (·.part.depth))⟩

end Piece

def choice (bs : List (Part Expr)) : Part Expr :=
  let value := match bs.map (·.value) with
    | [] => .empty
    | e :: es => es.foldl .either e
  ⟨value, depthOf (bs.map (·.depth))⟩

/-- Drops the mark of a lazy repetition. -/
def dropLazy : List Char → List Char
  | '?' :: rest => rest
  | rest => rest

/-- Reads decimal digits, among which blanks count in a verbose pattern only. -/
def digits (f : Flags) : Nat → List Char → List Char → List Char × List Char
  | 0, read, cs => (read, cs)
  | fuel + 1, read, cs =>
    match cs with
    | c :: rest => if c.isDigit then digits f fuel (read ++ [c]) (f.skip rest) else (read, cs)
    | [] => (read, [])

def dropBlanks (cs : List Char) : List Char := cs.dropWhile Text.isBlank

/-- A number that a counter of 32 bits holds. -/
def count? (digits : List Char) : Option Nat :=
  if digits.isEmpty then none
  else
    let n := digits.foldl (fun n c => n * 10 + (c.toNat - '0'.toNat)) 0
    if n ≤ 0xFFFFFFFF then some n else none

/-- Reads a number with blanks around it, if there is one, and what follows. -/
def number (f : Flags) (cs : List Char) : Option Nat × List Char :=
  let cs := dropBlanks cs
  let (read, rest) := digits f cs.length [] cs
  let rest := dropBlanks rest
  (count? read, if f.verbose then f.skip rest else rest)

/-- Reads the bounds of a repetition, from behind the opening brace. -/
def bounds (f : Flags) (cs : List Char) : Option ((Nat × Option Nat) × List Char) := do
  let (least, rest) := number f (f.skip cs)
  let (bounds, rest) ← match rest with
    | ',' :: rest =>
      match f.skip rest with
      | '\x7d' :: rest => pure ((← least, none), '\x7d' :: rest)
      | rest =>
        let (most, rest) := number f rest
        pure ((← least, some (← most)), rest)
    | rest => pure ((← least, some (← least)), rest)
  match rest with
  | '\x7d' :: rest =>
    if bounds.2.all (bounds.1 ≤ ·) then some (bounds, dropLazy (f.skip rest)) else none
  | _ => none

/-- Characters of group names. The first is a letter or an underscore. -/
def isNameChar (isFirst : Bool) (c : Char) : Bool :=
  let has (set : Option Unicode.Ranges) : Bool := (set.getD []).contains c.toNat
  c == '_' || has (Unicode.property? "Alpha") ||
    (!isFirst && (c == '.' || c == '[' || c == ']' ||
      has (some (Unicode.categories ["Nd", "Nl", "No"]))))

def groupName (cs : List Char) : Option (String × List Char) :=
  match cs.span (· != '>') with
  | (c :: name, _ :: rest) =>
    if isNameChar true c && name.all (isNameChar false) then some (String.ofList (c :: name), rest)
    else none
  | _ => none

/-- Reads the letters of flags, each at most once, with at most one sign that switches off those
behind it. Gives the flags, whether any letter or sign was read, and what follows the letters. -/
def flagLetters :
    List Char → List Char → Flags → Bool → List Char → Option (Flags × Bool × List Char)
  | _, _, _, _, [] => none
  | seen, last, f, on, c :: rest =>
    if c = ':' ∨ c = ')' then
      if last = ['-'] then none else some (f, !seen.isEmpty, c :: rest)
    else if c ∈ seen then none
    else if c = '-' then flagLetters (c :: seen) [c] f false rest
    else match f.set? c on with
      | some f => flagLetters (c :: seen) [c] f on rest
      | none => none

inductive Opening where
  /-- A group that is numbered. -/
  | numbered
  | named (name : String)
  /-- A group with flags of its own. -/
  | flagged (flags : Flags)
  /-- Flags for the rest of the surrounding group. -/
  | change (flags : Flags)

/-- Reads the opening of a group, from behind its parenthesis. There are no conditions on what
precedes or follows. -/
def opening (f : Flags) (cs : List Char) : Option (Opening × List Char) :=
  match f.skip cs with
  | '?' :: 'P' :: '<' :: rest => (groupName rest).map fun e => (.named e.1, e.2)
  | '?' :: '<' :: '=' :: _ => none
  | '?' :: '<' :: '!' :: _ => none
  | '?' :: '<' :: rest => (groupName rest).map fun e => (.named e.1, e.2)
  | '?' :: rest =>
    match flagLetters [] [] f true rest with
    | some (f, _, ':' :: rest) => some (.flagged f, rest)
    | some (f, true, ')' :: rest) => some (.change f, rest)
    | _ => none
  | rest => some (.numbered, rest)

mutual

/-- Reads branches up to the end of the group or of the text. -/
def alternatives : Nat → Scope → List (Part Expr) → List Char →
    Option (Part Expr × Scope × List Char)
  | 0, _, _, _ => none
  | fuel + 1, s, bs, cs => do
    let (b, s, rest) ← sequence fuel s [] cs
    match rest with
    | '|' :: rest => alternatives fuel s (bs ++ [b]) rest
    | rest => return (choice (bs ++ [b]), s, rest)

def sequence : Nat → Scope → List Piece → List Char → Option (Part Expr × Scope × List Char)
  | 0, _, _, _ => none
  | fuel + 1, s, ps, cs =>
    let f := s.flags
    match f.skip cs with
    | [] => some (Piece.branch ps, s, [])
    | '|' :: rest => some (Piece.branch ps, s, '|' :: rest)
    | ')' :: rest => some (Piece.branch ps, s, ')' :: rest)
    | '(' :: rest => do
      let (p, s, rest) ← group fuel s rest
      sequence fuel s (p :: ps) rest
    | '[' :: rest => do
      let (part, rest) ← bracket f fuel rest
      sequence fuel s (⟨⟨.chars part.value, part.depth⟩, true⟩ :: ps) rest
    | '?' :: rest => do sequence fuel s (← Piece.repeatLast? 0 (some 1) ps) (dropLazy rest)
    | '*' :: rest => do sequence fuel s (← Piece.repeatLast? 0 none ps) (dropLazy rest)
    | '+' :: rest => do sequence fuel s (← Piece.repeatLast? 1 none ps) (dropLazy rest)
    | '\x7b' :: rest => do
      let ((least, most), rest) ← bounds f rest
      sequence fuel s (← Piece.repeatLast? least most ps) rest
    | '\\' :: rest => do
      let (item, rest) ← escape f rest
      sequence fuel s (Piece.ofExpr (← item.expr? f) :: ps) rest
    | c :: rest => do
      sequence fuel s (Piece.ofExpr (← (plainItem f c).expr? f) :: ps) rest

/-- Reads a group, from behind its parenthesis. Its flags end with it. -/
def group : Nat → Scope → List Char → Option (Piece × Scope × List Char)
  | 0, _, _ => none
  | fuel + 1, s, cs => do
    let (o, rest) ← opening s.flags cs
    let inner : Option Scope := match o with
      | .numbered => some s
      | .named name => if name ∈ s.names then none else some { s with names := name :: s.names }
      | .flagged flags => some { s with flags }
      | .change _ => none
    match o with
    | .change flags => return (Piece.flags, { s with flags }, rest)
    | _ =>
      let (part, t, rest) ← alternatives fuel (← inner) [] rest
      match rest with
      | ')' :: rest =>
        return (⟨⟨part.value, part.depth + 1⟩, true⟩, { t with flags := s.flags }, rest)
      | _ => none

end

def maxDepth : Nat := 250

/-- How much room a compiled pattern may take: ten megabytes, at thirty-two bytes a step. -/
def maxWeight : Nat := 10 * 0x100000 / 32

/-- The expression of a pattern, which must not be too deep or too large. -/
def parse? (cs : List Char) : Option Expr :=
  match alternatives (2 * cs.length + 4) {} [] cs with
  | some (part, _, []) =>
    if part.depth ≤ maxDepth ∧ part.value.weight ≤ maxWeight then some part.value else none
  | _ => none

end HotReload.Pattern

namespace HotReload

structure Pattern where
  source : String
  expr : Pattern.Expr
deriving DecidableEq

namespace Pattern

def compile? (source : String) : Option Pattern :=
  (parse? source.toList).map fun expr => { source, expr }

/-- Some stretch of the text is of the pattern. -/
def occursIn (p : Pattern) (text : String) : Bool :=
  let chars := text.toList.toArray
  !(p.expr.ends WordKind.has chars (List.range (chars.size + 1))).isEmpty

end Pattern

end HotReload
