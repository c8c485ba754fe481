import HotReload.Toml.Number

/-! # TOML documents

A document is a list of lines: assignments, headers, comments and blank lines. Arrays and inline
tables nest to a fixed depth.
-/

namespace HotReload.Toml

/-- Arrays, inline tables and dotted keys stay below this depth. -/
def depthLimit : Nat := 80

def isBare (c : Char) : Bool := c.isAlphanum || c == '-' || c == '_'

def keyPart (cs : List Char) : Option (String × List Char) :=
  match cs with
  | '"' :: rest => (basicBody rest).map fun e => (String.ofList e.1, e.2)
  | '\'' :: rest => (literalBody rest).map fun e => (String.ofList e.1, e.2)
  | cs => match cs.span isBare with
    | ([], _) => none
    | (name, rest) => some (String.ofList name, rest)

/-- Reads the parts of a key, with blanks around them. The fuel bounds their number. -/
def keyParts : Nat → List Char → Option (Key × List Char)
  | 0, _ => none
  | fuel + 1, cs => do
    let (part, rest) ← keyPart (skipBlanks cs)
    match skipBlanks rest with
    | '.' :: rest =>
      let (parts, rest) ← keyParts fuel rest
      return (part :: parts, rest)
    | rest => return ([part], rest)

def key (cs : List Char) : Option (Key × List Char) :=
  (keyParts (cs.length + 1) cs).filter fun e => e.1.length < depthLimit

def dropComment (cs : List Char) : List Char :=
  match cs with
  | '#' :: rest => rest.dropWhile isPlain
  | cs => cs

/-- Drops blanks, comments and line ends, of which the fuel bounds the number. -/
def skipLines : Nat → List Char → List Char
  | 0, cs => cs
  | fuel + 1, cs =>
    match lineEnd? (dropComment (skipBlanks cs)) with
    | some rest => skipLines fuel rest
    | none => skipBlanks cs

/-- Drops what may stand between the items of an array. -/
def skipSpace (cs : List Char) : List Char := skipLines cs.length cs

mutual

/-- Reads a value inside as many arrays and inline tables as given. -/
def value : Nat → Nat → List Char → Option (Item × List Char)
  | 0, _, _ => none
  | fuel + 1, depth, cs =>
    match text? cs with
    | some read => read.map fun e => (.text (String.ofList e.1), e.2)
    | none =>
      match cs with
      | '[' :: rest =>
        if depthLimit ≤ depth + 1 then none else arrayItems fuel (depth + 1) [] rest
      | '\x7b' :: rest =>
        if depthLimit ≤ depth + 1 then none
        else match skipBlanks rest with
          | '\x7d' :: rest => some (.table .inline [], rest)
          | rest => inlineEntries fuel (depth + 1) [] rest
      | 't' :: 'r' :: 'u' :: 'e' :: rest => some (.bool true, rest)
      | 'f' :: 'a' :: 'l' :: 's' :: 'e' :: rest => some (.bool false, rest)
      | cs => numeric cs

/-- Reads the rest of an array behind an item and its comma. -/
def arrayItems : Nat → Nat → List Item → List Char → Option (Item × List Char)
  | 0, _, _, _ => none
  | fuel + 1, depth, read, cs =>
    match skipSpace cs with
    | ']' :: rest => some (.array read, rest)
    | cs =>
      match value fuel depth cs with
      | none => none
      | some (item, rest) =>
        match skipSpace rest with
        | ']' :: rest => some (.array (read ++ [item]), rest)
        | ',' :: rest => arrayItems fuel depth (read ++ [item]) rest
        | _ => none

/-- Reads the rest of an inline table, at the start of an entry. -/
def inlineEntries : Nat → Nat → Entries → List Char → Option (Item × List Char)
  | 0, _, _, _ => none
  | fuel + 1, depth, read, cs =>
    match key cs with
    | some (k, '=' :: rest) =>
      match value fuel depth (skipBlanks rest) with
      | none => none
      | some (item, rest) =>
        match read.put k item, skipBlanks rest with
        | some read, '\x7d' :: rest => some (.table .inline read, rest)
        | some read, ',' :: rest => inlineEntries fuel depth read rest
        | _, _ => none
    | _ => none

end

/-- Drops the rest of a line, which holds at most a comment. -/
def lineRest? (cs : List Char) : Option (List Char) :=
  match dropComment (skipBlanks cs) with
  | [] => some []
  | cs => lineEnd? cs

structure Draft where
  root : Entries := []
  /-- The key of the last header. -/
  header : Key := []

namespace Draft

def openWith (d : Draft) (k : Key) (f : String → Entries → Option Entries) : Option Draft := do
  let last ← k.getLast?
  let root ← d.root.under (f last) k.dropLast
  return { root, header := k }

/-- Assigns a value in the table of the last header. -/
def put (d : Draft) (k : Key) (i : Item) : Option Draft :=
  (d.root.under (Entries.put k i) d.header).map fun root => { d with root }

end Draft

def line (d : Draft) (cs : List Char) : Option (Draft × List Char) := do
  match cs with
  | '#' :: _ => return (d, cs)
  | '[' :: '[' :: rest =>
    match ← key rest with
    | (k, ']' :: ']' :: rest) => return (← d.openWith k Entries.openNext, rest)
    | _ => none
  | '[' :: rest =>
    match ← key rest with
    | (k, ']' :: rest) => return (← d.openWith k Entries.openTable, rest)
    | _ => none
  | cs =>
    match ← key cs with
    | (k, '=' :: rest) =>
      let (i, rest) ← value (2 * rest.length + 2) 0 (skipBlanks rest)
      return (← d.put k i, rest)
    | _ => none

/-- Reads lines to the end; the fuel bounds their number. -/
def lines : Nat → Draft → List Char → Option Entries
  | 0, _, _ => none
  | fuel + 1, d, cs =>
    match skipBlanks cs with
    | [] => some d.root
    | cs =>
      match lineEnd? cs with
      | some rest => lines fuel d rest
      | none => do
        let (d, rest) ← line d cs
        lines fuel d (← lineRest? rest)

/-- Reads a document. A byte-order mark at its start does not count. -/
def document (s : String) : Option Entries :=
  let cs := match s.toList with
    | '\uFEFF' :: rest => rest
    | cs => cs
  lines (cs.length + 1) {} cs

end HotReload.Toml
