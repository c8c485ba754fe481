import HotReload.Pattern.Sets

/-! # Items of a pattern

An item is what one character or one escape of a pattern stands for, inside of brackets and
outside.
-/

namespace HotReload.Pattern

open Unicode (Ranges)

/-- Reads the start of a text, and gives what follows; nothing when the text is malformed. -/
abbrev Reader (α : Type) := List Char → Option (α × List Char)

inductive Item where
  /-- A character that stands for itself. One that is written by two digits means a byte. -/
  | literal (c : Nat) (isByte : Bool)
  | dot
  | look (condition : Look)
  | letter (l : Letter) (negated : Bool)
  | property (set : Ranges) (negated : Bool)
deriving Inhabited

namespace Item

def literal? : Item → Option Nat
  | literal c _ => some c
  | _ => none

/-- The set of an item between brackets, where there are no conditions. -/
def set? (f : Flags) : Item → Option Ranges
  | literal c _ => f.memberSet? c
  | letter l negated => f.letterSet? l negated
  | property set negated => f.propertySet? set negated
  | dot | look _ => none

def expr? (f : Flags) : Item → Option Expr
  | literal c isByte =>
    if !f.unicode && isByte && c > 0x7F then none else some (.chars (f.fold [(c, c)]))
  | dot => f.dotSet?.map .chars
  | look l => some (.look l)
  | letter l negated => (f.letterSet? l negated).map .chars
  | property set negated => (f.propertySet? set negated).map .chars

end Item

/-- Characters that mean something and stand for themselves after a backslash. -/
def metaCharacters : List Char :=
  ['\\', '.', '+', '*', '?', '(', ')', '|', '[', ']', '\x7b', '\x7d', '^', '$', '#', '&', '-', '~']

/-- Characters that may be escaped without need: those of ASCII that are no letters or digits, and
no angle brackets. -/
def isEscapable (c : Char) : Bool :=
  metaCharacters.contains c || (c.toNat ≤ 0x7F && !c.isAlphanum && c != '<' && c != '>')

def isHexDigit (c : Char) : Bool :=
  c.isDigit || ('a' ≤ c && c ≤ 'f') || ('A' ≤ c && c ≤ 'F')

def character? (n : Nat) : Option Nat := if n.isValidChar then some n else none

def hexDigits (f : Flags) : Nat → List Char → Reader (List Char)
  | 0, read, cs => some (read, cs)
  | n + 1, read, cs =>
    match f.skip cs with
    | c :: rest => if isHexDigit c then hexDigits f n (read ++ [c]) rest else none
    | [] => none

/-- Takes characters up to a closing brace, and drops it. The fuel bounds their number. -/
def toBrace (f : Flags) : Nat → List Char → Reader (List Char)
  | 0, _, _ => none
  | fuel + 1, read, cs =>
    match f.skip cs with
    | '\x7d' :: rest => some (read, rest)
    | c :: rest => toBrace f fuel (read ++ [c]) rest
    | [] => none

/-- Reads a code point: the given number of hexadecimal digits, or any number of them in braces. -/
def codePoint (f : Flags) (digits : Nat) (cs : List Char) : Option (Item × List Char) := do
  match f.skip cs with
  | '\x7b' :: rest =>
    let (read, rest) ← toBrace f (rest.length + 1) [] rest
    if read.isEmpty || !read.all isHexDigit then none
    else return (.literal (← character? (Unicode.hexValue read)) false, rest)
  | rest =>
    let (read, rest) ← hexDigits f digits [] rest
    return (.literal (← character? (Unicode.hexValue read)) (digits == 2), rest)

/-- The first place of a word in a text: what precedes and what follows it. -/
def cut? (word : List Char) : List Char → Option (List Char × List Char)
  | [] => none
  | c :: rest =>
    if word.isPrefixOf (c :: rest) then some ([], (c :: rest).drop word.length)
    else (cut? word rest).map fun e => (c :: e.1, e.2)

/-- The set of a property as it is written between braces; the flag is set where it is negated. -/
def propertyText? (text : List Char) : Option (Ranges × Bool) :=
  match cut? ['!', '='] text with
  | some (name, value) => (Unicode.valued? name value).map (·, true)
  | none =>
    match (cut? [':'] text).or (cut? ['='] text) with
    | some (name, value) => (Unicode.valued? name value).map (·, false)
    | none => (Unicode.named? text).map (·, false)

/-- Reads a property, by one letter or between braces. -/
def property (f : Flags) (negated : Bool) (cs : List Char) : Option (Item × List Char) := do
  match f.skip cs with
  | '\x7b' :: rest =>
    let (read, rest) ← toBrace f (rest.length + 1) [] rest
    let (set, inverted) ← propertyText? read
    return (.property set (negated != inverted), rest)
  | '\\' :: _ => none
  | c :: rest => return (.property (← Unicode.named? [c]) negated, rest)
  | [] => none

/-- The conditions written in braces after `\b`. -/
def boundaryNamed? (k : WordKind) : String → Option Look
  | "start" => some (.wordStart k)
  | "end" => some (.wordEnd k)
  | "start-half" => some (.wordStartHalf k)
  | "end-half" => some (.wordEndHalf k)
  | _ => none

/-- Reads what may follow `\b`. Braces that do not start with a letter or a hyphen are left to
repetitions. -/
def boundary (f : Flags) (cs : List Char) : Option (Item × List Char) :=
  let plain : Item := .look (.boundary f.words)
  match cs with
  | '\x7b' :: rest =>
    match f.skip rest with
    | [] => none
    | c :: _ =>
      if !(c.isAlpha || c == '-') then some (plain, cs)
      else match toBrace f (rest.length + 1) [] rest with
        | none => none
        | some (read, rest) =>
          (boundaryNamed? f.words (String.ofList read)).map fun l => (.look l, rest)
  | cs => some (plain, cs)

def control? : Char → Option Nat
  | 'a' => some 0x07
  | 'f' => some 0x0C
  | 't' => some 0x09
  | 'n' => some 0x0A
  | 'r' => some 0x0D
  | 'v' => some 0x0B
  | _ => none

def escapedLook? (f : Flags) : Char → Option Look
  | 'A' => some .textStart
  | 'z' => some .textEnd
  | 'B' => some (.noBoundary f.words)
  | '<' => some (.wordStart f.words)
  | '>' => some (.wordEnd f.words)
  | _ => none

def escape (f : Flags) : List Char → Option (Item × List Char)
  | [] => none
  | 'x' :: rest => codePoint f 2 rest
  | 'u' :: rest => codePoint f 4 rest
  | 'U' :: rest => codePoint f 8 rest
  | 'p' :: rest => property f false rest
  | 'P' :: rest => property f true rest
  | 'b' :: rest => boundary f rest
  | c :: rest =>
    match Letter.ofChar? c, Letter.ofChar? c.toLower with
    | some l, _ => some (.letter l false, rest)
    | none, some l => some (.letter l true, rest)
    | none, none =>
      if isEscapable c then some (.literal c.toNat false, rest)
      else match control? c, escapedLook? f c with
        | some n, _ => some (.literal n false, rest)
        | none, some l => some (.look l, rest)
        | none, none => none

/-- The item of a character outside of brackets that is no operator. -/
def plainItem (f : Flags) (c : Char) : Item :=
  match c with
  | '.' => .dot
  | '^' => .look (if f.multiLine then if f.crlf then .crlfStart else .lineStart else .textStart)
  | '$' => .look (if f.multiLine then if f.crlf then .crlfEnd else .lineEnd else .textEnd)
  | c => .literal c.toNat false

end HotReload.Pattern
