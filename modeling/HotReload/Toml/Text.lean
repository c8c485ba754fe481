import HotReload.Unicode.Ranges

/-! # TOML text

Strings are basic, with escapes, or literal; either may run over several lines between triple
quotes. Control characters stand in no string and no comment, tabs and line ends apart.
-/

namespace HotReload.Toml

/-- Reads the start of a text, and gives what follows; nothing when the text is malformed. -/
abbrev Reader (α : Type) := List Char → Option (α × List Char)

def isPlain (c : Char) : Bool := c == '\t' || (0x20 ≤ c.toNat && c.toNat != 0x7F)

def isBlank (c : Char) : Bool := c == ' ' || c == '\t'

def skipBlanks (cs : List Char) : List Char := cs.dropWhile isBlank

/-- The text after a line end, if it starts with one. -/
def lineEnd? : List Char → Option (List Char)
  | '\n' :: rest => some rest
  | '\r' :: '\n' :: rest => some rest
  | _ => none

def escaped? : Char → Option Char
  | 'b' => some '\x08'
  | 't' => some '\t'
  | 'n' => some '\n'
  | 'f' => some '\x0c'
  | 'r' => some '\r'
  | '"' => some '"'
  | '\\' => some '\\'
  | _ => none

def isHex (c : Char) : Bool :=
  c.isDigit || ('a' ≤ c && c ≤ 'f') || ('A' ≤ c && c ≤ 'F')

def codePoint? (digits : List Char) : Option Char :=
  let n := Unicode.hexValue digits
  if digits.all isHex && decide n.isValidChar then some (Char.ofNat n) else none

def consChar (c : Char) (r : Option (List Char × List Char)) : Option (List Char × List Char) :=
  r.map fun e => (c :: e.1, e.2)

/-- Reads a basic string, from behind its quote. -/
def basicBody : Reader (List Char)
  | '"' :: rest => some ([], rest)
  | '\\' :: 'u' :: a :: b :: c :: d :: rest =>
    (codePoint? [a, b, c, d]).bind fun ch => consChar ch (basicBody rest)
  | '\\' :: 'U' :: a :: b :: c :: d :: e :: f :: g :: h :: rest =>
    (codePoint? [a, b, c, d, e, f, g, h]).bind fun ch => consChar ch (basicBody rest)
  | '\\' :: c :: rest => (escaped? c).bind fun ch => consChar ch (basicBody rest)
  | c :: rest => if isPlain c then consChar c (basicBody rest) else none
  | [] => none

def literalBody (cs : List Char) : Option (List Char × List Char) :=
  match cs.span fun c => isPlain c && c != '\'' with
  | (body, '\'' :: rest) => some (body, rest)
  | _ => none

def endsLine (cs : List Char) : Bool := (lineEnd? (skipBlanks cs)).isSome

/-- Reads a basic string over several lines. After a backslash at the end of a line, blanks and line
ends are dropped up to the next other character. Up to two quotes may stand before the closing
three. -/
def longBasicBody : Bool → List Char → Option (List Char × List Char)
  | _, '"' :: '"' :: '"' :: '"' :: '"' :: rest => some (['"', '"'], rest)
  | _, '"' :: '"' :: '"' :: '"' :: rest => some (['"'], rest)
  | _, '"' :: '"' :: '"' :: rest => some ([], rest)
  | dropping, '\r' :: '\n' :: rest =>
    if dropping then longBasicBody true rest else consChar '\n' (longBasicBody false rest)
  | _, '\\' :: 'u' :: a :: b :: c :: d :: rest =>
    (codePoint? [a, b, c, d]).bind fun ch => consChar ch (longBasicBody false rest)
  | _, '\\' :: 'U' :: a :: b :: c :: d :: e :: f :: g :: h :: rest =>
    (codePoint? [a, b, c, d, e, f, g, h]).bind fun ch => consChar ch (longBasicBody false rest)
  | _, '\\' :: c :: rest =>
    match escaped? c with
    | some ch => consChar ch (longBasicBody false rest)
    | none => if endsLine (c :: rest) then longBasicBody true rest else none
  | dropping, c :: rest =>
    if dropping && (isBlank c || c == '\n') then longBasicBody true rest
    else if c == '\n' || isPlain c then consChar c (longBasicBody false rest)
    else none
  | _, [] => none

def longLiteralBody : Reader (List Char)
  | '\'' :: '\'' :: '\'' :: '\'' :: '\'' :: rest => some (['\'', '\''], rest)
  | '\'' :: '\'' :: '\'' :: '\'' :: rest => some (['\''], rest)
  | '\'' :: '\'' :: '\'' :: rest => some ([], rest)
  | '\r' :: '\n' :: rest => consChar '\n' (longLiteralBody rest)
  | c :: rest => if c == '\n' || isPlain c then consChar c (longLiteralBody rest) else none
  | [] => none

def dropFirstLineEnd (cs : List Char) : List Char := (lineEnd? cs).getD cs

/-- Reads a string of any of the four kinds, if the text starts with a quote. -/
def text? (cs : List Char) : Option (Option (List Char × List Char)) :=
  match cs with
  | '"' :: '"' :: '"' :: rest => some (longBasicBody false (dropFirstLineEnd rest))
  | '"' :: rest => some (basicBody rest)
  | '\'' :: '\'' :: '\'' :: rest => some (longLiteralBody (dropFirstLineEnd rest))
  | '\'' :: rest => some (literalBody rest)
  | _ => none

end HotReload.Toml
