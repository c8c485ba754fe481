import HotReload.Text.Basic
import HotReload.Unicode.Category
import HotReload.Unicode.Property

/-! # Quoted text

Text in messages stands between double quotes. Quotes, backslashes and the common control
characters get short escapes; marks that would combine with the character before them and
characters that do not print are written by code point.
-/

namespace HotReload.Text

/-- Categories whose characters do not print: controls, formats, surrogates, private use,
unassigned and separators. -/
def unprintable : Unicode.Ranges :=
  ["Cc", "Cf", "Cs", "Co", "Cn", "Zl", "Zp", "Zs"].flatMap fun code =>
    (Unicode.category? code).getD []

def extending : Unicode.Ranges := (Unicode.property? "Gr_Ext").getD []

def prints (c : Char) : Bool :=
  c == ' ' || !(unprintable.contains c.toNat || extending.contains c.toNat)

def hexText (n : Nat) : String := String.ofList (Nat.toDigits 16 n)

/-- One character as it stands between quotes. A single quote is escaped on request only. -/
def quoteChar (single : Bool) (c : Char) : String :=
  match c with
  | '\x00' => "\\0"
  | '\t' => "\\t"
  | '\n' => "\\n"
  | '\r' => "\\r"
  | '"' => "\\\""
  | '\\' => "\\\\"
  | '\'' => if single then "\\'" else "'"
  | c =>
    if 0x20 ≤ c.toNat ∧ c.toNat < 0x7F then c.toString
    else if prints c then c.toString
    else "\\u\x7b" ++ hexText c.toNat ++ "\x7d"

def quote (s : String) : String :=
  "\"" ++ String.join (s.toList.map (quoteChar false)) ++ "\""

def byteText (b : UInt8) : String :=
  let digit (n : Nat) : Char := (Nat.digitChar n).toUpper
  String.ofList [digit (b.toNat / 16), digit (b.toNat % 16)]

/-- Bytes between double quotes: characters as in text, single quotes escaped too, and bytes that
are no character by value. -/
def quoteBytes (bytes : List UInt8) : String :=
  let piece : Utf8.Piece → String
    | .char c => quoteChar true c
    | .broken run => String.join (run.map fun b => "\\x" ++ byteText b)
  "\"" ++ String.join ((Utf8.pieces bytes).map piece) ++ "\""

end HotReload.Text
