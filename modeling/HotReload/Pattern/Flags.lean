import HotReload.Pattern.Expr
import HotReload.Text.Basic
import HotReload.Unicode.Folding
import HotReload.Unicode.Names

/-! # Flags of a pattern

Flags change how what follows them is read, up to the end of the group in which they stand.
-/

namespace HotReload.Pattern

structure Flags where
  ignoreCase : Bool := false
  /-- Anchors hold at lines, not only at the ends of the text. -/
  multiLine : Bool := false
  /-- The dot stands for line ends too. -/
  dotAll : Bool := false
  /-- Repetitions are lazy unless marked. This changes no answer of a search. -/
  swapGreed : Bool := false
  /-- Classes go beyond ASCII. -/
  unicode : Bool := true
  /-- Lines end by carriage returns too. -/
  crlf : Bool := false
  /-- Blanks and comments do not count. -/
  verbose : Bool := false
deriving DecidableEq, Inhabited

namespace Flags

def set? (f : Flags) (letter : Char) (b : Bool) : Option Flags :=
  match letter with
  | 'i' => some { f with ignoreCase := b }
  | 'm' => some { f with multiLine := b }
  | 's' => some { f with dotAll := b }
  | 'U' => some { f with swapGreed := b }
  | 'u' => some { f with unicode := b }
  | 'R' => some { f with crlf := b }
  | 'x' => some { f with verbose := b }
  | _ => none

def words (f : Flags) : WordKind := if f.unicode then .unicode else .ascii

end Flags

/-- The text after blanks and comments, which run to the end of their line. -/
def skipBlank : Bool → List Char → List Char
  | _, [] => []
  | true, c :: rest => skipBlank (c != '\n') rest
  | false, c :: rest =>
    if Text.isBlank c then skipBlank false rest
    else if c = '#' then skipBlank true rest
    else c :: rest

/-- The text that counts. -/
def Flags.skip (f : Flags) (cs : List Char) : List Char :=
  if f.verbose then skipBlank false cs else cs

end HotReload.Pattern
