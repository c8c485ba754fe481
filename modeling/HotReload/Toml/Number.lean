import HotReload.Toml.Table
import HotReload.Toml.Text

/-! # TOML numbers, dates and times

Numbers may have underscores between digits. Integers are of 64 bits; a number with a fraction or an
exponent must not round to infinity. Dates and times must exist in the calendar.
-/

namespace HotReload.Toml

/-- Reads what follows a digit: more digits, each behind an underscore or not. -/
def moreDigits (isDigit : Char → Bool) : List Char → Option (List Char × List Char)
  | '_' :: c :: rest =>
    if isDigit c then (moreDigits isDigit rest).map fun e => (c :: e.1, e.2) else none
  | '_' :: [] => none
  | c :: rest =>
    if isDigit c then (moreDigits isDigit rest).map fun e => (c :: e.1, e.2)
    else some ([], c :: rest)
  | [] => some ([], [])

def digits (isDigit : Char → Bool) : List Char → Option (List Char × List Char)
  | c :: rest =>
    if isDigit c then (moreDigits isDigit rest).map fun e => (c :: e.1, e.2) else none
  | [] => none

/-- Reads the digits before a point: a single zero, or digits of which the first is no zero. -/
def wholeDigits : List Char → Option (List Char × List Char)
  | '0' :: rest => some (['0'], rest)
  | cs => digits Char.isDigit cs

def valueOf (base : Nat) (ds : List Char) : Nat :=
  ds.foldl (fun n c => n * base + Unicode.hexDigit c) 0

def digitCount (n : Nat) : Nat := if n = 0 then 0 else (Nat.toDigits 10 n).length

/-- The least number that rounds to infinity. -/
def overflowBound : Nat := Nat.pow 2 1024 - Nat.pow 2 970

/-- `mantissa * 10 ^ exponent` rounds to infinity. -/
def overflows (mantissa : Nat) (exponent : Int) : Bool :=
  let magnitude : Int := digitCount mantissa + exponent
  if mantissa = 0 ∨ magnitude < 309 then false
  else if magnitude > 309 then true
  else if 0 ≤ exponent then overflowBound ≤ mantissa * Nat.pow 10 exponent.toNat
  else overflowBound * Nat.pow 10 (-exponent).toNat ≤ mantissa

def exponent (cs : List Char) : Option (Int × List Char) :=
  let signed (cs : List Char) (sign : Int) : Option (Int × List Char) :=
    (digits Char.isDigit cs).map fun e => (sign * (valueOf 10 e.1 : Int), e.2)
  match cs with
  | [] => some (0, [])
  | c :: rest =>
    if c = 'e' ∨ c = 'E' then
      match rest with
      | '+' :: rest => signed rest 1
      | '-' :: rest => signed rest (-1)
      | rest => signed rest 1
    else some (0, c :: rest)

/-- Reads what may follow the digits before a point, a fraction and an exponent. A negative number
is allowed to be of any size. -/
def realRest (negative : Bool) (whole cs : List Char) : Option (Item × List Char) := do
  let (fraction, cs) ← match cs with
    | '.' :: rest => digits Char.isDigit rest
    | cs => some ([], cs)
  let (e, cs) ← exponent cs
  if !negative && overflows (valueOf 10 (whole ++ fraction)) (e - fraction.length) then none
  else return (.real, cs)

def integer? (i : Int) : Option Item :=
  if -0x8000000000000000 ≤ i ∧ i ≤ 0x7FFFFFFFFFFFFFFF then some (.integer i) else none

/-- Reads an integer in another base, from behind its mark. -/
def based (base : Nat) (isDigit : Char → Bool) (cs : List Char) : Option (Item × List Char) := do
  let (ds, rest) ← digits isDigit cs
  return (← integer? (valueOf base ds), rest)

def decimal (negative : Bool) (cs : List Char) : Option (Item × List Char) :=
  match cs with
  | 'i' :: 'n' :: 'f' :: rest => some (.real, rest)
  | 'n' :: 'a' :: 'n' :: rest => some (.real, rest)
  | cs => do
    let (whole, rest) ← wholeDigits cs
    match rest with
    | '.' :: _ | 'e' :: _ | 'E' :: _ => realRest negative whole rest
    | rest =>
      let n : Int := valueOf 10 whole
      return (← integer? (if negative then -n else n), rest)

def number (cs : List Char) : Option (Item × List Char) :=
  match cs with
  | '0' :: 'x' :: rest => based 16 isHex rest
  | '0' :: 'o' :: rest => based 8 (fun c => '0' ≤ c && c ≤ '7') rest
  | '0' :: 'b' :: rest => based 2 (fun c => c == '0' || c == '1') rest
  | '+' :: rest => decimal false rest
  | '-' :: rest => decimal true rest
  | cs => decimal false cs

def twoDigits (least most : Nat) : List Char → Option (Nat × List Char)
  | a :: b :: rest =>
    let n := valueOf 10 [a, b]
    if a.isDigit && b.isDigit && least ≤ n && n ≤ most then some (n, rest) else none
  | _ => none

def drop? (c : Char) : List Char → Option (List Char)
  | d :: rest => if d = c then some rest else none
  | [] => none

/-- Drops a time; a second may be a leap second. -/
def time? (cs : List Char) : Option (List Char) := do
  let (_, cs) ← twoDigits 0 23 cs
  let (_, cs) ← twoDigits 0 59 (← drop? ':' cs)
  let (_, cs) ← twoDigits 0 60 (← drop? ':' cs)
  match cs with
  | '.' :: c :: rest => if c.isDigit then some (rest.dropWhile Char.isDigit) else some cs
  | cs => some cs

/-- Drops a distance from universal time, if there is one. -/
def offset? (cs : List Char) : Option (List Char) :=
  match cs with
  | [] => some []
  | c :: rest =>
    if c = 'Z' ∨ c = 'z' then some rest
    else if c = '+' ∨ c = '-' then do
      let (_, cs) ← twoDigits 0 23 rest
      let (_, cs) ← twoDigits 0 59 (← drop? ':' cs)
      return cs
    else some cs

def isLeapYear (y : Nat) : Bool := y % 4 == 0 && (y % 100 != 0 || y % 400 == 0)

def daysIn (year month : Nat) : Nat :=
  if month = 2 then (if isLeapYear year then 29 else 28)
  else if month ∈ [4, 6, 9, 11] then 30
  else 31

/-- Drops the rest of a date, from behind its year and a hyphen, with the time that may follow. -/
def dateRest? (year : Nat) (cs : List Char) : Option (List Char) := do
  let (month, cs) ← twoDigits 1 12 cs
  let (day, cs) ← twoDigits 1 31 (← drop? '-' cs)
  if daysIn year month < day then none
  else match cs with
    | c :: rest =>
      if c = 'T' ∨ c = 't' ∨ c = ' ' then
        match time? rest with
        | some after => offset? after
        | none => some cs
      else some cs
    | [] => some []

def numeric (cs : List Char) : Option (Item × List Char) :=
  match cs with
  | a :: b :: c :: d :: '-' :: rest =>
    if [a, b, c, d].all Char.isDigit then
      (dateRest? (valueOf 10 [a, b, c, d]) rest).map fun rest => (.moment, rest)
    else number cs
  | a :: b :: ':' :: _ =>
    if a.isDigit && b.isDigit then (time? cs).map fun rest => (.moment, rest) else number cs
  | cs => number cs

end HotReload.Toml
