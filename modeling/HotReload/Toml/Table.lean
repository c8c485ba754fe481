/-! # TOML tables

The value of a TOML document is a tree of tables. A table remembers how it came to be, because that
decides who may still add to it: nobody to an inline table, and dotted keys only to tables that
dotted keys made.
-/

namespace HotReload.Toml

/-- How a table came to be. -/
inductive Origin where
  /-- By a header of its own. -/
  | header
  /-- On the way to another header. -/
  | implied
  /-- On the way of a dotted key. -/
  | dotted
  /-- Inline; it is complete. -/
  | inline
deriving DecidableEq, Inhabited

inductive Item where
  | text (s : String)
  | bool (b : Bool)
  | integer (i : Int)
  /-- A number with a fraction or an exponent, an infinity or no number. -/
  | real
  /-- A date, a time, or both. -/
  | moment
  | array (items : List Item)
  | table (origin : Origin) (entries : List (String × Item))
  /-- The tables of repeated headers in double brackets. -/
  | tables (all : List (List (String × Item)))
deriving Inhabited

/-- The entries of a table; keys are distinct. -/
abbrev Entries := List (String × Item)

/-- A key as written: its parts, which were joined by dots. -/
abbrev Key := List String

namespace Entries

def replace (key : String) (i : Item) (t : Entries) : Entries :=
  t.map fun e => if e.1 = key then (key, i) else e

def changeLast (f : Entries → Option Entries) (ts : List Entries) : Option (List Entries) :=
  match ts.getLast? with
  | none => none
  | some t => (f t).map fun t => ts.dropLast ++ [t]

/-- Changes the table that a header's key leads to, which is made on the way if it is missing. Of
several tables under one key the last is meant. -/
def under (f : Entries → Option Entries) : Key → Entries → Option Entries
  | [], t => f t
  | k :: ks, t =>
    match t.lookup k with
    | none => (under f ks []).map fun inner => t ++ [(k, .table .implied inner)]
    | some (.table .inline _) => none
    | some (.table origin inner) =>
      (under f ks inner).map fun inner => t.replace k (.table origin inner)
    | some (.tables all) =>
      (changeLast (under f ks) all).map fun all => t.replace k (.tables all)
    | some _ => none

/-- Opens a table by its header. It must be new, or only implied so far. -/
def openTable (key : String) (t : Entries) : Option Entries :=
  match t.lookup key with
  | none => some (t ++ [(key, .table .header [])])
  | some (.table .implied inner) => some (t.replace key (.table .header inner))
  | some _ => none

/-- Opens one more table of several under one key. -/
def openNext (key : String) (t : Entries) : Option Entries :=
  match t.lookup key with
  | none => some (t ++ [(key, .tables [[]])])
  | some (.tables all) => some (t.replace key (.tables (all ++ [[]])))
  | some _ => none

/-- Assigns a value to a key, which must be new. A dotted key may go through tables that headers
have only implied, and through the last of several tables, but must not end in one of them. -/
def assign (last : String) (i : Item) : Key → Entries → Option Entries
  | [], t => if (t.lookup last).isSome then none else some (t ++ [(last, i)])
  | k :: ks, t =>
    match t.lookup k with
    | none => (assign last i ks []).map fun inner => t ++ [(k, .table .dotted inner)]
    | some (.table .dotted inner) =>
      (assign last i ks inner).map fun inner => t.replace k (.table .dotted inner)
    | some (.table .implied inner) =>
      if ks.isEmpty then none
      else (assign last i ks inner).map fun inner => t.replace k (.table .implied inner)
    | some (.tables all) =>
      if ks.isEmpty then none
      else (changeLast (assign last i ks) all).map fun all => t.replace k (.tables all)
    | some _ => none

def put (key : Key) (i : Item) (t : Entries) : Option Entries :=
  match key.getLast? with
  | none => none
  | some last => assign last i key.dropLast t

end Entries

end HotReload.Toml
