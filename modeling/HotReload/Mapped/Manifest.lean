import HotReload.Failure
import HotReload.Symbol

/-! # Manifests of mapped modules

A mapped module describes itself in a manifest of raw records: names that may be null or hold
bytes that are no text, and lists that are a pointer and a count.
-/

namespace HotReload

/-- A zero-terminated byte string, or null. -/
structure RawName where
  bytes? : Option (List UInt8)
deriving DecidableEq, Inhabited

/-- The text of a name: the bytes up to the first zero, when they are text. -/
def RawName.text? (n : RawName) : Option String :=
  n.bytes?.bind fun bytes => Text.Utf8.decode? (bytes.takeWhile (· != 0))

/-- A list in the module's memory: a pointer that may be null, and a count. -/
structure RawList (α : Type) where
  items? : Option (List α) := none
  count : Nat := 0

namespace RawList

variable {α : Type}

def ofList (items : List α) : RawList α := ⟨some items, items.length⟩

def isNull (l : RawList α) : Bool := l.items?.isNone

def items (l : RawList α) : List α := ((l.items?).getD []).take l.count

end RawList

structure RawSymbol where
  name : RawName
  address : Address
  /-- Code of the symbol's kind. -/
  kind : Nat

/-- A call-site record: the called name and its cell, with the address that it holds, or null. -/
structure RawCallSite where
  name : RawName
  cell : Option Address

structure RawClass where
  name : RawName
  superclass : RawName := ⟨none⟩
  size : Nat := 16
  addressPoint : Nat := 0
  flags : Nat := 0
  slots : RawList Address := {}
  selectors : RawList (RawName × Address) := {}
  classSelectors : RawList (RawName × Address) := {}

namespace RawClass

def isGeneric (c : RawClass) : Bool := c.flags.testBit 0

def derivesFromGeneric (c : RawClass) : Bool := c.flags.testBit 1

def isTestCase (c : RawClass) : Bool := c.flags.testBit 2

end RawClass

structure Manifest where
  name : RawName
  symbols : RawList RawSymbol := {}
  callSites : RawList RawCallSite := {}
  classes : RawList RawClass := {}

end HotReload
