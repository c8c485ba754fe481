/-! # Identities of the running image

Code is known by address, modules by load order, class descriptors by registration order.
Each identity prints in one fixed form, which the messages and reports of the library use.
-/

namespace HotReload

/-- A code or data address of the image. -/
structure Address where
  value : Nat
deriving DecidableEq, Inhabited

namespace Address

def null : Address := ⟨0⟩

def isNull (a : Address) : Bool := a.value == 0

/-- Lowercase hexadecimal without leading zeros. -/
def text (a : Address) : String := "0x" ++ String.ofList (Nat.toDigits 16 a.value)

end Address

/-- A loaded module, numbered from one in load order. -/
structure ModuleId where
  number : Nat
deriving DecidableEq, Inhabited

def ModuleId.text (m : ModuleId) : String := "module#" ++ toString m.number

/-- A registered class descriptor, numbered from zero in registration order. -/
structure ClassId where
  index : Nat
deriving DecidableEq, Inhabited

def ClassId.text (c : ClassId) : String := "class#" ++ toString c.index

/-- An object of the managed image, numbered from one in creation order. -/
structure ObjectId where
  number : Nat
deriving DecidableEq, Inhabited

end HotReload
