import HotReload.Sweep.View

/-! # Images with faults

A faulty image refuses chosen calls and passes every other call on. A fault names a call and,
optionally, arguments; without arguments it meets every call of its kind.
-/

namespace HotReload

/-- A call that fails, by the arguments it is limited to. -/
inductive Fault where
  | sequence (m : Option ModuleId)
  | symbolAt (m : Option ModuleId) (a : Option Address)
  | address (m : Option ModuleId) (name : Option String)
  | rebind (m : Option ModuleId)
  | info (c : Option ClassId)
  | slots (c : Option ClassId)
  | selectors (c : Option ClassId) (t : Option SelectorTable)
  | writeSlot (c : Option ClassId) (index : Option Nat)
  | replaceSelector (c : Option ClassId) (t : Option SelectorTable) (selector : Option String)
  | invokeClassMethod (c : Option ClassId)
  | observe
deriving DecidableEq, Inhabited

/-- An argument meets a limit that is absent or equal to it. -/
def Fault.meets {α : Type} [DecidableEq α] (limit : Option α) (a : α) : Bool :=
  limit.all (· == a)

structure Faulty (ι : Type) where
  base : ι
  faults : List Fault := []

namespace Faulty

variable {ι : Type}

open Fault (meets)

def failsSequence (i : Faulty ι) (m : ModuleId) : Bool :=
  i.faults.any fun | .sequence n => meets n m | _ => false

def failsSymbolAt (i : Faulty ι) (m : ModuleId) (a : Address) : Bool :=
  i.faults.any fun | .symbolAt n b => meets n m && meets b a | _ => false

def failsAddress (i : Faulty ι) (m : ModuleId) (name : String) : Bool :=
  i.faults.any fun | .address n s => meets n m && meets s name | _ => false

def failsRebind (i : Faulty ι) (m : ModuleId) : Bool :=
  i.faults.any fun | .rebind n => meets n m | _ => false

def failsInfo (i : Faulty ι) (c : ClassId) : Bool :=
  i.faults.any fun | .info d => meets d c | _ => false

def failsSlots (i : Faulty ι) (c : ClassId) : Bool :=
  i.faults.any fun | .slots d => meets d c | _ => false

def failsSelectors (i : Faulty ι) (c : ClassId) (t : SelectorTable) : Bool :=
  i.faults.any fun | .selectors d u => meets d c && meets u t | _ => false

def failsWriteSlot (i : Faulty ι) (c : ClassId) (index : Nat) : Bool :=
  i.faults.any fun | .writeSlot d n => meets d c && meets n index | _ => false

def failsReplace (i : Faulty ι) (c : ClassId) (t : SelectorTable) (selector : String) : Bool :=
  i.faults.any fun
    | .replaceSelector d u s => meets d c && meets u t && meets s selector
    | _ => false

def failsInvoke (i : Faulty ι) (c : ClassId) : Bool :=
  i.faults.any fun | .invokeClassMethod d => meets d c | _ => false

def failsObserve (i : Faulty ι) : Bool :=
  i.faults.any fun | .observe => true | _ => false

def around (i : Faulty ι) (base : ι) : Faulty ι := { i with base }

instance [CodeImage ι] : CodeImage (Faulty ι) where
  loadModule i path :=
    let (r, base) := CodeImage.loadModule i.base path
    (r, i.around base)
  modules i := CodeImage.modules i.base
  sequence? i m := if i.failsSequence m then none else CodeImage.sequence? i.base m
  exports i m := CodeImage.exports i.base m
  symbolAt? i m a := if i.failsSymbolAt m a then none else CodeImage.symbolAt? i.base m a
  address? i m name := if i.failsAddress m name then none else CodeImage.address? i.base m name
  callSite? i m name := CodeImage.callSite? i.base m name
  rebind i m rs :=
    if i.failsRebind m then ([], i)
    else
      let (names, base) := CodeImage.rebind i.base m rs
      (names, i.around base)
  classesIn i m := CodeImage.classesIn i.base m
  classesNamed i name := CodeImage.classesNamed i.base name
  classCount i := CodeImage.classCount i.base
  info? i c := if i.failsInfo c then none else CodeImage.info? i.base c
  slots i c := if i.failsSlots c then .error (.unknownClass c) else CodeImage.slots i.base c
  writeSlot i c index a :=
    if i.failsWriteSlot c index then .error (.slotOutOfBounds c index 0)
    else (CodeImage.writeSlot i.base c index a).map i.around
  selectors i c t :=
    if i.failsSelectors c t then .error (.unknownClass c) else CodeImage.selectors i.base c t
  replaceSelector i c t selector a :=
    if i.failsReplace c t selector then .error (.unknownSelector c t selector)
    else (CodeImage.replaceSelector i.base c t selector a).map i.around
  observe i r :=
    if i.failsObserve then .error .imageReleased else (CodeImage.observe i.base r).map i.around

/-- The world around the image without its faults. -/
def inside (w : World (Faulty ι)) : World ι := w.withImage w.image.base

def run {α : Type} (w : World (Faulty ι)) (f : World ι → α × World ι) : α × World (Faulty ι) :=
  let (a, v) := f (inside w)
  (a, v.withImage (w.image.around v.image))

/-- Objects belong to the image without its faults. -/
def view (v : ObjectView ι) : ObjectView (Faulty ι) where
  className w := v.className (inside w)
  introspects w := v.introspects (inside w)
  chain w := v.chain (inside w)
  declared w := v.declared (inside w)
  notify w o hook := run w fun w => v.notify w o hook

instance [Host ι] : Host (Faulty ι) where
  invokeClassMethod w c selector :=
    if w.image.failsInvoke c then (.error .imageReleased, w)
    else run w fun w => Host.invokeClassMethod w c selector
  objects := view Host.objects

end Faulty

end HotReload
