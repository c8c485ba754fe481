import HotReload.CodeImage

/-! # Snapshots of an image

A snapshot lists every call site and every class table of an image, so that two states of it can
be compared.
-/

namespace HotReload

structure ClassTables where
  name : String
  slots : Except Failure (List Address)
  selectors : Except Failure Selectors
  classSelectors : Except Failure Selectors

structure Snapshot where
  /-- Each module with its call sites for exported names. -/
  modules : List (ModuleId × List (String × Address))
  /-- The classes in registration order. -/
  classes : List (ClassId × ClassTables)

namespace Snapshot

variable {ι : Type} [CodeImage ι]

def classTables (image : ι) (c : ClassId) (info : ClassInfo) : ClassTables :=
  { name := info.name
    slots := CodeImage.slots image c
    selectors := CodeImage.selectors image c .onInstances
    classSelectors := CodeImage.selectors image c .onClass }

/-- The tables of the given classes, up to the first that the image says nothing about. -/
def readClasses (image : ι) : List ClassId → List (ClassId × ClassTables)
  | [] => []
  | c :: cs =>
    match CodeImage.info? image c with
    | none => []
    | some info => (c, classTables image c info) :: readClasses image cs

def take (image : ι) : Snapshot :=
  { modules := (CodeImage.modules image).map fun m => (m, CodeImage.callSites image m)
    classes := readClasses image
      ((List.range (CodeImage.classCount image)).map fun n => ⟨n⟩) }

end Snapshot

end HotReload
