import HotReload.CodeImage

/-! # Recorded specializations

Reloading a generic type produces a new definition only; the specializations in use are never
redefined. They are recorded as they are allocated, under the base of their name, so that a reload
of the definition can patch each of them in place.
-/

namespace HotReload

/-- Specializations by base name, each list in order of allocation and without duplicates. -/
structure Specializations where
  byBase : List (String × List ClassId) := []
deriving DecidableEq, Inhabited

namespace Specializations

def under (s : Specializations) (base : String) : List ClassId := (s.byBase.lookup base).getD []

def baseCount (s : Specializations) : Nat := s.byBase.length

/-- Adds a descriptor to a list that does not hold it. -/
def addOnce (c : ClassId) (cs : List ClassId) : List ClassId :=
  if c ∈ cs then cs else cs ++ [c]

def add (base : String) (c : ClassId) : List (String × List ClassId) → List (String × List ClassId)
  | [] => [(base, [c])]
  | e :: es => if e.1 = base then (e.1, addOnce c e.2) :: es else e :: add base c es

/-- Records a descriptor allocated under a full type name. -/
def record (s : Specializations) (c : ClassId) (name : String) : Specializations :=
  ⟨add (TypeName.base name) c s.byBase⟩

end Specializations

end HotReload
