import HotReload.CodeImage

/-! # Finding the symbol at an address

Patching asks for the symbol behind every slot. The answers are kept, also negative ones, which
are dropped when a module is loaded that may define the address.
-/

namespace HotReload

structure SymbolCache where
  /-- Answers by address, the latest first; addresses are distinct. -/
  answers : List (Address × Option Symbol) := []
  hits : Nat := 0
  misses : Nat := 0
deriving DecidableEq, Inhabited

namespace SymbolCache

variable {ι : Type} [CodeImage ι]

/-- The search that the cache saves: the given module first, then the others from the most recently
loaded backwards. -/
def search (image : ι) (a : Address) (scope : Option ModuleId) : Option Symbol :=
  (scope.bind fun m => CodeImage.symbolAt? image m a).or
    (((CodeImage.modules image).reverse.filter fun m => some m != scope).findSome? fun m =>
      CodeImage.symbolAt? image m a)

/-- The symbol at an address, if any, and the cache that knows it. Null has no symbol. -/
def resolve (cache : SymbolCache) (image : ι) (a : Address) (scope : Option ModuleId) :
    Option Symbol × SymbolCache :=
  if a.isNull then (none, cache)
  else match cache.answers.lookup a with
    | some answer => (answer, { cache with hits := cache.hits + 1 })
    | none =>
      let found := search image a scope
      (found, { cache with
        answers := (a, found) :: cache.answers
        misses := cache.misses + 1 })

/-- Forgets the negative answers. -/
def moduleLoaded (cache : SymbolCache) : SymbolCache :=
  { cache with answers := cache.answers.filter (·.2.isSome) }

def size (cache : SymbolCache) : Nat := cache.answers.length

end SymbolCache

end HotReload
