import HotReload.Proofs.Linking

/-! # Resolving addresses

In a linked image there is at most one symbol at an address, so the answer to a search does not
depend on where it starts, and an answer that was kept stays right while modules are added.
-/

namespace HotReload

namespace ManagedImage

def symbol? (image : ManagedImage) (a : Address) : Option Symbol :=
  image.symbols.find? (·.address == a)

variable {image : ManagedImage}

theorem functionAt?_symbol (image : ManagedImage) (a : Address) :
    (image.functionAt? a).map (·.symbol) = image.symbol? a := by
  simp only [functionAt?, symbol?, symbols, List.map_findSome?, List.find?_flatMap]
  congr 1
  funext k
  change (k.function? a).map (·.symbol) = k.exports.find? (·.address == a)
  rw [LinkedModule.function?, LinkedModule.exports, List.find?_map]
  rfl

theorem address_of_symbol? {a : Address} {s : Symbol} (h : image.symbol? a = some s) :
    s.address = a := by
  unfold symbol? at h
  simpa using List.find?_some h

theorem mem_of_symbol? {a : Address} {s : Symbol} (h : image.symbol? a = some s) :
    s ∈ image.symbols := List.mem_of_find?_eq_some h

theorem Linked.symbol?_of_mem (h : image.Linked) {s : Symbol} (hs : s ∈ image.symbols) :
    image.symbol? s.address = some s := by
  have hp := h.increasing
  unfold symbol?
  generalize image.symbols = symbols at hp hs
  induction symbols with
  | nil => exact absurd hs List.not_mem_nil
  | cons r rest ih =>
    obtain ⟨hr, hrest⟩ := List.pairwise_cons.1 hp
    rcases List.mem_cons.1 hs with rfl | hs
    · simp
    · have hne : r.address ≠ s.address := by
        intro e
        have hlt := hr s hs
        rw [e] at hlt
        exact Nat.lt_irrefl _ hlt
      rw [List.find?_cons_of_neg (by simpa using hne)]
      exact ih hrest hs

theorem Linked.symbol?_null (h : image.Linked) : image.symbol? .null = none := by
  refine List.find?_eq_none.2 fun s hs => ?_
  have hpos := (h.placed s hs).1
  intro e
  rw [eq_of_beq e] at hpos
  exact Nat.lt_irrefl 0 hpos

theorem Linked.module_mem (h : image.Linked) {s : Symbol} (hs : s ∈ image.symbols) :
    s.module ∈ image.moduleIds := by
  obtain ⟨m, k, hk, hs⟩ := mem_symbols.1 hs
  obtain ⟨hpos, hle⟩ := number_of_module? hk
  rw [h.owned hk s hs]
  exact List.mem_map.2 ⟨m.number - 1, List.mem_range.2 (by omega), by
    rw [Nat.sub_add_cancel hpos]⟩

theorem findSome?_module {s : Symbol} {ms : List ModuleId} (h : s.module ∈ ms) :
    (ms.findSome? fun m => Option.filter (·.module == m) (some s)) = some s := by
  induction ms with
  | nil => exact absurd h List.not_mem_nil
  | cons m ms ih =>
    by_cases hm : s.module = m
    · simp [Option.filter, hm]
    · have hrest := (List.mem_cons.1 h).resolve_left hm
      simpa [Option.filter, hm] using ih hrest

theorem Linked.module_le (h : image.Linked) {s : Symbol} (hs : s ∈ image.symbols) :
    s.module.number ≤ image.modules.length := by
  obtain ⟨m, k, hk, hs⟩ := mem_symbols.1 hs
  rw [h.owned hk s hs]
  exact (number_of_module? hk).2

/-- A search finds the symbol at the address, whatever module it starts with. -/
theorem Linked.search_eq (h : image.Linked) (a : Address) (scope : Option ModuleId) :
    SymbolCache.search image a scope = image.symbol? a := by
  have hsymbol (m : ModuleId) : CodeImage.symbolAt? image m a =
      (image.symbol? a).filter (·.module == m) := by
    rw [← functionAt?_symbol]
    rfl
  simp only [SymbolCache.search, hsymbol]
  cases hs : image.symbol? a with
  | none => cases scope <;> simp
  | some s =>
    have hmodule := h.module_mem (mem_of_symbol? hs)
    by_cases hscope : scope = some s.module
    · simp [hscope, Option.filter]
    · have hfirst : (scope.bind fun m => Option.filter (·.module == m) (some s)) = none := by
        cases scope with
        | none => rfl
        | some m =>
          have hne : s.module ≠ m := fun e => hscope (congrArg some e.symm)
          simp [Option.filter, hne]
      have hmem : s.module ∈ image.moduleIds.reverse.filter fun m => some m != scope := by
        rw [List.mem_filter, List.mem_reverse]
        exact ⟨hmodule, by simpa using Ne.symm hscope⟩
      rw [hfirst, Option.none_or]
      exact findSome?_module hmem

end ManagedImage

namespace SymbolCache

/-- Every answer that is kept is right. -/
def Sound (cache : SymbolCache) (image : ManagedImage) : Prop :=
  ∀ e ∈ cache.answers, e.2 = image.symbol? e.1

theorem sound_empty (image : ManagedImage) : Sound {} image :=
  fun _ he => absurd he List.not_mem_nil

variable {cache : SymbolCache} {image : ManagedImage}

theorem Sound.of_symbols (h : cache.Sound image) {after : ManagedImage}
    (hs : after.symbols = image.symbols) : cache.Sound after := by
  intro e he
  rw [h e he, ManagedImage.symbol?, ManagedImage.symbol?, hs]

theorem Sound.moduleLoaded (h : cache.Sound image) {after : ManagedImage} {more : List Symbol}
    (hs : after.symbols = image.symbols ++ more) : cache.moduleLoaded.Sound after := by
  intro e he
  obtain ⟨he, hsome⟩ := List.mem_filter.1 he
  obtain ⟨s, hs'⟩ := Option.isSome_iff_exists.1 hsome
  have hfound := h e he
  rw [hs'] at hfound
  rw [hs', ManagedImage.symbol?, hs, List.find?_append]
  rw [ManagedImage.symbol?] at hfound
  rw [← hfound]
  rfl

theorem Sound.resolve (h : cache.Sound image) (hl : image.Linked) (a : Address)
    (scope : Option ModuleId) :
    (cache.resolve image a scope).1 = image.symbol? a ∧
      (cache.resolve image a scope).2.Sound image := by
  unfold SymbolCache.resolve
  split
  · rename_i hnull
    have ha : a = .null := by
      cases a
      simpa [Address.isNull, Address.null] using hnull
    rw [ha, hl.symbol?_null]
    exact ⟨rfl, h⟩
  · split
    · rename_i answer hanswer
      exact ⟨h (a, answer) (mem_of_lookup hanswer), h⟩
    · rw [hl.search_eq]
      refine ⟨rfl, fun e he => ?_⟩
      rcases List.mem_cons.1 he with rfl | he
      · rfl
      · exact h e he

end SymbolCache

section Answers

/-- Whatever it is asked about the image, the cache answers by the function. -/
def SymbolCache.AnswersAs (cache : SymbolCache) (image : ManagedImage)
    (f : Address → Option Symbol) : Prop :=
  ∀ a scope, (cache.resolve image a scope).1 = f a

theorem SymbolCache.resolve_eq (cache : SymbolCache) (image : ManagedImage) (a : Address)
    (scope : Option ModuleId) : (cache.resolve image a scope).1 =
      if a.isNull then none else (cache.answers.lookup a).getD (search image a scope) := by
  unfold resolve
  split
  · rfl
  · cases cache.answers.lookup a <;> rfl

variable {cache : SymbolCache} {image after : ManagedImage} {f : Address → Option Symbol}

/-- Questions do not change the answers. -/
theorem SymbolCache.AnswersAs.resolve (h : cache.AnswersAs image f) (a : Address)
    (scope : Option ModuleId) : (cache.resolve image a scope).2.AnswersAs image f := by
  intro b other
  have hb := h b other
  rw [resolve_eq] at hb ⊢
  by_cases hnull : b.isNull = true
  · simpa [hnull] using hb
  · simp only [hnull, Bool.false_eq_true, if_false] at hb ⊢
    rw [← hb]
    unfold SymbolCache.resolve
    split
    · rfl
    · rename_i ha
      cases hmiss : cache.answers.lookup a with
      | some answer => rfl
      | none =>
        simp only [List.lookup_cons]
        by_cases hab : b = a
        · subst hab
          have hfound := h b scope
          rw [resolve_eq, hmiss] at hfound
          simp only [hnull, Bool.false_eq_true, if_false, Option.getD_none] at hfound
          rw [hmiss, Option.getD_none] at hb
          simp [hmiss, hfound, hb]
        · rw [beq_false_of_ne hab]

/-- In a linked image the answer does not depend on where the search starts. -/
theorem ManagedImage.Linked.answersAs (h : image.Linked) (cache : SymbolCache) :
    cache.AnswersAs image fun a => (cache.resolve image a none).1 := by
  intro a scope
  simp only [SymbolCache.resolve_eq, h.search_eq]

theorem SymbolCache.resolve_of_modules (h : after.modules = image.modules) (cache : SymbolCache)
    (a : Address) (scope : Option ModuleId) :
    cache.resolve after a scope = cache.resolve image a scope := by
  simp only [SymbolCache.resolve, SymbolCache.search, CodeImage.symbolAt?, CodeImage.modules,
    ManagedImage.functionAt?, ManagedImage.moduleIds, h]

theorem ManagedImage.Confined.resolve {D : ClassId → Prop} (h : Confined D image after)
    (cache : SymbolCache) (a : Address) (scope : Option ModuleId) :
    cache.resolve after a scope = cache.resolve image a scope :=
  SymbolCache.resolve_of_modules h.modules cache a scope

/-- An image with the modules of a base image, and a cache that answers for it by the function. -/
structure Answering (base : ManagedImage) (f : Address → Option Symbol) (image : ManagedImage)
    (cache : SymbolCache) : Prop where
  answers : cache.AnswersAs base f
  modules : image.modules = base.modules

namespace Answering

variable {base : ManagedImage}

theorem address? (h : Answering base f image cache) (m : ModuleId) (name : String) :
    CodeImage.address? image m name = CodeImage.address? base m name := by
  simp only [CodeImage.address?, ManagedImage.module?, h.modules]

theorem confined (h : Answering base f image cache) {D : ClassId → Prop}
    (hc : image.Confined D after) : Answering base f after cache :=
  ⟨h.answers, hc.modules.trans h.modules⟩

theorem resolve (h : Answering base f image cache) (a : Address) (scope : Option ModuleId) :
    (cache.resolve image a scope).1 = f a ∧
      Answering base f image (cache.resolve image a scope).2 := by
  rw [SymbolCache.resolve_of_modules h.modules]
  exact ⟨h.answers a scope, h.answers.resolve a scope, h.modules⟩

end Answering

end Answers

/-- A linked image with the modules of a base image, and a cache that answers rightly for it. -/
structure Served (base image : ManagedImage) (cache : SymbolCache) : Prop where
  linked : image.Linked
  sound : cache.Sound image
  modules : image.modules = base.modules

namespace Served

variable {base image : ManagedImage} {cache : SymbolCache}

theorem symbols (h : Served base image cache) : image.symbols = base.symbols := by
  rw [ManagedImage.symbols, ManagedImage.symbols, h.modules]

theorem symbol? (h : Served base image cache) (a : Address) : image.symbol? a = base.symbol? a := by
  rw [ManagedImage.symbol?, ManagedImage.symbol?, h.symbols]

theorem confined (h : Served base image cache) {D : ClassId → Prop} {after : ManagedImage}
    (hc : image.Confined D after) : Served base after cache := by
  exact ⟨h.linked.of_confined hc, h.sound.of_symbols hc.symbols, hc.modules.trans h.modules⟩

theorem resolve (h : Served base image cache) (a : Address) (scope : Option ModuleId) :
    (cache.resolve image a scope).1 = base.symbol? a ∧
      Served base image (cache.resolve image a scope).2 := by
  obtain ⟨hs, hcache⟩ := h.sound.resolve h.linked a scope
  exact ⟨hs.trans (h.symbol? a), h.linked, hcache, h.modules⟩

theorem answering (h : Served base image cache) : Answering base base.symbol? image cache where
  answers a scope := by
    rw [← SymbolCache.resolve_of_modules h.modules]
    exact (h.resolve a scope).1
  modules := h.modules

end Served

end HotReload
