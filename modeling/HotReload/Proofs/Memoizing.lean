import HotReload.Mapped.Image
import HotReload.Proofs.Sharing

/-! # Answers that are kept

A cache keeps its answers by address. In a managed image no two modules have a symbol at one
address, and a cache that is told of new modules answers like a search. Mapped modules may list one
address twice. An address then keeps the symbol that was found first, whatever module is asked for
and whatever is loaded later.
-/

namespace HotReload

open Managed (Process)

namespace SymbolCache

section Runs

variable {σ ι : Type} [CodeImage ι]

/-- The search without a cache: the given module first, then the most recently loaded one that has
a symbol at the address. -/
def plain (image : ι) (a : Address) (scope : Option ModuleId) : Option Symbol :=
  if a.isNull then none
  else (scope.bind fun m => CodeImage.symbolAt? image m a).or
    ((CodeImage.modules image).reverse.findSome? fun m => CodeImage.symbolAt? image m a)

/-- Questions to a cache while a system runs. Modules may be loaded only where the cache is told. -/
inductive Run (image : σ → ι) (Loads Keeps : σ → σ → Prop) (s₀ : σ) (cache₀ : SymbolCache) :
    σ → SymbolCache → Prop where
  | start : Run image Loads Keeps s₀ cache₀ s₀ cache₀
  | resolve {s cache} (a : Address) (scope : Option ModuleId) :
    Run image Loads Keeps s₀ cache₀ s cache →
      Run image Loads Keeps s₀ cache₀ s (cache.resolve (image s) a scope).2
  | load {s s' cache} : Run image Loads Keeps s₀ cache₀ s cache → Loads s s' →
    Run image Loads Keeps s₀ cache₀ s' cache.moduleLoaded
  | keep {s s' cache} : Run image Loads Keeps s₀ cache₀ s cache → Keeps s s' →
    Run image Loads Keeps s₀ cache₀ s' cache

theorem findSome?_filter_ne {f : ModuleId → Option Symbol} {scope : Option ModuleId}
    (h : scope.bind f = none) (ms : List ModuleId) :
    (ms.filter fun m => some m != scope).findSome? f = ms.findSome? f := by
  induction ms with
  | nil => rfl
  | cons m ms ih =>
    by_cases hm : some m = scope
    · have hf : f m = none := by simpa [← hm] using h
      simp [hm, ← ih, hf]
    · simp [hm, List.findSome?_cons, ih]

theorem search_eq_or (image : ι) (a : Address) (scope : Option ModuleId) :
    search image a scope = (scope.bind fun m => CodeImage.symbolAt? image m a).or
      ((CodeImage.modules image).reverse.findSome? fun m => CodeImage.symbolAt? image m a) := by
  rw [search]
  cases h : scope.bind fun m => CodeImage.symbolAt? image m a with
  | some s => rfl
  | none => rw [findSome?_filter_ne h]

theorem resolve_empty (image : ι) (a : Address) (scope : Option ModuleId) :
    (resolve {} image a scope).1 = plain image a scope := by
  simp only [resolve, plain, ← search_eq_or]
  split <;> rfl

/-- A question is answered from the cache, or by a search whose answer is kept. -/
theorem resolve_cases (cache : SymbolCache) (image : ι) {a : Address} (ha : a.isNull = false)
    (scope : Option ModuleId) :
    cache.answers.lookup a = some (cache.resolve image a scope).1 ∧
        (cache.resolve image a scope).2.answers = cache.answers ∨
      cache.answers.lookup a = none ∧ (cache.resolve image a scope).1 = plain image a scope ∧
        (cache.resolve image a scope).2.answers =
          (a, (cache.resolve image a scope).1) :: cache.answers := by
  cases hl : cache.answers.lookup a with
  | some answer => simp [resolve, ha, hl]
  | none => simp [resolve, ha, hl, plain, search_eq_or]

theorem resolve_null (cache : SymbolCache) (image : ι) {a : Address} (ha : a.isNull = true)
    (scope : Option ModuleId) : cache.resolve image a scope = (none, cache) := by
  simp [resolve, ha]

theorem lookup_resolve (cache : SymbolCache) (image : ι) {a : Address} (ha : a.isNull = false)
    (scope : Option ModuleId) :
    (cache.resolve image a scope).2.answers.lookup a = some (cache.resolve image a scope).1 := by
  obtain ⟨hl, hanswers⟩ | ⟨_, _, hanswers⟩ := cache.resolve_cases image ha scope
  · rw [hanswers, hl]
  · rw [hanswers, List.lookup_cons_self]

theorem lookup_filter {answers : List (Address × Option Symbol)} {a : Address} {s : Symbol}
    (h : answers.lookup a = some (some s)) :
    (answers.filter (·.2.isSome)).lookup a = some (some s) := by
  induction answers with
  | nil => cases h
  | cons e es ih =>
    obtain ⟨b, answer⟩ := e
    by_cases hb : a = b
    · subst hb
      obtain rfl : answer = some s := by simpa using h
      simp
    · have hbeq : (a == b) = false := beq_false_of_ne hb
      rw [List.lookup_cons, hbeq] at h
      cases answer with
      | none => simpa using ih h
      | some r => simpa [List.lookup_cons, hbeq] using ih h

/-- An address keeps the symbol that it was answered with. -/
theorem Run.resolve_eq {image : σ → ι} {Loads Keeps : σ → σ → Prop} {s₀ s : σ}
    {cache₀ cache : SymbolCache} (h : Run image Loads Keeps s₀ cache₀ s cache) {a : Address}
    (ha : a.isNull = false) {symbol : Symbol}
    (hfirst : cache₀.answers.lookup a = some (some symbol)) (scope : Option ModuleId) :
    (cache.resolve (image s) a scope).1 = some symbol := by
  have hkept : cache.answers.lookup a = some (some symbol) := by
    induction h with
    | start => exact hfirst
    | @resolve s' cache' b scope' _ ih =>
      cases hb : b.isNull with
      | true => rw [resolve_null _ _ hb, ih]
      | false =>
        obtain ⟨_, hanswers⟩ | ⟨hnone, _, hanswers⟩ := cache'.resolve_cases (image s') hb scope'
        · rw [hanswers, ih]
        · have hne : a ≠ b := by
            rintro rfl
            cases hnone.symm.trans ih
          rw [hanswers, List.lookup_cons, beq_false_of_ne hne, ih]
    | load _ _ ih => exact lookup_filter ih
    | keep _ _ ih => exact ih
  simp [SymbolCache.resolve, ha, hkept]

end Runs

section Managed

def KeepsModules (w w' : Process) : Prop :=
  Managed.Step w w' ∧ w'.image.modules.map (·.unbound) = w.image.modules.map (·.unbound)

theorem Run.sound {w₀ w : Process} {cache : SymbolCache} (hw : Managed.Started w₀)
    (h : Run World.image Managed.Step KeepsModules w₀ {} w cache) :
    Managed.Started w ∧ cache.Sound w.image := by
  induction h with
  | start => exact ⟨hw, sound_empty _⟩
  | resolve a scope _ ih => exact ⟨ih.1, (ih.2.resolve ih.1.valid.linked a scope).2⟩
  | load _ hstep ih =>
    obtain ⟨_, hs⟩ := (hstep.keeps Managed.extends_held Managed.extends_rebound).symbols
    exact ⟨ih.1.step hstep, ih.2.moduleLoaded hs⟩
  | keep _ hstep ih =>
    exact ⟨ih.1.step hstep.1, ih.2.of_symbols (ManagedImage.symbols_of_unbound hstep.2)⟩

theorem Run.resolve_eq_plain {w₀ w : Process} {cache : SymbolCache} (hw : Managed.Started w₀)
    (h : Run World.image Managed.Step KeepsModules w₀ {} w cache) (a : Address)
    (scope : Option ModuleId) : (cache.resolve w.image a scope).1 = plain w.image a scope := by
  obtain ⟨hstarted, hsound⟩ := h.sound hw
  have hlinked := hstarted.valid.linked
  rw [← resolve_empty, (hsound.resolve hlinked a scope).1,
    ((sound_empty w.image).resolve hlinked a scope).1]

end Managed

section Mapped

/-- A module is loaded from a manifest in memory or from what is staged at a path. -/
def LoadsMapped (image after : MappedImage) : Prop :=
  (∃ path manifest m, image.register path manifest = .ok (m, after)) ∨
    ∃ path m, image.loadStaged path = (.ok m, after)

def KeepsMapped (image after : MappedImage) : Prop :=
  after.modules.map (·.symbols) = image.modules.map (·.symbols)

/-- The symbol is one at the address in some module, or there is none at it in any. -/
def Answers (image : MappedImage) (a : Address) : Option Symbol → Prop
  | some s => a.isNull = false ∧ ∃ m, CodeImage.symbolAt? image m a = some s
  | none => a.isNull = true ∨ ∀ m, CodeImage.symbolAt? image m a = none

def ListedOnce (image : MappedImage) (a : Address) : Prop :=
  ∀ m m' s s', CodeImage.symbolAt? image m a = some s → CodeImage.symbolAt? image m' a = some s' →
    m = m'

variable {image after : MappedImage} {a : Address}

theorem mem_modules_of_symbolAt? {m : ModuleId} {s : Symbol}
    (h : CodeImage.symbolAt? image m a = some s) : m ∈ CodeImage.modules image := by
  obtain ⟨k, hk, _⟩ := Option.bind_eq_some_iff.1 h
  obtain ⟨n⟩ := m
  cases n with
  | zero => simp [MappedImage.module?] at hk
  | succ n =>
    have hn : n < image.modules.length := (List.getElem?_eq_some_iff.1 hk).1
    exact List.mem_map.2 ⟨n, List.mem_range.2 hn, rfl⟩

theorem answers_plain (image : MappedImage) (a : Address) (scope : Option ModuleId) :
    Answers image a (plain image a scope) := by
  cases ha : a.isNull with
  | true => simp [plain, Answers, ha]
  | false =>
    cases hs : plain image a scope with
    | some s =>
      refine ⟨ha, ?_⟩
      simp only [plain, ha, Bool.false_eq_true, if_false, Option.or_eq_some_iff] at hs
      rcases hs with hs | ⟨_, hs⟩
      · obtain ⟨m, _, hm⟩ := Option.bind_eq_some_iff.1 hs
        exact ⟨m, hm⟩
      · obtain ⟨m, _, hm⟩ := List.exists_of_findSome?_eq_some hs
        exact ⟨m, hm⟩
    | none =>
      refine .inr fun m => Option.eq_none_iff_forall_ne_some.2 fun s hm => ?_
      simp only [plain, ha, Bool.false_eq_true, if_false, Option.or_eq_none_iff] at hs
      have hnone := List.findSome?_eq_none_iff.1 hs.2 m
        (List.mem_reverse.2 (mem_modules_of_symbolAt? hm))
      cases hnone.symm.trans hm

theorem Answers.unique {x y : Option Symbol} (hx : Answers image a x) (hy : Answers image a y)
    (h : ListedOnce image a) : x = y := by
  have hnone {s : Symbol} (hs : Answers image a (some s)) : ¬Answers image a none := by
    obtain ⟨ha, m, hm⟩ := hs
    rintro (hnull | hnone)
    · cases ha.symm.trans hnull
    · cases hm.symm.trans (hnone m)
  cases x with
  | none =>
    cases y with
    | none => rfl
    | some s' => exact absurd hx (hnone hy)
  | some s =>
    cases y with
    | none => exact absurd hy (hnone hx)
    | some s' =>
      obtain ⟨_, m, hm⟩ := hx
      obtain ⟨_, m', hm'⟩ := hy
      rw [h m m' s s' hm hm', hm'] at hm
      exact hm.symm

theorem modules_of_register {path : Path} {manifest : Manifest} {id : ModuleId}
    (h : image.register path manifest = .ok (id, after)) :
    ∃ k ks, image.readManifest path.shown manifest = .ok (k, ks) ∧
      after.modules = image.modules ++ [k] := by
  unfold MappedImage.register at h
  split at h
  · cases h
  · rename_i k ks hread
    obtain ⟨_, rfl⟩ := Prod.mk.inj (Except.ok.inj h)
    exact ⟨k, ks, hread, rfl⟩

theorem modules_of_loads (h : LoadsMapped image after) :
    ∃ library manifest k ks, image.readManifest library manifest = .ok (k, ks) ∧
      after.modules = image.modules ++ [k] := by
  rcases h with ⟨_, _, _, h⟩ | ⟨path, id, h⟩
  · exact ⟨_, _, modules_of_register h⟩
  · unfold MappedImage.loadStaged at h
    split at h
    · cases h
    · simp only at h
      split at h
      · rename_i hr
        obtain ⟨_, rfl⟩ := Prod.mk.inj h
        obtain ⟨k, ks, hread, hk⟩ := modules_of_register hr
        exact ⟨_, _, k, ks, hread, hk⟩
      · cases h

theorem symbolAt?_of_loads (h : LoadsMapped image after) {m : ModuleId} {s : Symbol}
    (hs : CodeImage.symbolAt? image m a = some s) : CodeImage.symbolAt? after m a = some s := by
  obtain ⟨_, _, k, _, _, hk⟩ := modules_of_loads h
  obtain ⟨l, hl, hfound⟩ := Option.bind_eq_some_iff.1 hs
  obtain ⟨n⟩ := m
  cases n with
  | zero => simp [MappedImage.module?] at hl
  | succ n =>
    have hn : n < image.modules.length := (List.getElem?_eq_some_iff.1 hl).1
    have hl' : after.module? ⟨n + 1⟩ = some l := by
      simp only [MappedImage.module?, hk] at hl ⊢
      rw [List.getElem?_append_left hn, hl]
    exact Option.bind_eq_some_iff.2 ⟨l, hl', hfound⟩

theorem symbolAt?_of_keeps (h : KeepsMapped image after) (m : ModuleId) (a : Address) :
    CodeImage.symbolAt? after m a = CodeImage.symbolAt? image m a := by
  have hsymbols (image : MappedImage) (n : Nat) :
      CodeImage.symbolAt? image ⟨n + 1⟩ a =
        (image.modules.map (·.symbols))[n]?.bind fun symbols =>
          symbols.reverse.find? (·.address == a) := by
    simp only [CodeImage.symbolAt?, MappedImage.module?, List.getElem?_map]
    cases image.modules[n]? <;> rfl
  obtain ⟨n⟩ := m
  cases n with
  | zero => rfl
  | succ n => rw [hsymbols, hsymbols, h]

theorem Answers.of_keeps {x : Option Symbol} (hx : Answers image a x)
    (h : KeepsMapped image after) : Answers after a x := by
  cases x with
  | none => simpa only [Answers, symbolAt?_of_keeps h] using hx
  | some s => simpa only [Answers, symbolAt?_of_keeps h] using hx

/-- Every answer that is kept answers for its address. -/
theorem Run.answers {start image : MappedImage} {cache : SymbolCache}
    (h : Run id LoadsMapped KeepsMapped start {} image cache) :
    ∀ e ∈ cache.answers, Answers image e.1 e.2 := by
  induction h with
  | start => exact fun e he => absurd he List.not_mem_nil
  | @resolve image cache a scope _ ih =>
    cases ha : a.isNull with
    | true => rwa [resolve_null _ _ ha]
    | false =>
      obtain ⟨_, hanswers⟩ | ⟨_, hplain, hanswers⟩ := cache.resolve_cases (id image) ha scope
      · rwa [hanswers]
      · rw [hanswers, hplain]
        exact List.forall_mem_cons.2 ⟨answers_plain image a scope, ih⟩
  | load _ hloads ih =>
    intro e he
    obtain ⟨he, hsome⟩ := List.mem_filter.1 he
    obtain ⟨s, hs⟩ := Option.isSome_iff_exists.1 hsome
    have hold := ih e he
    rw [hs] at hold ⊢
    obtain ⟨ha, m, hm⟩ := hold
    exact ⟨ha, m, symbolAt?_of_loads hloads hm⟩
  | keep _ hkeeps ih => exact fun e he => (ih e he).of_keeps hkeeps

theorem Run.answers_resolve {start image : MappedImage} {cache : SymbolCache}
    (h : Run id LoadsMapped KeepsMapped start {} image cache) (a : Address)
    (scope : Option ModuleId) : Answers image a (cache.resolve image a scope).1 := by
  cases ha : a.isNull with
  | true =>
    rw [resolve_null _ _ ha]
    exact .inl ha
  | false =>
    obtain ⟨hl, _⟩ | ⟨_, hplain, _⟩ := cache.resolve_cases image ha scope
    · exact h.answers (a, _) (mem_of_lookup hl)
    · rw [hplain]
      exact answers_plain image a scope

/-- Only a symbol that was found before keeps a question from being answered like a search. -/
theorem Run.resolve_eq_plain_of_unfound {start image : MappedImage} {cache : SymbolCache}
    (h : Run id LoadsMapped KeepsMapped start {} image cache) (scope : Option ModuleId)
    (hunfound : ∀ s, cache.answers.lookup a ≠ some (some s)) :
    (cache.resolve image a scope).1 = plain image a scope := by
  cases ha : a.isNull with
  | true => simp [resolve_null _ _ ha, plain, ha]
  | false =>
    obtain ⟨hl, _⟩ | ⟨_, hplain, _⟩ := cache.resolve_cases image ha scope
    · cases hx : (cache.resolve image a scope).1 with
      | some s =>
        rw [hx] at hl
        exact absurd hl (hunfound s)
      | none =>
        have hanswers := h.answers_resolve a scope
        rw [hx] at hanswers
        -- The absence of the symbol is still right, so no module lists the address.
        refine hanswers.unique (answers_plain image a scope) fun m _ s _ hm _ => ?_
        rcases hanswers with hnull | hnone
        · cases ha.symm.trans hnull
        · cases hm.symm.trans (hnone m)
    · exact hplain

end Mapped

/-- In a managed image every question is answered like a search. In a mapped one it is as long as at
most one module lists the address, or no symbol was found at it before; otherwise the answer is a
symbol at the address in some module, and once it is given it stays. -/
theorem resolve_run (a : Address) (scope : Option ModuleId) :
    (∀ (w₀ w : Process) (cache : SymbolCache), Managed.Started w₀ →
      Run World.image Managed.Step KeepsModules w₀ {} w cache →
        (cache.resolve w.image a scope).1 = plain w.image a scope) ∧
    ∀ (start image : MappedImage) (cache : SymbolCache),
      Run id LoadsMapped KeepsMapped start {} image cache →
        Answers image a (cache.resolve image a scope).1 ∧
        (ListedOnce image a ∨ (∀ s, cache.answers.lookup a ≠ some (some s)) →
          (cache.resolve image a scope).1 = plain image a scope) ∧
        ∀ s, (cache.resolve image a scope).1 = some s → ∀ later cache',
          Run id LoadsMapped KeepsMapped image (cache.resolve image a scope).2 later cache' →
          ∀ scope', (cache'.resolve later a scope').1 = some s := by
  refine ⟨fun w₀ w cache hw h => h.resolve_eq_plain hw a scope, fun start image cache h => ?_⟩
  have hanswers := h.answers_resolve a scope
  refine ⟨hanswers, ?_, ?_⟩
  · rintro (honce | hunfound)
    · exact hanswers.unique (answers_plain image a scope) honce
    · exact h.resolve_eq_plain_of_unfound scope hunfound
  · intro s hs later cache' hlater scope'
    rw [hs] at hanswers
    have hkept := cache.lookup_resolve image hanswers.1 scope
    rw [hs] at hkept
    exact hlater.resolve_eq hanswers.1 hkept scope'

def library : Manifest :=
  { name := ⟨some [0x41]⟩
    symbols := .ofList [⟨⟨some [0x66]⟩, ⟨0x1000⟩, 0⟩] }

/-- The library is delivered to an image, be it the first time or again. -/
def deliver (image : MappedImage) : MappedImage :=
  match image.register ⟨[0x61]⟩ library with
  | .ok (_, after) => after
  | .error _ => image

def once : MappedImage := deliver {}

def twice : MappedImage := deliver once

def libraryFunction (m : ModuleId) : Symbol := ⟨"f", ⟨0x1000⟩, m, .function⟩

def asked : SymbolCache := (resolve {} once ⟨0x1000⟩ (some ⟨1⟩)).2

theorem loads_twice : LoadsMapped once twice := .inl ⟨⟨[0x61]⟩, library, ⟨2⟩, rfl⟩

def unloaded : Process := { image := .empty false }

theorem started_unloaded : Managed.Started unloaded :=
  .empty unloaded rfl fun s hs => absurd hs (Array.not_mem_empty s)

def populated : Process :=
  (Managed.Command.load (oneClass { name := "Shape" } [("Shape.area", 1)])).perform unloaded

/-- In a managed image a function is found once it is there. In a mapped one it is found where it
was found first. -/
theorem resolve_run_populated :
    ((resolve {} unloaded.image ⟨0x1000⟩ none).2.moduleLoaded.resolve populated.image ⟨0x1000⟩
      none).1 = some ⟨"Shape.area", ⟨0x1000⟩, ⟨1⟩, .method⟩ ∧
    (resolve {} once ⟨0x1000⟩ (some ⟨1⟩)).1 = plain once ⟨0x1000⟩ (some ⟨1⟩) ∧
    (asked.moduleLoaded.resolve twice ⟨0x1000⟩ (some ⟨2⟩)).1 = some (libraryFunction ⟨1⟩) := by
  obtain ⟨hmanaged, _⟩ := resolve_run ⟨0x1000⟩ none
  obtain ⟨_, hmapped⟩ := resolve_run ⟨0x1000⟩ (some ⟨1⟩)
  have hrun : Run World.image Managed.Step KeepsModules unloaded {} populated
      (resolve {} unloaded.image ⟨0x1000⟩ none).2.moduleLoaded :=
    (Run.start.resolve ⟨0x1000⟩ none).load (.act _ unloaded)
  obtain ⟨_, hplain, hstays⟩ := hmapped once once {} .start
  refine ⟨?_, hplain (.inl ?_), ?_⟩
  · rw [hmanaged unloaded populated _ started_unloaded hrun]
    decide
  · intro m m' s s' hm hm'
    have hone {m : ModuleId} (h : m ∈ CodeImage.modules once) : m = ⟨1⟩ := List.mem_singleton.1 h
    rw [hone (mem_modules_of_symbolAt? hm), hone (mem_modules_of_symbolAt? hm')]
  · exact hstays (libraryFunction ⟨1⟩) (by decide) twice asked.moduleLoaded
      (Run.start.load loads_twice) (some ⟨2⟩)

/-- A library that is delivered again is not found in the module that it became. -/
theorem not_resolve_run_mapped :
    ¬∀ (start image : MappedImage) (cache : SymbolCache),
      Run id LoadsMapped KeepsMapped start {} image cache → ∀ a scope,
        (cache.resolve image a scope).1 = plain image a scope := by
  intro h
  have hrun : Run id LoadsMapped KeepsMapped once {} twice asked.moduleLoaded :=
    (Run.start.resolve ⟨0x1000⟩ (some ⟨1⟩)).load loads_twice
  have hagree := h once twice _ hrun ⟨0x1000⟩ (some ⟨2⟩)
  have hkept : (asked.moduleLoaded.resolve twice ⟨0x1000⟩ (some ⟨2⟩)).1 =
      some (libraryFunction ⟨1⟩) := by decide
  have hplain : plain twice ⟨0x1000⟩ (some ⟨2⟩) = some (libraryFunction ⟨2⟩) := by decide
  cases hkept.symm.trans (hagree.trans hplain)

end SymbolCache

end HotReload
