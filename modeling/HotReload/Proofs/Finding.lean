import HotReload.Proofs.Joining

/-! # Finding symbols by name

A search for a name asks the newest module that exports it for an address, and then for the symbol
at the address. In a managed image an address has one symbol, so the symbol has the name. A module
of a mapped image may list several names at one address, and the last of them answers for all.
-/

namespace HotReload

open SymbolCache (LoadsMapped KeepsMapped)

section Search

variable {ι : Type} [CodeImage ι] {image : ι} {name : String} {s : Symbol}

def CodeImage.Exported (image : ι) (name : String) : Prop :=
  ∃ m ∈ CodeImage.modules image, ∃ t ∈ CodeImage.exports image m, t.name = name

/-- The symbol is one of the newest module that exports the name, at the address of the last
definition of the name there. It has the name itself just if nothing listed after the definition is
at the address too. -/
structure CodeImage.Found (image : ι) (name : String) (s : Symbol) : Prop where
  listed : s ∈ CodeImage.exports image s.module
  newest : ∃ earlier later, CodeImage.modules image = earlier ++ s.module :: later ∧
    ∀ m ∈ later, ∀ t ∈ CodeImage.exports image m, t.name ≠ name
  address : CodeImage.address? image s.module name = some s.address
  definition : ∃ before d after, CodeImage.exports image s.module = before ++ d :: after ∧
    d.name = name ∧ (∀ t ∈ after, t.name ≠ name) ∧ s.address = d.address ∧
    (s.name = name ↔ ∀ t ∈ after, t.address ≠ d.address)

/-- By name and by address a module finds the last of its symbols, and these are its own. -/
structure CodeImage.Indexed (image : ι) : Prop where
  owned : ∀ m, ∀ t ∈ CodeImage.exports image m, t.module = m
  names : ∀ m name, CodeImage.address? image m name =
    ((CodeImage.exports image m).reverse.find? (·.name == name)).map (·.address)
  addresses : ∀ m a, CodeImage.symbolAt? image m a =
    (CodeImage.exports image m).reverse.find? (·.address == a)

namespace CodeImage.Indexed

/-- What a module answers for a name: nothing if it does not export it, and else its last symbol at
the address of its last definition of the name. -/
theorem answer_cases (h : Indexed image) (m : ModuleId) (name : String) :
    ((∀ t ∈ exports image m, t.name ≠ name) ∧
      (address? image m name).bind (symbolAt? image m) = none) ∨
    ∃ d s, LastNamed (exports image m) name d ∧ address? image m name = some d.address ∧
      symbolAt? image m d.address = some s ∧ s ∈ exports image m ∧ s.address = d.address := by
  rw [h.names]
  cases hlast : (exports image m).reverse.find? (·.name == name) with
  | none => exact .inl ⟨by simpa using hlast, rfl⟩
  | some d =>
    right
    have hd : d ∈ exports image m := List.mem_reverse.1 (List.mem_of_find?_eq_some hlast)
    cases hs : symbolAt? image m d.address with
    | none =>
      rw [h.addresses] at hs
      exact absurd (beq_self_eq_true _) (List.find?_eq_none.1 hs d (List.mem_reverse.2 hd))
    | some s =>
      refine ⟨d, s, lastNamed_iff.2 hlast, rfl, hs, ?_⟩
      rw [h.addresses] at hs
      exact ⟨List.mem_reverse.1 (List.mem_of_find?_eq_some hs), by simpa using List.find?_some hs⟩

theorem find?_eq_none_iff (h : Indexed image) :
    find? image name = none ↔ ¬Exported image name := by
  have hmodule (m : ModuleId) : (address? image m name).bind (symbolAt? image m) = none ↔
      ∀ t ∈ exports image m, t.name ≠ name := by
    obtain ⟨hnone, hbind⟩ | ⟨d, s, hlast, ha, hs, _⟩ := h.answer_cases m name
    · exact iff_of_true hbind hnone
    · refine iff_of_false ?_ fun hall => hall d hlast.mem hlast.1
      rw [ha, Option.bind_some, hs]
      exact Option.some_ne_none s
  simp [find?, hmodule, Exported]

/-- The last symbol at the address of a definition is another one just if one comes after it. -/
theorem name_eq_iff {before after : List Symbol} {d : Symbol} (hname : d.name = name)
    (hafter : ∀ t ∈ after, t.name ≠ name)
    (hs : (before ++ d :: after).reverse.find? (·.address == d.address) = some s) :
    s.name = name ↔ ∀ t ∈ after, t.address ≠ d.address := by
  have hfind : (before ++ d :: after).reverse.find? (·.address == d.address) =
      (after.reverse.find? (·.address == d.address)).or (some d) := by
    simp [List.find?_append]
  rw [hfind] at hs
  cases hlater : after.reverse.find? (·.address == d.address) with
  | none =>
    rw [hlater, Option.none_or] at hs
    obtain rfl := Option.some.inj hs
    exact iff_of_true hname (by simpa using hlater)
  | some t =>
    rw [hlater, Option.some_or] at hs
    obtain rfl := Option.some.inj hs
    have ht := List.mem_reverse.1 (List.mem_of_find?_eq_some hlater)
    exact iff_of_false (hafter _ ht) fun hall => hall _ ht (by simpa using List.find?_some hlater)

theorem found (h : Indexed image) (hs : find? image name = some s) : Found image name s := by
  obtain ⟨later, m, earlier, hsplit, hm, hlater⟩ := List.findSome?_eq_some_iff.1 hs
  obtain ⟨_, hbind⟩ | ⟨d, s', hlast, ha, hat, hin, hsame⟩ := h.answer_cases m name
  · cases hbind.symm.trans hm
  rw [ha, Option.bind_some, hat] at hm
  obtain rfl := Option.some.inj hm
  obtain rfl := h.owned m _ hin
  constructor
  case listed => exact hin
  case newest =>
    refine ⟨earlier.reverse, later.reverse, ?_, fun m hm => ?_⟩
    · rw [← List.reverse_reverse (modules image), hsplit]
      simp
    · obtain ⟨hnone, _⟩ | ⟨d', t, _, ha', ht, _⟩ := h.answer_cases m name
      · exact hnone
      · have hbind := hlater m (List.mem_reverse.1 hm)
        rw [ha', Option.bind_some, ht] at hbind
        cases hbind
  case address => rw [ha, hsame]
  case definition =>
    obtain ⟨hname, before, after, hexports, hafter⟩ := hlast
    rw [h.addresses, hexports] at hat
    exact ⟨before, d, after, hexports, hname, hafter, hsame, name_eq_iff hname hafter hat⟩

end CodeImage.Indexed

end Search

section Managed

variable {image : ManagedImage}

theorem ManagedImage.mem_exports {m : ModuleId} {t : Symbol} :
    t ∈ CodeImage.exports image m ↔ ∃ k, image.module? m = some k ∧ t ∈ k.exports := by
  cases hk : image.module? m <;> simp [CodeImage.exports, hk]

theorem ManagedImage.Linked.mem_exports_iff (h : image.Linked) {m : ModuleId} {t : Symbol} :
    t ∈ CodeImage.exports image m ↔ t ∈ image.symbols ∧ t.module = m := by
  rw [mem_exports, mem_symbols]
  constructor
  · rintro ⟨k, hk, ht⟩
    exact ⟨⟨m, k, hk, ht⟩, h.owned hk t ht⟩
  · rintro ⟨⟨m', k, hk, ht⟩, rfl⟩
    obtain rfl := h.owned hk t ht
    exact ⟨k, hk, ht⟩

theorem ManagedImage.Linked.indexed (h : image.Linked) : CodeImage.Indexed image where
  owned m t ht := (h.mem_exports_iff.1 ht).2
  names m name := by
    cases hk : image.module? m with
    | none => simp [CodeImage.address?, CodeImage.exports, hk]
    | some k => simp [CodeImage.address?, CodeImage.exports, hk, LinkedModule.address?,
        LinkedModule.symbol?]
  addresses m a := by
    have hsymbol : CodeImage.symbolAt? image m a = (image.symbol? a).filter (·.module == m) := by
      rw [← functionAt?_symbol]
      rfl
    rw [hsymbol]
    cases hfound : (CodeImage.exports image m).reverse.find? (·.address == a) with
    | some s =>
      have hs := h.mem_exports_iff.1 (List.mem_reverse.1 (List.mem_of_find?_eq_some hfound))
      have ha : s.address = a := by simpa using List.find?_some hfound
      rw [← ha, h.symbol?_of_mem hs.1]
      simp [Option.filter, hs.2]
    | none =>
      rw [Option.filter_eq_none_iff]
      intro s hs hm
      have hin := h.mem_exports_iff.2 ⟨mem_of_symbol? hs, eq_of_beq hm⟩
      exact List.find?_eq_none.1 hfound s (List.mem_reverse.2 hin)
        (by simpa using address_of_symbol? hs)

/-- In a managed image no two symbols share an address. -/
theorem ManagedImage.Linked.name_of_found (h : image.Linked) {name : String} {s : Symbol}
    (hs : CodeImage.Found image name s) : s.name = name := by
  obtain ⟨before, d, after, hexports, rfl, _, hsame, _⟩ := hs.definition
  have hd : d ∈ CodeImage.exports image s.module := by simp [hexports]
  have hfound := h.symbol?_of_mem (mem_symbols_of_exports hd)
  rw [← hsame, h.symbol?_of_mem (mem_symbols_of_exports hs.listed)] at hfound
  rw [Option.some.inj hfound]

end Managed

section Mapped

variable {image after : MappedImage}

/-- A mapped image that was empty at first; modules were loaded into it and tables written. -/
inductive MappedImage.Populated : MappedImage → Prop where
  | empty : Populated {}
  | load {base image : MappedImage} : Populated base → LoadsMapped base image → Populated image
  | keep {base image : MappedImage} : Populated base → KeepsMapped base image → Populated image

theorem RawSymbol.module_eq {id : ModuleId} {rs : List RawSymbol} {symbols : List Symbol}
    (h : List.Forall₂ (RawSymbol.Mirrored id) rs symbols) : ∀ s ∈ symbols, s.module = id := by
  induction h with
  | nil => simp
  | cons hs _ ih => exact List.forall_mem_cons.2 ⟨hs.module, ih⟩

theorem MappedImage.Populated.owned (h : image.Populated) {n : Nat} {symbols : List Symbol}
    (hn : (image.modules.map (·.symbols))[n]? = some symbols) :
    ∀ s ∈ symbols, s.module = ⟨n + 1⟩ := by
  induction h generalizing n symbols with
  | empty => cases hn
  | @load base image _ hload ih =>
    obtain ⟨library, manifest, k, ks, hread, hk⟩ := SymbolCache.modules_of_loads hload
    rw [hk, List.map_append] at hn
    rcases Nat.lt_trichotomy n base.modules.length with hlt | rfl | hgt
    · rw [List.getElem?_append_left (by simpa using hlt)] at hn
      exact ih hn
    · rw [List.getElem?_append_right (by simp)] at hn
      obtain rfl : k.symbols = symbols := by simpa using hn
      obtain ⟨_, _, hread', _, hmirrored⟩ | ⟨_, _, hrefused⟩ :=
        base.readManifest_cases library manifest
      · obtain ⟨rfl, rfl⟩ := Prod.mk.inj (Except.ok.inj (hread'.symm.trans hread))
        exact RawSymbol.module_eq hmirrored.symbols
      · cases hrefused.symm.trans hread
    · rw [List.getElem?_eq_none (by simp; omega)] at hn
      cases hn
  | keep _ hkeep ih => exact ih (hkeep ▸ hn)

theorem MappedImage.Populated.indexed (h : image.Populated) : CodeImage.Indexed image where
  owned m t ht := by
    obtain ⟨n⟩ := m
    cases n with
    | zero => cases ht
    | succ n =>
      cases hk : image.modules[n]? with
      | none => simp [CodeImage.exports, module?, hk] at ht
      | some k =>
        have hn : (image.modules.map (·.symbols))[n]? = some k.symbols := by simp [hk]
        exact h.owned hn t (by simpa [CodeImage.exports, module?, hk] using ht)
  names m name := by
    cases hk : image.module? m with
    | none => simp [CodeImage.address?, CodeImage.exports, hk]
    | some k => simp [CodeImage.address?, CodeImage.exports, hk, MappedModule.address?]
  addresses m a := by
    cases hk : image.module? m with
    | none => simp [CodeImage.symbolAt?, CodeImage.exports, hk]
    | some k => simp [CodeImage.symbolAt?, CodeImage.exports, hk, MappedModule.symbolAt?]

end Mapped

/-- A search finds nothing just if no module exports the name, and else a symbol of the newest
module that does, at the address that this module exports under the name. In a managed image the
symbol has the name. In a mapped one it does unless the module lists another symbol at the address
after its last definition of the name. -/
theorem CodeImage.find?_exact (name : String) :
    (∀ w : Managed.Process, Managed.Started w →
      (find? w.image name = none ↔ ¬Exported w.image name) ∧
      ∀ s, find? w.image name = some s → s.name = name ∧ Found w.image name s) ∧
    ∀ image : MappedImage, image.Populated →
      (find? image name = none ↔ ¬Exported image name) ∧
      ∀ s, find? image name = some s → Found image name s := by
  refine ⟨fun w hw => ?_, fun image himage => ?_⟩
  · have hlinked := hw.valid.linked
    refine ⟨hlinked.indexed.find?_eq_none_iff, fun s hs => ?_⟩
    have hfound := hlinked.indexed.found hs
    exact ⟨hlinked.name_of_found hfound, hfound⟩
  · exact ⟨himage.indexed.find?_eq_none_iff, fun s hs => himage.indexed.found hs⟩

namespace Finding

/-- A library whose two functions were given one address. -/
def merged : Manifest :=
  { name := ⟨some [0x41]⟩
    symbols := .ofList [⟨⟨some [0x66]⟩, ⟨0x1000⟩, 0⟩, ⟨⟨some [0x67]⟩, ⟨0x1000⟩, 0⟩] }

def registered : MappedImage :=
  match MappedImage.register {} ⟨[0x61]⟩ merged with
  | .ok (_, image) => image
  | .error _ => {}

theorem registered_populated : registered.Populated :=
  .load .empty (.inl ⟨⟨[0x61]⟩, merged, ⟨1⟩, rfl⟩)

/-- The function that is listed first is asked for, and the other one found. -/
theorem find?_exact_merged :
    CodeImage.Found SymbolCache.populated.image "Shape.area"
      ⟨"Shape.area", ⟨0x1000⟩, ⟨1⟩, .method⟩ ∧
    CodeImage.Found registered "f" ⟨"g", ⟨0x1000⟩, ⟨1⟩, .function⟩ ∧
    ¬CodeImage.Exported registered "h" := by
  have hstarted : Managed.Started SymbolCache.populated :=
    .step SymbolCache.started_unloaded (.act _ _)
  refine ⟨?_, ?_, ?_⟩
  · obtain ⟨hmanaged, _⟩ := CodeImage.find?_exact "Shape.area"
    exact ((hmanaged _ hstarted).2 _ (by decide)).2
  · obtain ⟨_, hmapped⟩ := CodeImage.find?_exact "f"
    exact (hmapped _ registered_populated).2 _ (by decide)
  · obtain ⟨_, hmapped⟩ := CodeImage.find?_exact "h"
    exact (hmapped _ registered_populated).1.1 (by decide)

/-- A search does not always find a symbol of the name. -/
theorem not_find?_name : ¬∀ image : MappedImage, image.Populated → ∀ name s,
    CodeImage.find? image name = some s → s.name = name := by
  intro h
  have hname := h registered registered_populated "f" ⟨"g", ⟨0x1000⟩, ⟨1⟩, .function⟩ (by decide)
  exact absurd hname (by decide)

end Finding

end HotReload
