import HotReload.Proofs.OwnCalls
import HotReload.Proofs.Memoizing
import HotReload.Proofs.Registration
import Mathlib.Data.List.Nodup

/-! # What a module adds to an image

A module is linked exactly if every name that it refers to is its own or exported already. A name of
its own then means its last definition, any other name that of the first module that exports it, and
everything that was in the image before stays as it was.
-/

namespace HotReload

open Managed (Command Process Started)

def LastNamed (symbols : List Symbol) (name : String) (s : Symbol) : Prop :=
  s.name = name ∧ ∃ before after, symbols = before ++ s :: after ∧ ∀ t ∈ after, t.name ≠ name

theorem lastNamed_iff {symbols : List Symbol} {name : String} {s : Symbol} :
    LastNamed symbols name s ↔ symbols.reverse.find? (·.name == name) = some s := by
  simp only [LastNamed, find?_reverse_eq_some_iff, beq_iff_eq]

theorem LastNamed.mem {symbols : List Symbol} {name : String} {s : Symbol}
    (h : LastNamed symbols name s) : s ∈ symbols := by
  obtain ⟨_, before, after, rfl, _⟩ := h
  simp

namespace LinkedModule

variable {k : LinkedModule} {name : String} {a : Address}

def Lacks (k : LinkedModule) (name : String) : Prop := ∀ s ∈ k.exports, s.name ≠ name

theorem address?_eq_some_iff :
    k.address? name = some a ↔ ∃ s, LastNamed k.exports name s ∧ s.address = a := by
  simp only [address?, symbol?, Option.map_eq_some_iff, lastNamed_iff]

theorem mem_of_function? {f : LinkedFunction} (h : k.function? a = some f) :
    f ∈ k.functions ∧ f.symbol.address = a := by
  unfold function? at h
  exact ⟨List.mem_of_find?_eq_some h, by simpa using List.find?_some h⟩

theorem address?_eq_none_iff : k.address? name = none ↔ k.Lacks name := by
  simp [address?, symbol?, Lacks]

end LinkedModule

theorem eraseDups_sublist_nodup {α : Type} [BEq α] [LawfulBEq α] (l : List α) :
    l.eraseDups.Sublist l ∧ l.eraseDups.Nodup := by
  induction hn : l.length using Nat.strongRecOn generalizing l with
  | ind n ih =>
    cases l with
    | nil => exact ⟨List.Sublist.refl _, List.nodup_nil⟩
    | cons a l =>
      have hlength : (l.filter fun b => !b == a).length < n := by
        rw [← hn]
        exact Nat.lt_succ_of_le (List.length_filter_le _ l)
      obtain ⟨hsub, hnodup⟩ := ih _ hlength _ rfl
      rw [List.eraseDups_cons, List.nodup_cons]
      exact ⟨(hsub.trans List.filter_sublist).cons_cons a, by simp, hnodup⟩

namespace ModuleSpec

/-- The module has a function of the name, or a class that it is the destructor of. -/
def Defines (m : ModuleSpec Body) (name : String) : Prop :=
  (∃ f ∈ m.functions, f.name = name) ∨ ∃ c ∈ m.classes, c.destructor = name

theorem mem_defined_iff {m : ModuleSpec Body} {name : String} :
    name ∈ m.defined ↔ m.Defines name := by
  simp [defined, functionNames, Defines]

end ModuleSpec

namespace ManagedImage

/-- What a name means in a module: the last definition in the module itself, or else in the first
module of the image that exports the name. -/
inductive Means (image : ManagedImage) (k : LinkedModule) (name : String) (a : Address) : Prop where
  | own {s} : LastNamed k.exports name s → s.address = a → Means image k name a
  | first {earlier j later s} : k.Lacks name → image.modules = earlier ++ j :: later →
    (∀ i ∈ earlier, i.Lacks name) → LastNamed j.exports name s → s.address = a →
    Means image k name a

/-- The module defines the name, or an earlier one exports it. -/
def Knows (image : ManagedImage) (m : ModuleSpec Body) (name : String) : Prop :=
  m.Defines name ∨ ∃ k ∈ image.modules, ∃ s ∈ k.exports, s.name = name

/-- The class is the described one, with its tables bound for a module. -/
structure BoundClass (image : ManagedImage) (id : ModuleId) (k : LinkedModule) (c : ClassSpec)
    (l : LinkedClass) : Prop where
  info : l.info =
    { name := c.name, module := id, superclass := c.superclass, size := c.size
      addressPoint := c.addressPoint, isGeneric := c.isGeneric
      derivesFromGeneric := c.derivesFromGeneric, isTestCase := c.isTestCase }
  slots : List.Forall₂ (fun e s => s.name = e.1 ∧ image.Means k e.2 s.address)
    ((ClassSpec.destructorSlot, c.destructor) :: c.slots) l.slots
  selectors : List.Forall₂ (fun e s => s.1 = e.1 ∧ image.Means k e.2 s.2) c.selectors l.selectors
  classSelectors : List.Forall₂ (fun e s => s.1 = e.1 ∧ image.Means k e.2 s.2) c.classSelectors
    l.classSelectors
  fields : l.fields = c.fields
  isLegacy : l.isLegacy = c.isLegacy

/-- The functions are the described ones, followed by a destructor for each class that has none
among them. -/
def HasFunctions (m : ModuleSpec Body) (fs : List LinkedFunction) : Prop :=
  ∃ destructors : List String, destructors.Nodup ∧
    destructors.Sublist (m.classes.map (·.destructor)) ∧
    (∀ d, d ∈ destructors ↔ (∃ c ∈ m.classes, c.destructor = d) ∧ ∀ f ∈ m.functions, f.name ≠ d) ∧
    fs.map (fun f => (f.symbol.name, f.symbol.kind, f.body)) =
      m.functions.map (fun f => (f.name, f.kind, f.body)) ++
        destructors.map fun d => (d, SymbolKind.destructor, Body.constant .unit)

/-- The second image is the first with the described module added to it: the module, its classes,
and nothing else. -/
structure Joined (image : ManagedImage) (m : ModuleSpec Body) (id : ModuleId) (k : LinkedModule)
    (ls : List LinkedClass) (after : ManagedImage) : Prop where
  rest : { after with
    modules := image.modules, classes := image.classes, nextAddress := image.nextAddress } = image
  number : id.number = image.modules.length + 1
  modules : after.modules = image.modules ++ [k]
  classes : after.classes = image.classes ++ ls
  name : k.name = m.name
  functions : HasFunctions m k.functions
  owned : ∀ f ∈ k.functions, f.symbol.module = id
  /-- No two of the functions have one address, and no other function has it. -/
  distinct : (k.functions.map (·.symbol.address)).Nodup
  fresh : ∀ f ∈ k.functions, f.symbol.address ≠ .null ∧
    image.functionAt? f.symbol.address = none ∧ after.functionAt? f.symbol.address = some f
  kept : ∀ a f, image.functionAt? a = some f → after.functionAt? a = some f
  callSites : ∀ name a, k.target? name = some a ↔
    (m.Defines name ∨ name ∈ m.imports) ∧ image.Means k name a
  bound : List.Forall₂ (image.BoundClass id k) m.classes ls
  registered : k.classes = (List.range ls.length).map fun n => ⟨image.classes.length + n⟩

variable {image : ManagedImage} {k : LinkedModule} {m : ModuleSpec Body} {name : String}
  {a : Address}

theorem firstExport?_eq_some_iff : image.firstExport? name = some a ↔
    ∃ earlier j later s, image.modules = earlier ++ j :: later ∧ (∀ i ∈ earlier, i.Lacks name) ∧
      LastNamed j.exports name s ∧ s.address = a := by
  simp only [firstExport?, List.findSome?_eq_some_iff, LinkedModule.address?_eq_some_iff,
    LinkedModule.address?_eq_none_iff]
  constructor
  · rintro ⟨earlier, j, later, hsplit, ⟨s, hs, ha⟩, hearlier⟩
    exact ⟨earlier, j, later, s, hsplit, hearlier, hs, ha⟩
  · rintro ⟨earlier, j, later, s, hsplit, hearlier, hs, ha⟩
    exact ⟨earlier, j, later, hsplit, ⟨s, hs, ha⟩, hearlier⟩

theorem firstExport?_eq_none_iff :
    image.firstExport? name = none ↔ ∀ k ∈ image.modules, k.Lacks name := by
  simp only [firstExport?, List.findSome?_eq_none_iff, LinkedModule.address?_eq_none_iff]

/-- The linker's search finds what a name means. -/
theorem means_iff :
    image.Means k name a ↔ (k.address? name).or (image.firstExport? name) = some a := by
  rw [Option.or_eq_some_iff, LinkedModule.address?_eq_some_iff, LinkedModule.address?_eq_none_iff,
    firstExport?_eq_some_iff]
  constructor
  · rintro (⟨hs, ha⟩ | ⟨hown, hsplit, hearlier, hs, ha⟩)
    · exact .inl ⟨_, hs, ha⟩
    · exact .inr ⟨hown, _, _, _, _, hsplit, hearlier, hs, ha⟩
  · rintro (⟨_, hs, ha⟩ | ⟨hown, _, _, _, _, hsplit, hearlier, hs, ha⟩)
    · exact .own hs ha
    · exact .first hown hsplit hearlier hs ha

theorem knows_iff :
    image.Knows m name ↔ name ∈ m.defined ∨ (image.firstExport? name).isSome = true := by
  have hexported : (image.firstExport? name).isSome = true ↔
      ∃ k ∈ image.modules, ∃ s ∈ k.exports, s.name = name := by
    rw [← Option.ne_none_iff_isSome, Ne, firstExport?_eq_none_iff]
    simp [LinkedModule.Lacks]
  rw [Knows, ModuleSpec.mem_defined_iff, hexported]

/-- What the linker finds missing is what is not known. -/
theorem missing_iff :
    (!m.defined.contains name && (image.firstExport? name).isNone) = true ↔
      ¬image.Knows m name := by
  simp [knows_iff]

/-- The module is refused for the first name that it refers to and does not know. -/
theorem load_cases (image : ManagedImage) (m : ModuleSpec Body) :
    (image.load m = .ok (image.link m) ∧ ∀ name ∈ m.references, image.Knows m name) ∨
      ∃ name, image.load m = .error (.unresolvedSymbol name m.name) ∧
        FirstBad (image.Knows m) m.references name := by
  cases hresolved : image.unresolved? m with
  | none =>
    refine .inl ⟨by simp only [load, hresolved], fun name hname => ?_⟩
    exact not_not.1 fun hbad => List.find?_eq_none.1 hresolved name hname (missing_iff.2 hbad)
  | some name =>
    obtain ⟨hname, before, after, hsplit, hbefore⟩ := List.find?_eq_some_iff_append.1 hresolved
    refine .inr ⟨name, by simp only [load, hresolved], before, after, hsplit, fun x hx => ?_, ?_⟩
    · refine not_not.1 fun hbad => ?_
      have hgood := hbefore x hx
      rw [missing_iff.2 hbad] at hgood
      cases hgood
    · exact missing_iff.1 hname

/-- The linker binds every name that is known. -/
theorem means_bindName (h : image.Knows m name) :
    image.Means (image.linked m) name (image.bindName (image.linked m) name) := by
  obtain ⟨a, ha⟩ := Option.isSome_iff_exists.1 (target_isSome (knows_iff.1 h))
  rw [means_iff, bindName, ha]
  rfl

theorem forall₂_bound {table : List (String × String)} (h : ∀ e ∈ table, image.Knows m e.2) :
    List.Forall₂ (fun e s => s.1 = e.1 ∧ image.Means (image.linked m) e.2 s.2) table
      (table.map fun e => (e.1, image.bindName (image.linked m) e.2)) := by
  rw [List.forall₂_map_right_iff, List.forall₂_same]
  exact fun e he => ⟨rfl, means_bindName (h e he)⟩

theorem boundClass_linkClass {c : ClassSpec} (hc : c ∈ m.classes)
    (h : ∀ name ∈ m.references, image.Knows m name) :
    image.BoundClass image.nextModule (image.linked m) c (image.linkClass
      { image.linked m with callSites := [], classes := [] } image.nextModule c) where
  info := rfl
  slots := by
    refine List.forall₂_map_right_iff.2 (forall₂_bound (List.forall_mem_cons.2 ⟨?_, ?_⟩))
    · exact .inl (.inr ⟨c, hc, rfl⟩)
    · refine fun e he => h e.2 (ModuleSpec.mem_references hc ?_)
      exact List.mem_map_of_mem (List.mem_append_left _ (List.mem_append_left _ he))
  selectors := forall₂_bound fun e he => h e.2 (ModuleSpec.mem_references hc
    (List.mem_map_of_mem (List.mem_append_left _ (List.mem_append_right _ he))))
  classSelectors := forall₂_bound fun e he => h e.2 (ModuleSpec.mem_references hc
    (List.mem_map_of_mem (List.mem_append_right _ he)))
  fields := rfl
  isLegacy := rfl

section Link

variable (image m)

theorem hasFunctions_linked : HasFunctions m (image.linked m).functions := by
  refine ⟨m.missingDestructors, ?_, ?_, fun d => ?_, ?_⟩
  · exact (eraseDups_sublist_nodup _).2.filter _
  · exact List.filter_sublist.trans (eraseDups_sublist_nodup _).1
  · simp [ModuleSpec.missingDestructors, ModuleSpec.functionNames]
  · have hbodies : (image.linked m).functions.map
          (fun f => (f.symbol.name, f.symbol.kind, f.body)) =
        ((definitions m).zipIdx.map Prod.fst).map fun f => (f.name, f.kind, f.body) := by
      rw [linked, place, List.map_map, List.map_map]
      rfl
    rw [hbodies, List.zipIdx_map_fst, definitions, List.map_append, List.map_map]
    rfl

theorem mem_names_linked : name ∈ (image.linked m).exports.map (·.name) ↔ m.Defines name := by
  rw [← ModuleSpec.mem_defined_iff]
  constructor
  · intro h
    rw [exports_linked, List.map_map] at h
    obtain ⟨⟨f, i⟩, he, rfl⟩ := List.mem_map.1 h
    rcases List.mem_append.1 (List.fst_mem_of_mem_zipIdx he) with hf | hf
    · exact List.mem_append_left _ (List.mem_map_of_mem hf)
    · obtain ⟨d, hd, rfl⟩ := List.mem_map.1 hf
      exact List.mem_append_right _ (List.mem_eraseDups.1 (List.mem_filter.1 hd).1)
  · intro h
    obtain ⟨a, ha⟩ := Option.isSome_iff_exists.1 (address?_linked_isSome image h)
    obtain ⟨s, hs, _⟩ := LinkedModule.address?_eq_some_iff.1 ha
    rw [← hs.1]
    exact List.mem_map_of_mem hs.mem

/-- A module calls the names that it defines or imports, each as what it means. -/
theorem target?_linked_iff : (image.linked m).target? name = some a ↔
    (m.Defines name ∨ name ∈ m.imports) ∧ image.Means (image.linked m) name a := by
  have hsites : (image.linked m).target? name = _ := lookup_filterMap
    (fun name => ((image.linked m).address? name).or (image.firstExport? name)) name _
  have hnames : name ∈ ((image.linked m).exports.map (·.name)).eraseDups ++
      m.imports.eraseDups.filter
        (fun s => !((image.linked m).exports.map (·.name)).eraseDups.contains s) ↔
      name ∈ (image.linked m).exports.map (·.name) ∨ name ∈ m.imports := by
    simp only [List.mem_append, List.mem_eraseDups, List.mem_filter, List.contains_eq_mem]
    by_cases hown : name ∈ (image.linked m).exports.map (·.name) <;> simp [hown]
  rw [hsites, means_iff, ← mem_names_linked image, Option.ite_none_right_eq_some]
  exact and_congr_left' hnames

variable {image m}

theorem functionAt?_link (a : Address) : (image.link m).2.functionAt? a =
    (image.functionAt? a).or ((image.linked m).function? a) := by
  simp [functionAt?, link_modules, List.findSome?_append]

theorem Linked.addresses_nodup (h : image.Linked) :
    ((image.linked m).functions.map (·.symbol.address)).Nodup := by
  have hplaced := (h.link m).increasing
  rw [symbols_link, List.pairwise_append] at hplaced
  have haddresses : ((image.linked m).exports.map (·.address)).Nodup :=
    List.pairwise_map.2 (hplaced.2.1.imp fun hlt he => absurd (he ▸ hlt) (Nat.lt_irrefl _))
  rwa [LinkedModule.exports, List.map_map] at haddresses

/-- A new function is placed above everything that is there. -/
theorem Linked.functionAt?_linked (h : image.Linked) {f : LinkedFunction}
    (hf : f ∈ (image.linked m).functions) :
    f.symbol.address ≠ .null ∧ image.functionAt? f.symbol.address = none ∧
      (image.link m).2.functionAt? f.symbol.address = some f := by
  obtain ⟨_, hlow, _⟩ := image.mem_exports_linked m (List.mem_map_of_mem hf)
  have hnone : image.functionAt? f.symbol.address = none := by
    rw [← Option.map_eq_none_iff, functionAt?_symbol]
    refine List.find?_eq_none.2 fun s hs he => ?_
    have hlt := (h.placed s hs).2
    rw [eq_of_beq he] at hlt
    exact Nat.lt_irrefl _ (Nat.lt_of_lt_of_le hlt hlow)
  refine ⟨fun hnull => ?_, hnone, ?_⟩
  · rw [hnull] at hlow
    exact absurd (Nat.lt_of_lt_of_le h.room hlow) (Nat.lt_irrefl 0)
  · rw [functionAt?_link, hnone, Option.none_or]
    cases hfound : (image.linked m).function? f.symbol.address with
    | none => exact absurd (beq_self_eq_true _) (List.find?_eq_none.1 hfound f hf)
    | some g =>
      obtain ⟨hg, hsame⟩ := LinkedModule.mem_of_function? hfound
      rw [List.inj_on_of_nodup_map h.addresses_nodup hg hf hsame]

theorem Linked.joined (h : image.Linked) (hknown : ∀ name ∈ m.references, image.Knows m name) :
    image.Joined m image.nextModule (image.linked m)
      (m.classes.map (image.linkClass { image.linked m with callSites := [], classes := [] }
        image.nextModule)) (image.link m).2 where
  rest := rfl
  number := rfl
  modules := image.link_modules m
  classes := rfl
  name := rfl
  functions := image.hasFunctions_linked m
  owned f hf := (image.mem_exports_linked m (List.mem_map_of_mem hf)).1
  distinct := h.addresses_nodup
  fresh _ hf := h.functionAt?_linked hf
  kept a f hf := by rw [functionAt?_link, hf, Option.some_or]
  callSites _ _ := image.target?_linked_iff m
  bound := List.forall₂_map_right_iff.2
    (List.forall₂_same.2 fun _ hc => boundClass_linkClass hc hknown)
  registered := by
    rw [List.length_map, List.range_eq_range', ← List.zipIdx_map_snd 0 m.classes, List.map_map]
    rfl

end Link

end ManagedImage

namespace Managed

/-- Loading is exact. A module is loaded just if every name that it refers to is its own or
exported, and is refused for the first that is neither, with the process as it was. What a load
adds is the described module and its classes, bound to what the names mean. -/
theorem Started.load_exact {w : Process} (h : Started w) (m : ModuleSpec Body) :
    ((∃ id after, load w m = .ok (id, after)) ↔ ∀ name ∈ m.references, w.image.Knows m name) ∧
    (∀ e, load w m = .error e → (Command.load m).perform w = w ∧
      ∃ name, e = .unresolvedSymbol name m.name ∧ FirstBad (w.image.Knows m) m.references name) ∧
    ∀ id after, load w m = .ok (id, after) → (Command.load m).perform w = after ∧
      after = { w with image := after.image } ∧ ∃ k ls, w.image.Joined m id k ls after.image := by
  rcases w.image.load_cases m with ⟨hload, hknown⟩ | ⟨name, hload, hbad⟩
  · have hdone : load w m = .ok (w.image.nextModule, { w with image := (w.image.link m).2 }) := by
      rw [load, hload]
      rfl
    refine ⟨iff_of_true ⟨_, _, hdone⟩ hknown, fun e he => ?_, fun id after hok => ?_⟩
    · cases hdone.symm.trans he
    · obtain ⟨rfl, rfl⟩ := Prod.mk.inj (Except.ok.inj (hdone.symm.trans hok))
      refine ⟨?_, rfl, _, _, h.valid.linked.joined hknown⟩
      rw [Command.perform, hdone, Command.orElse]
  · have hrefused : load w m = .error (.unresolvedSymbol name m.name) := by
      rw [load, hload]
      rfl
    refine ⟨iff_of_false ?_ hbad.exists_bad, fun e he => ?_, fun id after hok => ?_⟩
    · rintro ⟨id, after, hok⟩
      cases hrefused.symm.trans hok
    · obtain rfl := Except.error.inj (hrefused.symm.trans he)
      refine ⟨?_, name, rfl, hbad⟩
      rw [Command.perform, hrefused, Command.orElse]
    · cases hrefused.symm.trans hok

namespace Joining

def service (name : String) : ModuleSpec Body :=
  { name, functions := [⟨"f", .function, .constant .unit⟩] }

def exporters : Process :=
  (Command.load (service "Second")).perform <|
    (Command.load (service "First")).perform SymbolCache.unloaded

def client (imports : List String) : ModuleSpec Body :=
  { name := "Client"
    functions := [⟨"g", .function, .constant (.int 1)⟩, ⟨"g", .function, .constant (.int 2)⟩]
    imports
    classes := [{ name := "Shape", slots := [("area", "g")], selectors := [("draw", "f")] }] }

theorem started_exporters : Started exporters :=
  .step (.step SymbolCache.started_unloaded (.act (Command.load (service "First")) _))
    (.act (Command.load (service "Second")) _)

/-- The name that is imported means its first export, the name defined twice its last definition. A
module with two unknown imports is refused for the first. -/
theorem load_exact_client :
    (∃ after k ls, load exporters (client ["f"]) = .ok (⟨3⟩, after) ∧
      exporters.image.Joined (client ["f"]) ⟨3⟩ k ls after.image ∧
      CodeImage.callSite? after.image ⟨3⟩ "f" = some ⟨0x1000⟩ ∧
      CodeImage.callSite? after.image ⟨3⟩ "g" = some ⟨0x1030⟩) ∧
    FirstBad (exporters.image.Knows (client ["f", "x", "y"]))
      (client ["f", "x", "y"]).references "x" := by
  obtain ⟨_, _, hloaded⟩ := started_exporters.load_exact (client ["f"])
  obtain ⟨_, hrefused, _⟩ := started_exporters.load_exact (client ["f", "x", "y"])
  constructor
  · obtain ⟨_, _, k, ls, hjoined⟩ := hloaded _ _ rfl
    exact ⟨_, k, ls, rfl, hjoined, rfl, rfl⟩
  · obtain ⟨_, name, he, hfirst⟩ := hrefused (.unresolvedSymbol "x" "Client") rfl
    obtain ⟨rfl, _⟩ := Failure.unresolvedSymbol.inj he
    exact hfirst

end Joining

end Managed

end HotReload
