import HotReload.Proofs.Dispatch
import HotReload.Proofs.Swizzling

/-! # No dangling addresses

In a closed image every address in a slot, a selector table or a call site is that of a symbol. A
module is refused when it refers to a name that nobody defines, so linking adds no other address,
and patching and redirecting copy addresses that are there.
-/

namespace HotReload

open Managed (Process)

/-- Every address of the class has the property, and the first slot is the destructor. -/
structure LinkedClass.Closed (P : Address → Prop) (k : LinkedClass) : Prop where
  slots : ∀ s ∈ k.slots, P s.address
  selectors : ∀ t, ∀ e ∈ k.table t, P e.2
  destructor : (k.slots.map (·.name)).head? = some ClassSpec.destructorSlot

namespace ManagedImage

def Defines (image : ManagedImage) (a : Address) : Prop := ∃ s ∈ image.symbols, s.address = a

structure Closed (image : ManagedImage) : Prop where
  classes : ∀ k ∈ image.classes, k.Closed image.Defines
  callSites : ∀ m name a, CodeImage.callSite? image m name = some a → image.Defines a

variable {image after : ManagedImage} {a : Address}

theorem Closed.class? (h : image.Closed) {c : ClassId} {k : LinkedClass}
    (hk : image.class? c = some k) : k.Closed image.Defines :=
  h.classes k (List.mem_of_getElem? hk)

theorem defines_of_symbol? {s : Symbol} (h : image.symbol? a = some s) : image.Defines a :=
  ⟨s, mem_of_symbol? h, address_of_symbol? h⟩

theorem defines_of_address? {k : LinkedModule} (hk : k ∈ image.modules) {name : String}
    (h : k.address? name = some a) : image.Defines a := by
  obtain ⟨s, hs, _, rfl, _⟩ := LinkedModule.exists_of_address? false h
  exact ⟨s, List.mem_flatMap.2 ⟨k, hk, hs⟩, rfl⟩

theorem defines_of_module_address? {m : ModuleId} {name : String}
    (h : CodeImage.address? image m name = some a) : image.Defines a := by
  obtain ⟨k, hk, h⟩ := Option.bind_eq_some_iff.1 h
  exact defines_of_address? (mem_modules hk) h

theorem defines_of_firstExport? {name : String} (h : image.firstExport? name = some a) :
    image.Defines a := by
  obtain ⟨k, hk, h⟩ := List.exists_of_findSome?_eq_some h
  exact defines_of_address? hk h

theorem Defines.of_symbols (h : image.Defines a) (hs : after.symbols = image.symbols) :
    after.Defines a := by
  rwa [Defines, hs]

theorem Defines.grow (h : image.Defines a) {more : List Symbol}
    (hs : after.symbols = image.symbols ++ more) : after.Defines a := by
  obtain ⟨s, hin, ha⟩ := h
  exact ⟨s, hs ▸ List.mem_append_left _ hin, ha⟩

end ManagedImage

theorem LinkedClass.Closed.mono {P Q : Address → Prop} {k : LinkedClass} (h : k.Closed P)
    (hpq : ∀ a, P a → Q a) : k.Closed Q where
  slots s hs := hpq _ (h.slots s hs)
  selectors t e he := hpq _ (h.selectors t e he)
  destructor := h.destructor

theorem LinkedClass.table_specialized (k : LinkedClass) (name : String) (t : SelectorTable) :
    (k.specialized name).table t = k.table t := by
  cases t <;> rfl

section Link

namespace ModuleSpec

/-- What a module defines, its functions or the linker's destructors, is placed. -/
theorem mem_definitions {m : ModuleSpec Body} {name : String} (h : name ∈ m.defined) :
    ∃ f ∈ ManagedImage.definitions m, f.name = name := by
  rcases List.mem_append.1 h with h | h
  · obtain ⟨f, hf, rfl⟩ := List.mem_map.1 h
    exact ⟨f, List.mem_append_left _ hf, rfl⟩
  · by_cases hown : name ∈ m.functionNames
    · obtain ⟨f, hf, rfl⟩ := List.mem_map.1 hown
      exact ⟨f, List.mem_append_left _ hf, rfl⟩
    · have hmissing : name ∈ m.missingDestructors :=
        List.mem_filter.2 ⟨List.mem_eraseDups.2 h, by simpa using hown⟩
      exact ⟨_, List.mem_append_right _ (List.mem_map_of_mem hmissing), rfl⟩

theorem mem_references {m : ModuleSpec Body} {c : ClassSpec} {name : String} (hc : c ∈ m.classes)
    (h : name ∈ c.references) : name ∈ m.references :=
  List.mem_append_right _ (List.mem_flatMap.2 ⟨c, hc, h⟩)

end ModuleSpec

namespace ManagedImage

variable {image : ManagedImage} {m : ModuleSpec Body} {name : String}

theorem address?_linked_isSome (image : ManagedImage) (h : name ∈ m.defined) :
    ((image.linked m).address? name).isSome = true := by
  obtain ⟨f, hf, rfl⟩ := ModuleSpec.mem_definitions h
  obtain ⟨i, hi⟩ := List.getElem?_of_mem hf
  have hin : ∃ s ∈ (image.linked m).exports, s.name = f.name := by
    rw [exports_linked]
    exact ⟨_, List.mem_map.2 ⟨(f, i), List.mem_zipIdx_iff_getElem?.2 hi, rfl⟩, rfl⟩
  obtain ⟨s, hs, hname⟩ := hin
  simp only [LinkedModule.address?, LinkedModule.symbol?, Option.isSome_map, List.find?_isSome]
  exact ⟨s, List.mem_reverse.2 hs, beq_iff_eq.2 hname⟩

theorem defines_of_target {a : Address}
    (h : ((image.linked m).address? name).or (image.firstExport? name) = some a) :
    (image.link m).2.Defines a := by
  rcases Option.or_eq_some_iff.1 h with h | ⟨_, h⟩
  · exact defines_of_address? (mem_modules (module?_nextModule image m)) h
  · exact (defines_of_firstExport? h).grow (symbols_link image m)

theorem target_isSome (h : name ∈ m.defined ∨ (image.firstExport? name).isSome = true) :
    (((image.linked m).address? name).or (image.firstExport? name)).isSome = true := by
  rw [Option.isSome_or, Bool.or_eq_true]
  exact h.imp_left (address?_linked_isSome image)

/-- Every name that linking binds is defined: the check before covers what the tables refer to, and
the linker adds the destructors. -/
theorem defines_bindName (hresolved : image.unresolved? m = none)
    (h : name ∈ m.references ∨ name ∈ m.defined) :
    (image.link m).2.Defines (image.bindName (image.linked m) name) := by
  have hknown : name ∈ m.defined ∨ (image.firstExport? name).isSome = true := by
    refine or_iff_not_imp_left.2 fun hown => ?_
    have hfound := List.find?_eq_none.1 hresolved name (h.resolve_right hown)
    simpa [hown, Option.isSome_iff_ne_none] using hfound
  obtain ⟨a, ha⟩ := Option.isSome_iff_exists.1 (target_isSome hknown)
  rw [bindName, ha]
  exact defines_of_target ha

theorem closed_linkClass (hresolved : image.unresolved? m = none) {spec : ClassSpec}
    (hspec : spec ∈ m.classes) :
    (image.linkClass { image.linked m with callSites := [], classes := [] } image.nextModule
      spec).Closed (image.link m).2.Defines := by
  have htable {table : List (String × String)} (htable : ∀ e ∈ table, e.2 ∈ spec.references)
      {e : String × String} (he : e ∈ table) :
      (image.link m).2.Defines (image.bindName (image.linked m) e.2) :=
    defines_bindName hresolved (.inl (ModuleSpec.mem_references hspec (htable e he)))
  have hdestructor : spec.destructor ∈ m.defined :=
    List.mem_append_right _ (List.mem_map_of_mem hspec)
  constructor
  case slots =>
    intro s hs
    simp only [linkClass, List.map_map, List.map_cons, List.mem_cons, List.mem_map] at hs
    rcases hs with rfl | ⟨e, he, rfl⟩
    · exact defines_bindName hresolved (.inr hdestructor)
    · refine htable (fun e he => ?_) he
      exact List.mem_map_of_mem (List.mem_append_left _ (List.mem_append_left _ he))
  case selectors =>
    intro t e he
    cases t with
    | onInstances =>
      obtain ⟨f, hf, rfl⟩ := List.mem_map.1 he
      refine htable (fun e he => ?_) hf
      exact List.mem_map_of_mem (List.mem_append_left _ (List.mem_append_right _ he))
    | onClass =>
      obtain ⟨f, hf, rfl⟩ := List.mem_map.1 he
      refine htable (fun e he => ?_) hf
      exact List.mem_map_of_mem (List.mem_append_right _ he)
  case destructor => rfl

/-- The call sites of a module lead to what it defines or imports. -/
theorem defines_of_target_linked {a : Address} (h : (image.linked m).target? name = some a) :
    (image.link m).2.Defines a := by
  obtain ⟨name', _, ha⟩ := List.mem_filterMap.1 (mem_of_lookup h)
  obtain ⟨b, hb, he⟩ := Option.map_eq_some_iff.1 ha
  obtain ⟨_, rfl⟩ := Prod.mk.inj he
  exact defines_of_target hb

theorem Closed.link (h : image.Closed) (hresolved : image.unresolved? m = none) :
    (image.link m).2.Closed where
  classes := by
    intro k hk
    rcases List.mem_append.1 hk with hk | hk
    · exact (h.classes k hk).mono fun _ ha => ha.grow (symbols_link image m)
    · obtain ⟨spec, hspec, rfl⟩ := List.mem_map.1 hk
      exact closed_linkClass hresolved hspec
  callSites := by
    intro id name a ha
    obtain ⟨k, hk, ha⟩ := Option.bind_eq_some_iff.1 ha
    rcases image.module?_link m hk with hk | ⟨rfl, rfl⟩
    · exact (h.callSites id name a (Option.bind_eq_some_iff.2 ⟨k, hk, ha⟩)).grow
        (symbols_link image m)
    · exact defines_of_target_linked ha

theorem Closed.load {after : ManagedImage} {id : ModuleId} (h : image.Closed)
    (hload : image.load m = .ok (id, after)) : after.Closed := by
  cases hresolved : image.unresolved? m with
  | some name => simp [ManagedImage.load, hresolved] at hload
  | none =>
    obtain ⟨_, rfl⟩ := load_eq hload
    exact h.link hresolved

/-- A specialization has the tables of its definition. -/
theorem Closed.addClass (h : image.Closed) {k : LinkedClass} (hk : k ∈ image.classes)
    (name : String) : (image.addClass (k.specialized name)).Closed where
  classes := by
    intro l hl
    rcases List.mem_append.1 hl with hl | hl
    · exact h.classes l hl
    · obtain rfl := List.mem_singleton.1 hl
      have hclosed := h.classes k hk
      refine ⟨hclosed.slots, fun t e he => ?_, hclosed.destructor⟩
      rw [LinkedClass.table_specialized] at he
      exact hclosed.selectors t e he
  callSites := h.callSites

theorem closed_empty (hasHook : Bool) : (ManagedImage.empty hasHook).Closed where
  classes k hk := absurd hk List.not_mem_nil
  callSites m name a ha := by
    obtain ⟨k, hk, _⟩ := Option.bind_eq_some_iff.1 ha
    exact absurd (mem_modules hk) List.not_mem_nil

end ManagedImage

end Link

section Patch

variable {policy : SlotPolicy} {rules : PatchRules} {base image : ManagedImage} {m : ModuleId}
  {d : ClassId} {i : Nat} {a b : Address}

theorem SlotPolicy.Names.defines (h : policy.Names base) {name : String}
    (ha : policy.table.address? name = some a) : base.Defines a := by
  obtain ⟨s, hs, _⟩ := h name a ha
  exact ManagedImage.defines_of_symbol? hs

/-- Wherever a patch leads a slot, there is a symbol. -/
theorem Leads.defines (h : Leads policy rules base m d i a b) (hnames : policy.Names base)
    (ha : base.Defines a) : base.Defines b := by
  cases h with
  | kept => exact ha
  | @brought _ _ _ wanted s _ _ _ _ _ _ _ _ hs _ =>
    have hwanted := ManagedImage.defines_of_symbol? hs
    rw [SlotPolicy.newest]
    split
    · exact hwanted
    · cases htable : policy.table.address? s.name with
      | none => exact hwanted
      | some b => exact hnames.defines htable
  | refreshed _ =>
    rw [SlotPolicy.inPlace]
    split
    · exact ha
    · cases hr : policy.refreshed? base m a with
      | none => exact ha
      | some b =>
        obtain ⟨s, _, _, hb⟩ := SlotPolicy.refreshed?_eq_some.1 hr
        rcases Option.or_eq_some_iff.1 hb with hb | ⟨_, hb⟩
        · exact ManagedImage.defines_of_module_address? hb
        · exact hnames.defines hb

namespace ManagedImage

/-- A patch leaves an image closed: slots are led to symbols, and entries of selector tables are
copied from the module's own classes. -/
theorem Closed.patched {D : ClassId → Prop} (h : base.Closed) (hconfined : base.Confined D image)
    (hnames : policy.Names base) (hled : Led policy rules base m image)
    (hredirected : Redirected (OffersEntry base m) base image) : image.Closed := by
  have hstay {a : Address} (ha : base.Defines a) : image.Defines a :=
    ha.of_symbols hconfined.symbols
  constructor
  case classes =>
    intro l hl
    obtain ⟨n, hn⟩ := List.getElem?_of_mem hl
    have hl : image.class? ⟨n⟩ = some l := hn
    obtain ⟨hnone, _⟩ | ⟨l', k, hl', hk, hblank⟩ := hconfined.class?_cases ⟨n⟩
    · cases hnone.symm.trans hl
    obtain rfl := Option.some.inj (hl.symm.trans hl')
    have hclosed := h.class? hk
    constructor
    case slots =>
      intro s hs
      obtain ⟨i, hi⟩ := List.getElem?_of_mem hs
      have hlength := LinkedClass.length_of_blank hblank
      obtain ⟨r, hr⟩ : ∃ r, k.slots[i]? = some r := by
        have hlt := (List.getElem?_eq_some_iff.1 hi).1
        exact ⟨_, List.getElem?_eq_getElem (hlength ▸ hlt)⟩
      obtain ⟨b, hb, hleads⟩ := hled ⟨n⟩ i r.address (by simp [slotAt?_eq hk, hr])
      obtain rfl : s.address = b := by simpa [slotAt?_eq hl, hi] using hb
      exact hstay (hleads.defines hnames (hclosed.slots r (List.mem_of_getElem? hr)))
    case selectors =>
      intro t e he
      obtain ⟨j, hj⟩ := List.getElem?_of_mem he
      obtain ⟨selector, b⟩ := e
      obtain ⟨⟨selector', a⟩, hr⟩ : ∃ r, (k.table t)[j]? = some r := by
        have hlength := congrArg (fun k => ((k.table t).map (·.1)).length) hblank
        simp only [LinkedClass.table_blank, List.length_map] at hlength
        have hlt := (List.getElem?_eq_some_iff.1 hj).1
        exact ⟨_, List.getElem?_eq_getElem (hlength ▸ hlt)⟩
      obtain ⟨b', hb, hcases⟩ := hredirected ⟨n⟩ t j selector' a (by simp [entryAt?, hk, hr])
      obtain ⟨rfl, rfl⟩ : selector = selector' ∧ b = b' := by
        simpa [entryAt?, hl, hj] using hb
      rcases hcases with rfl | ⟨c, _, k', hk', hin⟩
      · exact hstay (hclosed.selectors t _ (List.mem_of_getElem? hr))
      · exact hstay ((h.class? hk').selectors t _ hin)
    case destructor =>
      have hslots : l.blank.slots.map (·.name) = k.blank.slots.map (·.name) := by rw [hblank]
      have hdestructor := hclosed.destructor
      simp only [LinkedClass.blank, List.map_map, Function.comp_def] at hslots
      rwa [hslots]
  case callSites =>
    intro m name a ha
    rw [hconfined.callSite?] at ha
    exact hstay (h.callSites m name a ha)

end ManagedImage

end Patch

section Absorb

variable {image : ManagedImage} {m : ModuleId} {t : Interposition} {preserve : Bool}
  {done : Interposition.Absorbed ManagedImage}

/-- Taking a module in leaves a call site alone, or leads it to the entry of its name. -/
theorem Interposition.callSite?_absorb_cases (hd : t.Distinct)
    (h : t.absorb preserve image m = .ok done) (other : ModuleId) (name : String) :
    CodeImage.callSite? done.image other name = CodeImage.callSite? image other name ∨
      CodeImage.callSite? done.image other name =
        (CodeImage.callSite? image other name).map fun a => (done.table.address? name).getD a := by
  by_cases hm : other = m
  · subst hm
    exact .inr (callSite?_absorb_self hd h name)
  · by_cases hp : Provides preserve image m name
    · exact .inr (callSite?_absorb_of_provides h hm hp)
    · exact .inl (callSite?_absorb_of_not_provides h hm hp)

namespace ManagedImage

theorem Closed.absorbed (h : image.Closed) (hd : t.Distinct)
    (hnames : SlotPolicy.Names ⟨t, preserve⟩ image) (hdone : t.absorb preserve image m = .ok done) :
    done.image.Closed := by
  have hrebound := Interposition.absorb_rebound hdone
  have hstay {a : Address} (ha : image.Defines a) : done.image.Defines a :=
    ha.of_symbols (symbols_of_unbound hrebound.unbound)
  have htable {name : String} {a : Address} (ha : done.table.address? name = some a) :
      image.Defines a := by
    rcases Interposition.address?_absorb hdone ha with ha | ⟨s, hs, _, rfl⟩
    · exact hnames.defines ha
    · exact ⟨s, mem_symbols_of_exports hs, rfl⟩
  constructor
  case classes =>
    intro k hk
    rw [hrebound.classes] at hk
    exact (h.classes k hk).mono fun _ => hstay
  case callSites =>
    intro other name a ha
    rcases Interposition.callSite?_absorb_cases hd hdone other name with hsame | hled
    · rw [hsame] at ha
      exact hstay (h.callSites other name a ha)
    · rw [hled] at ha
      obtain ⟨b, hb, rfl⟩ := Option.map_eq_some_iff.1 ha
      cases hentry : done.table.address? name with
      | none => exact hstay (h.callSites other name b hb)
      | some a => exact hstay (htable hentry)

end ManagedImage

end Absorb

end HotReload
