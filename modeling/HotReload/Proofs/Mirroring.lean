import HotReload.Managed.Tables
import HotReload.Mapped.Image
import HotReload.Proofs.Bisimulation
import HotReload.Proofs.Resolution
import HotReload.Proofs.Sharing
import Mathlib.Data.List.Forall2
import Mathlib.Data.List.Nodup

/-! # A managed image and a mapped one

A managed image keeps its tables itself, a mapped one reads and writes those of its modules. When
the two hold the same tables, every call has the same answer on both and leaves them with the same
tables again.
-/

namespace HotReload

section Lists

variable {α β : Type} {R : α → β → Prop} {xs : List α} {ys : List β}

theorem getElem?_cases (h : List.Forall₂ R xs ys) (n : Nat) :
    xs[n]? = none ∧ ys[n]? = none ∨ ∃ a b, xs[n]? = some a ∧ ys[n]? = some b ∧ R a b := by
  induction h generalizing n with
  | nil => exact .inl ⟨rfl, rfl⟩
  | cons hab _ ih =>
    cases n with
    | zero => exact .inr ⟨_, _, rfl, rfl, hab⟩
    | succ n => exact ih n

theorem forall₂_modify (h : List.Forall₂ R xs ys) (n : Nat) {f : α → α} {g : β → β}
    (hfg : ∀ a b, xs[n]? = some a → ys[n]? = some b → R a b → R (f a) (g b)) :
    List.Forall₂ R (xs.modify n f) (ys.modify n g) := by
  induction h generalizing n with
  | nil => simp
  | cons hab htail ih =>
    cases n with
    | zero => exact .cons (hfg _ _ rfl rfl hab) htail
    | succ n => exact .cons hab (ih n hfg)

end Lists

theorem ManagedImage.modifyModule_id (image : ManagedImage) (m : ModuleId) :
    image.modifyModule m id = image := by
  obtain ⟨n⟩ := m
  cases n with
  | zero => rfl
  | succ n => simp [modifyModule, List.modify_id]

/-- A managed and a mapped module have the same exports, the same targets of call sites and the
same classes. The mapped one has one cell for a name. -/
structure ModuleMirrors (k : LinkedModule) (l : MappedModule) : Prop where
  exports : k.exports = l.symbols
  callSites : ∀ name, k.target? name = l.callSites.lookup name
  cells : (l.callSites.map (·.1)).Nodup
  classes : k.classes = l.classes

/-- A managed and a mapped class have the same descriptor and the same tables. Of a mapped selector
table only the readable entries count. -/
structure ClassMirrors (k : LinkedClass) (l : MappedClass) : Prop where
  info : k.info = l.info
  slots : k.slots.map (·.address) = l.slots
  selectors : ∀ t, k.table t = l.readable t

/-- The two images hold the same tables, and no two exports share an address. That an export names
the module whose export it is holds in every linked image (`Linked.owned`). A cell, a slot array and
a selector table of a mapped image are values of their module or class, so no two of them are the
same memory. -/
structure Mirrors (image : ManagedImage) (other : MappedImage) : Prop where
  modules : List.Forall₂ ModuleMirrors image.modules other.modules
  classes : List.Forall₂ ClassMirrors image.classes other.classes
  distinct : (image.symbols.map (·.address)).Nodup
  owned : ∀ {m k}, image.module? m = some k → ∀ s ∈ k.exports, s.module = m

section Cells

namespace MappedModule

variable {sites : List (String × Address)}

theorem rebindName_names (r : Rebinding) (sites : List (String × Address)) :
    (rebindName r sites).2.map (·.1) = sites.map (·.1) := by
  induction sites with
  | nil => rfl
  | cons e es ih =>
    simp only [rebindName]
    split <;> simp only [List.map_cons, ih]

theorem lookup_rebindName (r : Rebinding) (sites : List (String × Address)) (name : String) :
    (rebindName r sites).2.lookup name =
      if r.name = name then (sites.lookup name).map fun _ => r.address
      else sites.lookup name := by
  induction sites with
  | nil => simp [rebindName]
  | cons e es ih =>
    obtain ⟨n, a⟩ := e
    simp only [rebindName]
    split <;> simp only [List.lookup_cons, ih] <;> grind

/-- With one cell for a name, the name is reported once, if its cell changes. -/
theorem rebindName_reported (r : Rebinding) (h : (sites.map (·.1)).Nodup) :
    (rebindName r sites).1 =
      if (sites.lookup r.name).any (· != r.address) then [r.name] else [] := by
  induction sites with
  | nil => rfl
  | cons e es ih =>
    obtain ⟨n, a⟩ := e
    obtain ⟨hn, hes⟩ := List.nodup_cons.1 h
    simp only [rebindName, ih hes, List.lookup_cons]
    by_cases hr : n = r.name
    · have habsent : es.lookup r.name = none := by
        refine List.lookup_eq_none_iff.2 fun e he => bne_iff_ne.2 fun hne => hn ?_
        exact List.mem_map.2 ⟨e, he, hne.symm.trans hr.symm⟩
      by_cases ha : a = r.address <;> simp [habsent, hr, ha]
    · have hne : (r.name == n) = false := beq_false_of_ne (Ne.symm hr)
      simp [hr, hne]

end MappedModule

theorem ModuleMirrors.rebindName {k : LinkedModule} {l : MappedModule} (h : ModuleMirrors k l)
    (r : Rebinding) {sites : List (String × Address)}
    (hsites : ∀ name, sites.lookup name =
      if r.name = name then (k.target? name).map fun _ => r.address else k.target? name) :
    ModuleMirrors { k with callSites := sites }
      { l with callSites := (MappedModule.rebindName r l.callSites).2 } where
  exports := h.exports
  callSites name := by
    rw [MappedModule.lookup_rebindName, ← h.callSites]
    exact hsites name
  cells := by
    rw [MappedModule.rebindName_names]
    exact h.cells
  classes := h.classes

end Cells

section Tables

theorem addresses_modify (slots : List Slot) (index : Nat) (a : Address) :
    (slots.modify index fun s => { s with address := a }).map (·.address) =
      (slots.map (·.address)).set index a := by
  induction slots generalizing index with
  | nil => simp
  | cons s slots ih =>
    cases index with
    | zero => rfl
    | succ index => simpa using ih index

/-- Unreadable entries are passed over. -/
theorem readable_replaceFirst (selector : String) (a : Address)
    (table : List (RawName × Address)) :
    ((MappedClass.replaceFirst selector a table).filterMap fun e =>
        e.1.text?.map fun s => (s, e.2)) =
      ManagedImage.replaceFirst selector a
        (table.filterMap fun e => e.1.text?.map fun s => (s, e.2)) := by
  induction table with
  | nil => rfl
  | cons e es ih =>
    rw [MappedClass.replaceFirst]
    cases he : e.1.text? with
    | none => simp [he, ih]
    | some s =>
      by_cases hs : s = selector
      · simp [he, hs, ManagedImage.replaceFirst]
      · simp [he, hs, ih, ManagedImage.replaceFirst]

theorem ClassMirrors.replaceFirst {k : LinkedClass} {l : MappedClass} (h : ClassMirrors k l)
    (t : SelectorTable) (selector : String) (a : Address) :
    ClassMirrors (ManagedImage.withSelector t selector a k)
      (match t with
        | .onInstances => { l with selectors := MappedClass.replaceFirst selector a l.selectors }
        | .onClass =>
          { l with classSelectors := MappedClass.replaceFirst selector a l.classSelectors }) := by
  have hread (t' : SelectorTable) : k.table t' = l.readable t' := h.selectors t'
  cases t with
  | onInstances =>
    refine ⟨h.info, h.slots, fun t' => ?_⟩
    cases t' with
    | onInstances =>
      exact (congrArg (ManagedImage.replaceFirst selector a) (hread .onInstances)).trans
        (readable_replaceFirst selector a l.selectors).symm
    | onClass => exact hread .onClass
  | onClass =>
    refine ⟨h.info, h.slots, fun t' => ?_⟩
    cases t' with
    | onInstances => exact hread .onInstances
    | onClass =>
      exact (congrArg (ManagedImage.replaceFirst selector a) (hread .onClass)).trans
        (readable_replaceFirst selector a l.classSelectors).symm

end Tables

section Symbols

/-- With one symbol at an address, a search for it finds this one. -/
theorem find?_address {symbols : List Symbol} (h : (symbols.map (·.address)).Nodup) {a : Address}
    {s : Symbol} :
    symbols.find? (·.address == a) = some s ↔ s ∈ symbols ∧ s.address = a := by
  constructor
  · intro hs
    exact ⟨List.mem_of_find?_eq_some hs, by simpa using List.find?_some hs⟩
  · rintro ⟨hs, ha⟩
    cases ht : symbols.find? (·.address == a) with
    | none => simpa [ha] using List.find?_eq_none.1 ht s hs
    | some t =>
      have hta : t.address = a := by simpa using List.find?_some ht
      rw [List.inj_on_of_nodup_map h (List.mem_of_find?_eq_some ht) hs (hta.trans ha.symm)]

end Symbols

namespace Mirrors

variable {image : ManagedImage} {other : MappedImage}

section Reads

variable (h : Mirrors image other)

include h

theorem module?_cases (m : ModuleId) :
    image.module? m = none ∧ other.module? m = none ∨
      ∃ k l, image.module? m = some k ∧ other.module? m = some l ∧ ModuleMirrors k l := by
  obtain ⟨n⟩ := m
  cases n with
  | zero => exact .inl ⟨rfl, rfl⟩
  | succ n => exact getElem?_cases h.modules n

theorem class?_cases (c : ClassId) :
    image.class? c = none ∧ other.class? c = none ∨
      ∃ k l, image.class? c = some k ∧ other.class? c = some l ∧ ClassMirrors k l :=
  getElem?_cases h.classes c.index

theorem modules_eq : CodeImage.modules image = CodeImage.modules other := by
  simp only [CodeImage.modules, ManagedImage.moduleIds, h.modules.length_eq]

theorem sequence?_eq (m : ModuleId) :
    CodeImage.sequence? image m = CodeImage.sequence? other m := by
  obtain ⟨hk, hl⟩ | ⟨k, l, hk, hl, _⟩ := h.module?_cases m <;> simp [CodeImage.sequence?, hk, hl]

theorem exports_eq (m : ModuleId) : CodeImage.exports image m = CodeImage.exports other m := by
  obtain ⟨hk, hl⟩ | ⟨k, l, hk, hl, hkl⟩ := h.module?_cases m
  · simp [CodeImage.exports, hk, hl]
  · simp [CodeImage.exports, hk, hl, hkl.exports]

theorem address?_eq (m : ModuleId) (name : String) :
    CodeImage.address? image m name = CodeImage.address? other m name := by
  obtain ⟨hk, hl⟩ | ⟨k, l, hk, hl, hkl⟩ := h.module?_cases m
  · simp [CodeImage.address?, hk, hl]
  · simp [CodeImage.address?, hk, hl, LinkedModule.address?, LinkedModule.symbol?,
      MappedModule.address?, hkl.exports]

/-- The managed image searches all its functions, the mapped one the symbols of the module. -/
theorem symbolAt?_eq (m : ModuleId) (a : Address) :
    CodeImage.symbolAt? image m a = CodeImage.symbolAt? other m a := by
  have hmanaged : CodeImage.symbolAt? image m a = (image.symbol? a).filter (·.module == m) := by
    rw [← ManagedImage.functionAt?_symbol]
    rfl
  rw [hmanaged]
  ext s
  have hfound : (image.symbol? a).filter (·.module == m) = some s ↔
      (s ∈ image.symbols ∧ s.address = a) ∧ s.module = m := by
    rw [Option.filter_eq_some_iff, ManagedImage.symbol?, find?_address h.distinct, beq_iff_eq]
  rw [hfound, ManagedImage.mem_symbols]
  obtain ⟨hk, hl⟩ | ⟨k, l, hk, hl, hkl⟩ := h.module?_cases m
  · have hnone : CodeImage.symbolAt? other m a = none := by simp [CodeImage.symbolAt?, hl]
    rw [hnone]
    refine ⟨fun hs => ?_, fun hs => by cases hs⟩
    obtain ⟨⟨⟨m', k, hk', hs⟩, _⟩, hm⟩ := hs
    rw [← hm, h.owned hk' s hs, hk'] at hk
    cases hk
  · have hone : (k.exports.map (·.address)).Nodup := by
      have hall := h.distinct
      rw [ManagedImage.symbols, List.map_flatMap] at hall
      exact (List.nodup_flatMap.1 hall).1 k (ManagedImage.mem_modules hk)
    have hrev : (l.symbols.reverse.map (·.address)).Nodup := by
      rwa [List.map_reverse, List.nodup_reverse, ← hkl.exports]
    have hthere : CodeImage.symbolAt? other m a = some s ↔ s ∈ k.exports ∧ s.address = a := by
      simp only [CodeImage.symbolAt?, hl, Option.bind_some, MappedModule.symbolAt?]
      rw [find?_address hrev, List.mem_reverse, hkl.exports]
    rw [hthere]
    constructor
    · rintro ⟨⟨⟨m', k', hk', hs⟩, ha⟩, hm⟩
      rw [← h.owned hk' s hs, hm, hk] at hk'
      exact ⟨Option.some.inj hk' ▸ hs, ha⟩
    · rintro ⟨hs, ha⟩
      exact ⟨⟨⟨m, k, hk, hs⟩, ha⟩, h.owned hk s hs⟩

theorem callSite?_eq (m : ModuleId) (name : String) :
    CodeImage.callSite? image m name = CodeImage.callSite? other m name := by
  obtain ⟨hk, hl⟩ | ⟨k, l, hk, hl, hkl⟩ := h.module?_cases m
  · simp [CodeImage.callSite?, hk, hl]
  · simp [CodeImage.callSite?, hk, hl, hkl.callSites]

theorem classesIn_eq (m : ModuleId) :
    CodeImage.classesIn image m = CodeImage.classesIn other m := by
  obtain ⟨hk, hl⟩ | ⟨k, l, hk, hl, hkl⟩ := h.module?_cases m
  · simp [CodeImage.classesIn, hk, hl]
  · simp [CodeImage.classesIn, hk, hl, hkl.classes]

theorem infos_eq : image.classes.map (·.info) = other.classes.map (·.info) := by
  have hinfos := h.classes.imp fun _ _ hkl => hkl.info
  rwa [← List.forall₂_eq_eq_eq, List.forall₂_map_left_iff, List.forall₂_map_right_iff]

theorem classesNamed_eq (name : String) :
    CodeImage.classesNamed image name = CodeImage.classesNamed other name := by
  have hmanaged : CodeImage.classesNamed image name =
      ((image.classes.map (·.info)).zipIdx.filter fun e => e.1.name == name).map
        fun e => ⟨e.2⟩ := by
    simp only [CodeImage.classesNamed, ManagedImage.classIdsWhere, List.zipIdx_map,
      List.filter_map, List.map_map]
    rfl
  rw [hmanaged, h.infos_eq]
  simp only [CodeImage.classesNamed, List.zipIdx_map, List.filter_map, List.map_map]
  rfl

theorem info?_eq (c : ClassId) : CodeImage.info? image c = CodeImage.info? other c := by
  obtain ⟨hk, hl⟩ | ⟨k, l, hk, hl, hkl⟩ := h.class?_cases c
  · simp [CodeImage.info?, hk, hl]
  · simp [CodeImage.info?, hk, hl, hkl.info]

theorem slots_eq (c : ClassId) : CodeImage.slots image c = CodeImage.slots other c := by
  obtain ⟨hk, hl⟩ | ⟨k, l, hk, hl, hkl⟩ := h.class?_cases c
  · simp [CodeImage.slots, ManagedImage.slotAddresses, ManagedImage.classOrFail,
      MappedImage.classOrFail, hk, hl, Except.map]
  · simp [CodeImage.slots, ManagedImage.slotAddresses, ManagedImage.classOrFail,
      MappedImage.classOrFail, hk, hl, hkl.slots, Except.map]

theorem selectors_eq (c : ClassId) (t : SelectorTable) :
    CodeImage.selectors image c t = CodeImage.selectors other c t := by
  obtain ⟨hk, hl⟩ | ⟨k, l, hk, hl, hkl⟩ := h.class?_cases c
  · simp [CodeImage.selectors, ManagedImage.classOrFail, MappedImage.classOrFail, hk, hl,
      Except.map]
  · simp [CodeImage.selectors, ManagedImage.classOrFail, MappedImage.classOrFail, hk, hl,
      hkl.selectors, Except.map]

end Reads

section Writes

theorem modifyModule (h : Mirrors image other) (m : ModuleId) {f : LinkedModule → LinkedModule}
    {g : MappedModule → MappedModule} (hf : ∀ k, (f k).unbound = k.unbound)
    (hfg : ∀ k l, image.module? m = some k → other.module? m = some l → ModuleMirrors k l →
      ModuleMirrors (f k) (g l)) :
    Mirrors (image.modifyModule m f) (other.modifyModule m g) := by
  have hrebound := ManagedImage.modifyModule_rebound image m f hf
  refine ⟨?_, ?_, ?_, ?_⟩
  · obtain ⟨n⟩ := m
    cases n with
    | zero => exact h.modules
    | succ n => exact forall₂_modify h.modules n hfg
  · rw [hrebound.classes]
    obtain ⟨n⟩ := m
    cases n <;> exact h.classes
  · rw [ManagedImage.symbols_of_unbound hrebound.unbound]
    exact h.distinct
  · intro m' k' hk' s hs
    obtain ⟨k, hk, hkk⟩ := Option.map_eq_some_iff.1
      ((hrebound.module?_unbound m').symm.trans (congrArg (Option.map _) hk'))
    exact h.owned hk s (by
      rw [show k.exports = k'.exports from congrArg (·.exports) hkk]
      exact hs)

theorem modifyClass (h : Mirrors image other) (c : ClassId) {f : LinkedClass → LinkedClass}
    {g : MappedClass → MappedClass}
    (hfg : ∀ k l, image.class? c = some k → other.class? c = some l → ClassMirrors k l →
      ClassMirrors (f k) (g l)) :
    Mirrors (image.modifyClass c f) (other.modifyClass c g) :=
  ⟨h.modules, forall₂_modify h.classes c.index hfg, h.distinct, h.owned⟩

theorem rebindOne (m : ModuleId) (r : Rebinding) {x : List String × ManagedImage}
    {y : List String × MappedImage} (h : Beside Mirrors x y) :
    Beside Mirrors (ManagedImage.rebindOne m x r) (MappedImage.rebindOne m y r) := by
  obtain ⟨names, image⟩ := x
  obtain ⟨_, other⟩ := y
  obtain ⟨rfl, h⟩ := h
  obtain ⟨hk, hl⟩ | ⟨k, l, hk, hl, hkl⟩ := h.module?_cases m
  · simp only [ManagedImage.rebindOne, MappedImage.rebindOne, hk, hl]
    exact ⟨rfl, h⟩
  have hreported := MappedModule.rebindName_reported r hkl.cells
  rw [← hkl.callSites] at hreported
  by_cases hsame : ∀ a, k.target? r.name = some a → a = r.address
  · -- The managed image leaves the module alone, and the mapped one writes what is there.
    have hmanaged : ManagedImage.rebindOne m (names, image) r =
        (names, image.modifyModule m id) := by
      rw [image.modifyModule_id]
      cases ht : k.target? r.name with
      | none => simp [ManagedImage.rebindOne, hk, ht]
      | some a => simp [ManagedImage.rebindOne, hk, ht, hsame a ht]
    have hnone : (MappedModule.rebindName r l.callSites).1 = [] := by
      rw [hreported, if_neg]
      cases ht : k.target? r.name with
      | none => simp
      | some a => simp [hsame a ht]
    simp only [hmanaged, MappedImage.rebindOne, hl, hnone, List.append_nil]
    refine ⟨rfl, h.modifyModule m (fun _ => rfl) fun k' l' hk' hl' hkl' => ?_⟩
    obtain rfl := Option.some.inj (hk.symm.trans hk')
    obtain rfl := Option.some.inj (hl.symm.trans hl')
    refine hkl'.rebindName r fun name => ?_
    split
    · rename_i hname
      subst hname
      cases ht : k.target? r.name with
      | none => exact ht
      | some a => exact ht.trans (congrArg some (hsame a ht))
    · rfl
  · obtain ⟨a, ha⟩ := Classical.not_forall.1 hsame
    obtain ⟨ht, hne⟩ := Classical.not_imp.1 ha
    have hone : (MappedModule.rebindName r l.callSites).1 = [r.name] := by
      rw [hreported, ht, if_pos]
      simpa using hne
    simp only [ManagedImage.rebindOne, MappedImage.rebindOne, hk, hl, Option.bind_some, ht, hne,
      if_false, hone]
    refine ⟨rfl, h.modifyModule m (fun _ => rfl) fun k' l' hk' hl' hkl' => ?_⟩
    obtain rfl := Option.some.inj (hk.symm.trans hk')
    obtain rfl := Option.some.inj (hl.symm.trans hl')
    exact hkl'.rebindName r fun name => lookup_redirect k.callSites r.name name r.address

theorem writeSlot (h : Mirrors image other) (c : ClassId) (index : Nat) (a : Address) :
    Agree Mirrors (image.writeSlot c index a) (other.writeSlot c index a) := by
  obtain ⟨hk, hl⟩ | ⟨k, l, hk, hl, hkl⟩ := h.class?_cases c
  · simp only [ManagedImage.writeSlot, MappedImage.writeSlot, hk, hl]
    exact rfl
  have hlength : k.slots.length = l.slots.length := by
    simpa using congrArg List.length hkl.slots
  simp only [ManagedImage.writeSlot, MappedImage.writeSlot, hk, hl, hlength]
  by_cases hindex : index < l.slots.length
  · rw [if_pos hindex, if_pos hindex]
    refine h.modifyClass c fun k l _ _ hkl => ⟨hkl.info, ?_, hkl.selectors⟩
    rw [addresses_modify, hkl.slots]
  · rw [if_neg hindex, if_neg hindex]
    exact rfl

theorem replaceSelector (h : Mirrors image other) (c : ClassId) (t : SelectorTable)
    (selector : String) (a : Address) :
    Agree Mirrors (image.replaceSelector c t selector a)
      (other.replaceSelector c t selector a) := by
  obtain ⟨hk, hl⟩ | ⟨k, l, hk, hl, hkl⟩ := h.class?_cases c
  · simp only [ManagedImage.replaceSelector, MappedImage.replaceSelector, hk, hl]
    exact rfl
  simp only [ManagedImage.replaceSelector, MappedImage.replaceSelector, hk, hl, hkl.selectors t]
  by_cases hhas : (l.readable t).any (·.1 == selector)
  · rw [if_pos hhas, if_pos hhas]
    exact h.modifyClass c fun k l _ _ hkl => hkl.replaceFirst t selector a
  · rw [if_neg hhas, if_neg hhas]
    exact rfl

end Writes

/-- Whatever is asked of a managed image and a mapped one that hold the same tables, and whatever is
written into them, they answer alike and hold the same tables afterwards. -/
theorem bisimulation : CodeImage.Bisimulation Mirrors where
  modules h := h.modules_eq
  sequence? h := h.sequence?_eq
  exports h := h.exports_eq
  symbolAt? h := h.symbolAt?_eq
  address? h := h.address?_eq
  callSite? h := h.callSite?_eq
  classesIn h := h.classesIn_eq
  classesNamed h := h.classesNamed_eq
  classCount h := h.classes.length_eq
  info? h := h.info?_eq
  slots h := h.slots_eq
  selectors h := h.selectors_eq
  rebind h m _ := List.foldl_rel (r := Beside Mirrors) ⟨rfl, h⟩
    fun r _ _ _ hxy => rebindOne m r hxy
  writeSlot h := h.writeSlot
  replaceSelector h := h.replaceSelector

/-- In a linked image every export has an address and a module of its own, so the tables are all
that the two images have to share. -/
theorem of_linked (h : image.Linked) (hm : List.Forall₂ ModuleMirrors image.modules other.modules)
    (hc : List.Forall₂ ClassMirrors image.classes other.classes) : Mirrors image other where
  modules := hm
  classes := hc
  distinct := by
    refine List.pairwise_map.2 (h.increasing.imp fun hlt he => ?_)
    rw [he] at hlt
    exact Nat.lt_irrefl _ hlt
  owned := h.owned

/-- A managed image and a mapped one with the same tables cannot be told apart, neither by a call
nor by what patching does with them. -/
theorem same_outcomes :
    CodeImage.Bisimulation Mirrors ∧
    ∀ {image : ManagedImage} {other : MappedImage}, Mirrors image other →
      (∀ name, CodeImage.find? image name = CodeImage.find? other name) ∧
      (∀ (t : Interposition) (preserve : Bool) (m : ModuleId),
        Agree (Interposition.Absorbed.Alike Mirrors) (t.absorb preserve image m)
          (t.absorb preserve other m)) ∧
      (∀ (policy : SlotPolicy) (cache : SymbolCache) (old new : ClassId) (m : ModuleId),
        Agree (SlotPass.Alike Mirrors) (policy.patch cache image old new m)
          (policy.patch cache other old new m)) ∧
      (∀ (policy : SlotPolicy) (cache : SymbolCache) (c : ClassId) (m : ModuleId),
        Agree (SlotPass.Alike Mirrors) (policy.patchInPlace cache image c m)
          (policy.patchInPlace cache other c m)) ∧
      ∀ (old new : ClassId) (accepts : String → Bool),
        Beside Mirrors (Swizzle.swizzle image old new accepts)
          (Swizzle.swizzle other old new accepts) :=
  ⟨bisimulation, fun h =>
    ⟨bisimulation.find? h, Interposition.absorb_alike bisimulation h,
      SlotPolicy.patch_alike bisimulation h, SlotPolicy.patchInPlace_alike bisimulation h,
      Swizzle.swizzle_alike bisimulation h⟩⟩

section TwoVersions

def pointSpec : ModuleSpec Body :=
  oneClass { name := "P", slots := [("x", "P.x")], selectors := [("x", "P.x")] } [("P.x", 1)]

def methodName : RawName := ⟨some [0x50, 0x2e, 0x78]⟩

def destructorName : RawName := ⟨some [0x50, 0x2e, 0x64, 0x65, 0x69, 0x6e, 0x69, 0x74]⟩

/-- The same class by its manifest, with its cells in another order and a selector that is no
text. -/
def pointManifest (start : Nat) : Manifest :=
  { name := ⟨some [0x50]⟩
    symbols := .ofList
      [⟨methodName, ⟨start⟩, SymbolKind.method.code⟩,
        ⟨destructorName, ⟨start + 0x10⟩, SymbolKind.destructor.code⟩]
    callSites := .ofList
      [⟨destructorName, some ⟨start + 0x10⟩⟩, ⟨methodName, some ⟨start⟩⟩]
    classes := .ofList
      [{ name := ⟨some [0x50]⟩
         slots := .ofList [⟨start + 0x10⟩, ⟨start⟩]
         selectors := .ofList [(⟨some [0xff]⟩, ⟨start⟩), (⟨some [0x78]⟩, ⟨start⟩)] }] }

def managedTwice : ManagedImage := (((ManagedImage.empty false).link pointSpec).2.link pointSpec).2

def mappedTwice : MappedImage :=
  match ({} : MappedImage).register ⟨[0x61]⟩ (pointManifest 0x1000) with
  | .error _ => {}
  | .ok (_, once) =>
    match once.register ⟨[0x62]⟩ (pointManifest 0x1020) with
    | .error _ => {}
    | .ok (_, twice) => twice

theorem lookup_swap {n n' : String} (h : n ≠ n') (a a' : Address) (name : String) :
    [(n, a), (n', a')].lookup name = [(n', a'), (n, a)].lookup name := by
  simp only [List.lookup_cons, List.lookup_nil]
  by_cases hn : name = n
  · subst hn
    have hne : (name == n') = false := beq_false_of_ne h
    simp [hne]
  · have hne : (name == n) = false := beq_false_of_ne hn
    simp [hne]

theorem mirrors_twice : Mirrors managedTwice mappedTwice := by
  refine of_linked (((ManagedImage.linked_empty false).link pointSpec).link pointSpec) ?_ ?_
  · refine .cons ⟨by decide, ?_, by decide, by decide⟩
      (.cons ⟨by decide, ?_, by decide, by decide⟩ .nil)
    · exact lookup_swap (by decide) _ _
    · exact lookup_swap (by decide) _ _
  · refine .cons ⟨by decide, by decide, ?_⟩ (.cons ⟨by decide, by decide, ?_⟩ .nil)
    · intro t
      cases t <;> decide
    · intro t
      cases t <;> decide

/-- Patching the first version with the second redirects its one method in the managed image, and so
it does in the mapped one. -/
theorem same_outcomes_twice :
    Mirrors managedTwice mappedTwice ∧
    ∃ p q, (SlotPolicy.mk {} false).patch {} managedTwice ⟨0⟩ ⟨1⟩ ⟨2⟩ = .ok p ∧
      (SlotPolicy.mk {} false).patch {} mappedTwice ⟨0⟩ ⟨1⟩ ⟨2⟩ = .ok q ∧
      p.outcome.written = 1 ∧ q.outcome.written = 1 ∧ Mirrors p.image q.image ∧
      CodeImage.slots q.image ⟨0⟩ = .ok [⟨0x1010⟩, ⟨0x1020⟩] := by
  obtain ⟨hcalls, hresults⟩ := same_outcomes
  obtain ⟨_, _, hpatch, _⟩ := hresults mirrors_twice
  have hagree := hpatch ⟨{}, false⟩ {} ⟨0⟩ ⟨1⟩ ⟨2⟩
  obtain ⟨p, hp, hwritten, hslots⟩ : ∃ p,
      (SlotPolicy.mk {} false).patch {} managedTwice ⟨0⟩ ⟨1⟩ ⟨2⟩ = .ok p ∧
        p.outcome.written = 1 ∧ CodeImage.slots p.image ⟨0⟩ = .ok [⟨0x1010⟩, ⟨0x1020⟩] :=
    ⟨_, rfl, by decide, by decide⟩
  rw [hp] at hagree
  cases hq : (SlotPolicy.mk {} false).patch {} mappedTwice ⟨0⟩ ⟨1⟩ ⟨2⟩ with
  | error e =>
    rw [hq] at hagree
    exact hagree.elim
  | ok q =>
    rw [hq] at hagree
    obtain ⟨himage, _, houtcome⟩ := hagree
    refine ⟨mirrors_twice, p, q, hp, rfl, hwritten, houtcome ▸ hwritten, himage, ?_⟩
    rw [← hcalls.slots himage]
    exact hslots

end TwoVersions

end Mirrors

end HotReload
