import HotReload.Mapped.Image
import HotReload.Proofs.Decoding
import Mathlib.Data.List.Forall2

/-! # Manifests that are registered

A manifest is registered exactly if all of its records are well-formed; then the image has one more
module, which mirrors them. Otherwise the first malformed record is named, and nothing has changed.
-/

namespace HotReload

/-- The bytes of the name, up to the first zero, are the text. -/
def RawName.Spells (n : RawName) (s : String) : Prop :=
  ∃ bytes, n.bytes? = some bytes ∧ (bytes.takeWhile (· != 0)).toByteArray = s.toByteArray

/-- The name is not null, and its bytes up to the first zero are well-formed. -/
def RawName.IsText (n : RawName) : Prop :=
  ∃ bytes, n.bytes? = some bytes ∧ (bytes.takeWhile (· != 0)).toByteArray.IsValidUTF8

theorem RawName.text?_eq_some_iff {n : RawName} {s : String} : n.text? = some s ↔ n.Spells s := by
  rw [text?, Option.bind_eq_some_iff, Spells]
  simp only [Text.Utf8.decode?_eq_some_iff]

theorem RawName.exists_text?_iff {n : RawName} : (∃ s, n.text? = some s) ↔ n.IsText := by
  simp only [text?, Option.bind_eq_some_iff, IsText, ← Text.Utf8.exists_decode?_iff]
  exact ⟨fun ⟨s, bytes, hb, hs⟩ => ⟨bytes, hb, s, hs⟩, fun ⟨bytes, hb, s, hs⟩ => ⟨s, bytes, hb, hs⟩⟩

inductive Record where
  | symbol (r : RawSymbol)
  | callSite (r : RawCallSite)
  | cls (r : RawClass)

namespace Record

def WellFormed : Record → Prop
  | symbol r => r.name.IsText ∧ ∃ kind : SymbolKind, kind.code = r.kind
  | callSite r => r.name.IsText ∧ r.cell ≠ none
  | cls r => r.name.IsText ∧ (r.slots.isNull = false ∨ r.slots.count = 0)

def complaint : Record → String
  | symbol r => match r.name.text? with
    | none => "symbol with a null or non-UTF-8 name"
    | some name => "symbol " ++ name ++ " has unknown kind " ++ toString r.kind
  | callSite r => match r.name.text? with
    | none => "call site with a null or non-UTF-8 name"
    | some name => "call site " ++ name ++ " has no cell"
  | cls r => match r.name.text? with
    | none => "class with a null or non-UTF-8 name"
    | some name => "class " ++ name ++ " has no slot array"

end Record

/-- The records of a manifest in the order in which they are read; null lists have none. -/
def Manifest.records (m : Manifest) : List Record :=
  m.symbols.items.map .symbol ++ m.callSites.items.map .callSite ++ m.classes.items.map .cls

/-- The first of a list that is not as it should be. -/
def FirstBad {α : Type} (good : α → Prop) (l : List α) (a : α) : Prop :=
  ∃ before after, l = before ++ a :: after ∧ (∀ x ∈ before, good x) ∧ ¬good a

namespace FirstBad

variable {α β : Type} {good : α → Prop} {l l' : List α} {a : α}

theorem map {good : β → Prop} {f : α → β} (h : FirstBad (fun x => good (f x)) l a) :
    FirstBad good (l.map f) (f a) := by
  obtain ⟨before, after, rfl, hbefore, ha⟩ := h
  refine ⟨before.map f, after.map f, by simp, ?_, ha⟩
  exact List.forall_mem_map.2 hbefore

theorem append (h : FirstBad good l a) (l' : List α) : FirstBad good (l ++ l') a := by
  obtain ⟨before, after, rfl, hbefore, ha⟩ := h
  exact ⟨before, after ++ l', by simp, hbefore, ha⟩

theorem prepend (h : FirstBad good l a) (hl : ∀ x ∈ l', good x) : FirstBad good (l' ++ l) a := by
  obtain ⟨before, after, rfl, hbefore, ha⟩ := h
  refine ⟨l' ++ before, after, by simp, ?_, ha⟩
  exact List.forall_mem_append.2 ⟨hl, hbefore⟩

theorem exists_bad (h : FirstBad good l a) : ¬∀ x ∈ l, good x := by
  obtain ⟨before, after, rfl, _, ha⟩ := h
  exact fun hall => ha (hall a (by simp))

end FirstBad

/-- A reader takes exactly the records that are good; a result mirrors its record. -/
structure Reads {α β : Type} (read : α → Except String β) (good : α → Prop)
    (complaint : α → String) (mirrors : α → β → Prop) : Prop where
  ok : ∀ a, good a → ∃ b, read a = .ok b ∧ mirrors a b
  error : ∀ a, ¬good a → read a = .error (complaint a)

/-- A list of records is read as a whole, or up to the first bad one. -/
theorem Reads.mapM {α β : Type} {read : α → Except String β} {good : α → Prop}
    {complaint : α → String} {mirrors : α → β → Prop} (h : Reads read good complaint mirrors)
    (l : List α) :
    (∃ out, l.mapM read = .ok out ∧ (∀ a ∈ l, good a) ∧ List.Forall₂ mirrors l out) ∨
      ∃ a, FirstBad good l a ∧ l.mapM read = .error (complaint a) := by
  induction l with
  | nil => exact .inl ⟨[], rfl, fun a ha => absurd ha List.not_mem_nil, .nil⟩
  | cons a l ih =>
    rw [List.mapM_cons]
    by_cases ha : good a
    · obtain ⟨b, hb, hmirrors⟩ := h.ok a ha
      rw [hb]
      rcases ih with ⟨out, hout, hgood, hall⟩ | ⟨bad, hbad, herror⟩
      · refine .inl ⟨b :: out, ?_, List.forall_mem_cons.2 ⟨ha, hgood⟩, .cons hmirrors hall⟩
        rw [hout]
        rfl
      · have hhead : ∀ x ∈ [a], good x := by simpa using ha
        refine .inr ⟨bad, hbad.prepend hhead, ?_⟩
        rw [herror]
        rfl
    · refine .inr ⟨a, ⟨[], l, rfl, fun x hx => absurd hx List.not_mem_nil, ha⟩, ?_⟩
      rw [h.error a ha]
      rfl

structure RawSymbol.Mirrored (id : ModuleId) (r : RawSymbol) (s : Symbol) : Prop where
  name : r.name.Spells s.name
  address : s.address = r.address
  kind : s.kind.code = r.kind
  module : s.module = id

/-- The call site is what the record says, and its cell holds what it held. -/
structure RawCallSite.Mirrored (r : RawCallSite) (e : String × Address) : Prop where
  name : r.name.Spells e.1
  cell : r.cell = some e.2

structure RawClass.Mirrored (id : ModuleId) (r : RawClass) (k : MappedClass) : Prop where
  name : r.name.Spells k.info.name
  module : k.info.module = id
  superclass : ∀ s, k.info.superclass = some s ↔ r.superclass.Spells s
  size : k.info.size = r.size
  addressPoint : k.info.addressPoint = r.addressPoint
  isGeneric : k.info.isGeneric = r.flags.testBit 0
  derivesFromGeneric : k.info.derivesFromGeneric = r.flags.testBit 1
  isTestCase : k.info.isTestCase = r.flags.testBit 2
  slots : k.slots = r.slots.items
  selectors : k.selectors = r.selectors.items
  classSelectors : k.classSelectors = r.classSelectors.items

theorem SymbolKind.ofCode?_eq_some_iff {n : Nat} {k : SymbolKind} :
    ofCode? n = some k ↔ k.code = n := by
  constructor
  · intro h
    obtain ⟨hn, rfl⟩ := List.getElem?_eq_some_iff.1 h
    have hcodes : ∀ i : Fin all.length, (all.get i).code = i := by decide
    exact hcodes ⟨n, hn⟩
  · rintro rfl
    exact ofCode?_code k

namespace MappedImage

theorem reads_symbol (id : ModuleId) : Reads (readSymbol id) (fun r => (Record.symbol r).WellFormed)
    (fun r => (Record.symbol r).complaint) (RawSymbol.Mirrored id) where
  ok r hr := by
    obtain ⟨hname, kind, hkind⟩ := hr
    obtain ⟨name, hname⟩ := RawName.exists_text?_iff.2 hname
    refine ⟨⟨name, r.address, id, kind⟩, ?_, RawName.text?_eq_some_iff.1 hname, rfl, hkind, rfl⟩
    simp only [readSymbol, hname, SymbolKind.ofCode?_eq_some_iff.2 hkind]
  error r hr := by
    simp only [readSymbol, Record.complaint]
    cases hname : r.name.text? with
    | none => rfl
    | some name =>
      cases hkind : SymbolKind.ofCode? r.kind with
      | none => rfl
      | some kind =>
        exact absurd ⟨RawName.exists_text?_iff.1 ⟨name, hname⟩, kind,
          SymbolKind.ofCode?_eq_some_iff.1 hkind⟩ hr

theorem reads_callSite : Reads readCallSite (fun r => (Record.callSite r).WellFormed)
    (fun r => (Record.callSite r).complaint) RawCallSite.Mirrored where
  ok r hr := by
    obtain ⟨hname, hcell⟩ := hr
    obtain ⟨name, hname⟩ := RawName.exists_text?_iff.2 hname
    obtain ⟨a, hcell⟩ := Option.ne_none_iff_exists'.1 hcell
    refine ⟨(name, a), ?_, RawName.text?_eq_some_iff.1 hname, hcell⟩
    simp only [readCallSite, hname, hcell]
  error r hr := by
    simp only [readCallSite, Record.complaint]
    cases hname : r.name.text? with
    | none => rfl
    | some name =>
      cases hcell : r.cell with
      | none => rfl
      | some a =>
        exact absurd ⟨RawName.exists_text?_iff.1 ⟨name, hname⟩, by simp [hcell]⟩ hr

theorem reads_class (id : ModuleId) : Reads (readClass id) (fun r => (Record.cls r).WellFormed)
    (fun r => (Record.cls r).complaint) (RawClass.Mirrored id) where
  ok r hr := by
    obtain ⟨hname, hslots⟩ := hr
    obtain ⟨name, hname⟩ := RawName.exists_text?_iff.2 hname
    have hslots : (r.slots.isNull && decide (r.slots.count > 0)) = false := by
      rcases hslots with hslots | hslots <;> simp [hslots]
    simp only [readClass, hname, hslots]
    exact ⟨_, rfl, RawName.text?_eq_some_iff.1 hname, rfl, fun s => RawName.text?_eq_some_iff, rfl,
      rfl, rfl, rfl, rfl, rfl, rfl, rfl⟩
  error r hr := by
    simp only [readClass, Record.complaint]
    cases hname : r.name.text? with
    | none => rfl
    | some name =>
      simp only
      split
      · rfl
      · rename_i hslots
        refine absurd ⟨RawName.exists_text?_iff.1 ⟨name, hname⟩, ?_⟩ hr
        simpa [imp_iff_not_or] using hslots

end MappedImage

/-- A module and its classes are what the manifest says, and nothing has been written. -/
structure Manifest.Mirrored (image : MappedImage) (library : String) (m : Manifest)
    (k : MappedModule) (ks : List MappedClass) : Prop where
  name : k.name = m.name.text?.getD library
  symbols : List.Forall₂ (RawSymbol.Mirrored ⟨image.modules.length + 1⟩) m.symbols.items k.symbols
  callSites : List.Forall₂ RawCallSite.Mirrored m.callSites.items k.callSites
  classes : List.Forall₂ (RawClass.Mirrored ⟨image.modules.length + 1⟩) m.classes.items ks
  ids : k.classes = (List.range ks.length).map fun n => ⟨image.classes.length + n⟩

namespace MappedImage

theorem readManifest_cases (image : MappedImage) (library : String) (m : Manifest) :
    (∃ k ks, image.readManifest library m = .ok (k, ks) ∧ (∀ r ∈ m.records, r.WellFormed) ∧
      m.Mirrored image library k ks) ∨
    ∃ r, FirstBad Record.WellFormed m.records r ∧
      image.readManifest library m = .error r.complaint := by
  simp only [readManifest, Manifest.records]
  obtain ⟨symbols, hsymbols, hall, hmirrored⟩ | ⟨r, hr, hsymbols⟩ :=
    (reads_symbol ⟨image.modules.length + 1⟩).mapM m.symbols.items
  · obtain ⟨callSites, hcallSites, hall', hmirrored'⟩ | ⟨r, hr, hcallSites⟩ :=
      reads_callSite.mapM m.callSites.items
    · obtain ⟨ks, hks, hall'', hmirrored''⟩ | ⟨r, hr, hks⟩ :=
        (reads_class ⟨image.modules.length + 1⟩).mapM m.classes.items
      · rw [hsymbols, hcallSites, hks]
        refine .inl ⟨_, _, rfl, ?_, rfl, hmirrored, hmirrored', hmirrored'', ?_⟩
        · simp only [List.forall_mem_append, List.forall_mem_map]
          exact ⟨⟨hall, hall'⟩, hall''⟩
        · rw [List.range_eq_range', ← List.zipIdx_map_snd 0 ks, List.map_map]
          rfl
      · rw [hsymbols, hcallSites, hks]
        refine .inr ⟨.cls r, hr.map.prepend ?_, rfl⟩
        simp only [List.forall_mem_append, List.forall_mem_map]
        exact ⟨hall, hall'⟩
    · rw [hsymbols, hcallSites]
      exact .inr ⟨.callSite r, (hr.map.prepend (List.forall_mem_map.2 hall)).append _, rfl⟩
  · rw [hsymbols]
    exact .inr ⟨.symbol r, (hr.map.append _).append _, rfl⟩

theorem lookup_stage (image : MappedImage) (path : Path) (m : Manifest) :
    (image.stage path m).staged.lookup path.shown = some m := by
  have hnone : (image.staged.filter (·.1 != path.shown)).lookup path.shown = none := by
    rw [List.lookup_eq_none_iff]
    intro e he
    have hne := (List.mem_filter.1 he).2
    rw [bne_iff_ne] at hne
    exact bne_iff_ne.2 hne.symm
  rw [stage, List.lookup_append, hnone]
  simp

/-- What is staged has no part in the registration of a manifest. -/
theorem register_staged (image : MappedImage) (staged : List (String × Manifest)) (path : Path)
    (m : Manifest) : register { image with staged } path m =
      (image.register path m).map fun done => (done.1, { done.2 with staged }) := by
  simp only [register]
  have hread : readManifest { image with staged } path.shown m = image.readManifest path.shown m :=
    rfl
  rw [hread]
  cases image.readManifest path.shown m with
  | error reason => rfl
  | ok read => rfl

/-- A manifest that is staged is registered as one in memory is. -/
theorem loadStaged_stage (image : MappedImage) (path : Path) (m : Manifest) : ∃ staged,
    (image.stage path m).loadStaged path =
      match image.register path m with
      | .ok (id, after) => (.ok id, { after with staged })
      | .error e => (.error e, { image with staged }) := by
  refine ⟨(image.stage path m).staged.filter (·.1 != path.shown), ?_⟩
  have htaken : register { image.stage path m with
      staged := (image.stage path m).staged.filter (·.1 != path.shown) } path m = _ :=
    image.register_staged _ path m
  simp only [loadStaged, lookup_stage]
  rw [htaken]
  cases image.register path m <;> rfl

/-- A manifest is registered exactly if all of its records are well-formed. If one is not, the first
such record is named, and modules, classes and the next identity are as before. Else the module has
the next identity, mirrors the records, and nothing has been written into the tables. -/
theorem loadStaged_manifest (image : MappedImage) (path : Path) (m : Manifest) :
    let done := (image.stage path m).loadStaged path
    done = (match image.register path m with
      | .ok (id, after) => (.ok id, { after with staged := done.2.staged })
      | .error e => (.error e, { image with staged := done.2.staged })) ∧
    ((∃ id, done.1 = .ok id) ↔ ∀ r ∈ m.records, r.WellFormed) ∧
    (∀ e, done.1 = .error e →
      (∃ r, FirstBad Record.WellFormed m.records r ∧
        e = .library (.invalidManifest path.shown r.complaint)) ∧
      done.2.modules = image.modules ∧ done.2.classes = image.classes ∧
      ∀ path' m', (done.2.register path' m').map (·.1) = (image.register path' m').map (·.1)) ∧
    ∀ id, done.1 = .ok id → id = ⟨image.modules.length + 1⟩ ∧
      ∃ k ks, done.2.modules = image.modules ++ [k] ∧ done.2.classes = image.classes ++ ks ∧
        m.Mirrored image path.shown k ks := by
  intro done
  obtain ⟨staged, hdone⟩ : ∃ staged, done = _ := image.loadStaged_stage path m
  obtain ⟨k, ks, hread, hall, hmirrored⟩ | ⟨r, hr, hread⟩ := image.readManifest_cases path.shown m
  · have hregister : image.register path m = .ok (⟨image.modules.length + 1⟩,
        { image with modules := image.modules ++ [k], classes := image.classes ++ ks }) := by
      rw [register, hread]
    rw [hregister] at hdone ⊢
    rw [hdone]
    refine ⟨rfl, iff_of_true ⟨_, rfl⟩ hall, fun e he => ?_, fun id hid => ?_⟩
    · cases he
    · exact ⟨(Except.ok.inj hid).symm, k, ks, rfl, rfl, hmirrored⟩
  · have hregister : image.register path m =
        .error (.library (.invalidManifest path.shown r.complaint)) := by
      rw [register, hread]
    rw [hregister] at hdone ⊢
    rw [hdone]
    refine ⟨rfl, iff_of_false ?_ hr.exists_bad, fun e he => ?_, fun id hid => ?_⟩
    · rintro ⟨id, hid⟩
      cases hid
    · refine ⟨⟨r, hr, (Except.error.inj he).symm⟩, rfl, rfl, fun path' m' => ?_⟩
      rw [register_staged]
      cases image.register path' m' <;> rfl
    · cases hid

end MappedImage

end HotReload
