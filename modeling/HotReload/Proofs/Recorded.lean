import HotReload.Proofs.Binding
import HotReload.Proofs.Sharing

/-! # Specializations run the newest code

There is no new version of a specialization to copy from. When a generic definition is reloaded,
each specialization recorded under its base is led from what its slots hold to the newest
implementations, through the symbols at those addresses.
-/

namespace HotReload

open Managed (Command Process)

section Hook

theorem Managed.hasHook_held :
    Managed.Held fun w w' => w'.image.hasHook = w.image.hasHook where
  refl _ := rfl
  trans h h' := h'.trans h
  setField w o name v := by
    unfold World.setField
    split <;> rfl
  write _ _ := rfl
  count _ _ := rfl
  specialize h := by
    rcases specialize_cases h with rfl | ⟨k, _, _, rfl | ⟨r, rfl⟩⟩ <;> rfl
  load h := by
    rw [load_eq h]
    rfl
  create h := by
    obtain ⟨i, _, rfl⟩ := create_eq h
    rfl
  staged _ _ := rfl
  observed _ _ := rfl
  named _ _ := rfl
  recorders _ := rfl
  confined h := by
    have hhook := congrArg ManagedImage.hasHook h.rest
    exact hhook

theorem Managed.hasHook_rebound (w : Process) (image : ManagedImage) (h : w.image.Rebound image) :
    image.hasHook = w.image.hasHook := by
  have hhook := congrArg ManagedImage.hasHook h.rest
  exact hhook

theorem Managed.Step.hasHook {w w' : Process} (h : Step w w') :
    w'.image.hasHook = w.image.hasHook := h.keeps hasHook_held hasHook_rebound

/-- Where an image offers the hook and generic types are patched, specializations are recorded from
the start. -/
theorem Hosted.isInstalled {r : Reloader} {w : Process} (h : Hosted r w)
    (hhook : w.image.hasHook = true) (hgenerics : r.settings.patchGenerics = true) :
    r.tracker.isInstalled = true := by
  induction h with
  | start settings w _ _ =>
    have hgenerics' : settings.patchGenerics = true := hgenerics
    have hhook' : w.image.hasHook = true := by
      rw [← hhook]
      exact (Managed.Step.start settings w).hasHook.symm
    simp [Reloader.start, World.addRecorder, Tracker.install, CodeImage.observe, hhook',
      hgenerics', Tracker.isInstalled]
  | listen _ _ ih => exact ih hhook hgenerics
  | @act r w c _ _ ih =>
    apply ih _ hgenerics
    rw [← hhook]
    exact (Managed.Step.act c w).hasHook.symm
  | @load r w loop path _ _ ih =>
    have hhook' : w.image.hasHook = true := by
      rw [← hhook]
      exact (Managed.Step.load r loop w path).hasHook.symm
    cases hr : (r.load loop w path).result with
    | error e =>
      obtain ⟨hreloader, _⟩ := Reloader.load_error hr
      rw [hreloader] at hgenerics ⊢
      exact ih hhook' hgenerics
    | ok report =>
      obtain ⟨before, spec, done, hlanded⟩ := Reloader.exists_landed hr
      rw [hlanded.reloader] at hgenerics ⊢
      exact ih hhook' hgenerics

end Hook

section Symbols

theorem LinkedModule.address?_of_mem {k : LinkedModule} {s : Symbol} (h : s ∈ k.exports) :
    ∃ a, k.address? s.name = some a := by
  cases ha : k.address? s.name with
  | some a => exact ⟨a, rfl⟩
  | none =>
    have hnone := List.find?_eq_none.1 (Option.map_eq_none_iff.1 ha) s (List.mem_reverse.2 h)
    exact absurd (beq_self_eq_true s.name) hnone

variable {policy : SlotPolicy} {image : ManagedImage} {m : ModuleId} {a b : Address} {s : Symbol}

theorem SlotPolicy.inPlace_of_patchable {i : Nat} (hi : i ≠ 0) (hs : image.symbol? a = some s)
    (hp : s.kind.patchable policy.preserve = true)
    (hb : (CodeImage.address? image m s.name).or (policy.table.address? s.name) = some b) :
    policy.inPlace image m i a = b := by
  simp [inPlace, refreshed?, hi, hs, Option.filter, hp, hb]

theorem SlotPolicy.inPlace_of_not_patchable {i : Nat}
    (h : i = 0 ∨ ∀ s, image.symbol? a = some s → s.kind.patchable policy.preserve ≠ true) :
    policy.inPlace image m i a = a := by
  rcases h with rfl | h
  · rfl
  · cases hs : image.symbol? a with
    | none => simp [inPlace, refreshed?, hs]
    | some s => simp [inPlace, refreshed?, hs, Option.filter, h s hs]

/-- A patchable symbol of the image has a newest implementation. -/
theorem Interposition.IsNewest.exists_address? {t : Interposition} {preserve : Bool}
    (h : t.IsNewest preserve image) (hs : s ∈ image.symbols)
    (hp : s.kind.patchable preserve = true) : ∃ b, t.address? s.name = some b := by
  obtain ⟨newest, hn⟩ := Option.isSome_iff_exists.1 (ManagedImage.newest?_isSome_of_mem hs hp)
  exact ⟨newest.address, by rw [address?, h s.name, hn]; rfl⟩

end Symbols

section Load

/-- A specialization that a load brings up to date: it is recorded under the base of a generic
definition of the module, and no other class of the module has its name. -/
structure Renewed (r : Reloader) (w : Process) (after : ManagedImage) (m : ModuleId)
    (g d : ClassId) : Prop where
  declared : g ∈ CodeImage.classesIn after m
  recorded : ∃ info, CodeImage.info? after g = some info ∧ info.isGeneric = true ∧
    d ∈ (w.recorded r.tracker.recorder).under info.base
  unnamed : ∀ c ∈ CodeImage.classesIn after m, ∀ info old, CodeImage.info? after c = some info →
    info.isGeneric = false → CodeImage.info? w.image d = some old → info.name ≠ old.name

variable {r : Reloader} {w : Process} {loop : MainLoop} {path : Path} {report : LoadReport}
  {g d : ClassId}

namespace Renewed

variable {after : Loaded ManagedImage} {m : ModuleId} {before : ManagedImage}
  {spec : ModuleSpec Body} {done : Interposition.Absorbed ManagedImage}

theorem isSpecialization (hd : Renewed r w after.world.image m g d)
    (h : Reloader.Landed r w after m before spec done) (hw : Managed.Valid w)
    (hinstalled : r.tracker.isInstalled = true) :
    IsSpecialization (before.link spec).2 (r.rules w) before.nextModule d := by
  obtain ⟨info, hinfo, hgeneric, hrecorded⟩ := hd.recorded
  have hg := hd.declared
  rw [h.classesIn] at hg
  have hinfo' : CodeImage.info? (before.link spec).2 g = some info := by
    rw [← hinfo]
    exact congrArg (Option.map (·.info)) (h.class?_own hw hg).symm
  refine ⟨hinstalled, g, ?_, info, hinfo', hgeneric, hrecorded⟩
  rwa [ManagedImage.classesIn_nextModule]

/-- It is brought to no class: that goes by full name, and no class of the module has its name. -/
theorem not_isOlderVersion (hd : Renewed r w after.world.image m g d)
    (h : Reloader.Landed r w after m before spec done) {old : LinkedClass}
    (hold : w.image.class? d = some old) :
    ¬IsOlderVersion (before.link spec).2 before.nextModule d := by
  rintro ⟨c, hc, hversion⟩
  rw [ManagedImage.classesIn_nextModule, ← h.classesIn] at hc
  obtain ⟨⟨k, l, hk, hl, hname, _⟩, _⟩ := IsOlderVersionOf.cases hversion
  obtain ⟨_, _, hinfo, hplain, _⟩ := hversion
  obtain rfl := Option.some.inj ((h.class?_linked hold).symm.trans hk)
  have hl' : CodeImage.info? (before.link spec).2 c = some l.info := ManagedImage.info?_of_class? hl
  obtain rfl := Option.some.inj (hl'.symm.trans hinfo)
  exact hd.unnamed c hc l.info old.info (h.info? hl') hplain (ManagedImage.info?_of_class? hold)
    hname.symm

theorem slotAt? (hd : Renewed r w after.world.image m g d)
    (h : Reloader.Landed r w after m before spec done) (hr : Reliable r w)
    (hinstalled : r.tracker.isInstalled = true) (i : Nat) :
    after.world.image.slotAt? d i = (w.image.slotAt? d i).map
      (SlotPolicy.inPlace ⟨r.table, r.settings.preserveStatics⟩ (before.link spec).2
        before.nextModule i) := by
  obtain ⟨_, _, _, hrecorded⟩ := hd.recorded
  obtain ⟨⟨old, hold⟩, _⟩ := hr.valid.class?_of_recorded hrecorded
  have hold' := h.class?_linked hold
  have hsome : ((before.link spec).2.class? d).isSome := by simp [hold']
  have hslot := PatchPass.slotAt?_patchClasses_of_isSpecialization
    (p := ⟨(before.link spec).2, r.cache.moduleLoaded,
      { module := before.nextModule, sequence := before.nextModule.number }⟩)
    (h.names hr) (h.served hr) (r.rules w) hsome (hd.not_isOlderVersion h hold)
    (hd.isSpecialization h hr.valid hinstalled) i
  rw [h.slotAt? hold', ManagedImage.slotAt?_eq hold, ← ManagedImage.slotAt?_eq hold']
  exact hslot

/-- A module without other classes renews what is recorded under its definition. -/
theorem of_single {image : ManagedImage} {info : ClassInfo}
    (hclasses : CodeImage.classesIn image m = [g]) (hinfo : CodeImage.info? image g = some info)
    (hgeneric : info.isGeneric = true)
    (hrecorded : d ∈ (w.recorded r.tracker.recorder).under info.base) :
    Renewed r w image m g d where
  declared := by simp [hclasses]
  recorded := ⟨info, hinfo, hgeneric, hrecorded⟩
  unnamed := by
    intro c hc info' old hi hplain
    rw [hclasses, List.mem_singleton] at hc
    rw [hc, hinfo, Option.some.injEq] at hi
    rw [← hi, hgeneric] at hplain
    cases hplain

end Renewed

/-- After a load of a generic definition, every slot of a specialization that held a patchable
symbol holds the implementation of the same name in the module, or else in the table. A slot whose
symbol is not patchable, and the destructor, are as before; so is a slot that led nowhere, unless
the module was placed there. -/
theorem Hosted.slotAt?_load_recorded (h : Hosted r w) (hhook : w.image.hasHook = true)
    (hgenerics : r.settings.patchGenerics = true) (hr : (r.load loop w path).result = .ok report)
    (hd : Renewed r w (r.load loop w path).world.image report.module g d) {i : Nat} {a : Address}
    (ha : w.image.slotAt? d i = some a) :
    let after := r.load loop w path
    let found (w : Process) := SymbolCache.search w.image a none
    let patchable (s : Symbol) := s.kind.patchable r.settings.preserveStatics = true
    let exported (name : String) := CodeImage.address? after.world.image report.module name
    (i ≠ 0 → ∀ s, found w = some s → patchable s →
      ∃ b, (exported s.name).or (after.reloader.table.address? s.name) = some b ∧
        after.world.image.slotAt? d i = some b) ∧
    (i = 0 ∨ (∃ s, found w = some s ∧ ¬patchable s) →
      after.world.image.slotAt? d i = some a) ∧
    (i ≠ 0 → found w = none →
      (∀ s, found after.world = some s → s.module = report.module → patchable s →
        ∃ b, exported s.name = some b ∧ after.world.image.slotAt? d i = some b) ∧
      ((∀ s, found after.world = some s → s.module = report.module → ¬patchable s) →
        after.world.image.slotAt? d i = some a)) := by
  have hup := UpToDate.of_hosted h
  have hrel := hup.reliable
  obtain ⟨before, spec, done, hlanded⟩ := Reloader.exists_landed hr
  have hslot := hd.slotAt? hlanded hrel (h.isInstalled hhook hgenerics) i
  rw [ha, Option.map_some] at hslot
  intro after found patchable exported
  have hfound : found w = w.image.symbol? a := hup.valid.linked.search_eq a none
  rw [hfound, hslot]
  refine ⟨?_, ?_, ?_⟩
  · intro hi s hs hp
    obtain ⟨b, hb⟩ : ∃ b,
        ((before.linked spec).address? s.name).or (r.table.address? s.name) = some b := by
      cases (before.linked spec).address? s.name with
      | some b => exact ⟨b, rfl⟩
      | none => exact hup.newest.exists_address? (ManagedImage.mem_of_symbol? hs) hp
    refine ⟨b, (hlanded.address?_or s.name).trans hb, ?_⟩
    rw [SlotPolicy.inPlace_of_patchable hi (hlanded.symbol?_linked hs) hp]
    rwa [ManagedImage.address?_nextModule]
  · intro hkeep
    rw [SlotPolicy.inPlace_of_not_patchable (hkeep.imp_right ?_)]
    rintro ⟨s, hs, hp⟩ s' hs'
    obtain rfl := Option.some.inj ((hlanded.symbol?_linked hs).symm.trans hs')
    exact hp
  · intro hi hnone
    constructor
    · intro s hs hm hp
      obtain ⟨hin, hs⟩ := hlanded.symbol?_of_search hrel hs hm
      obtain ⟨b, hb⟩ := LinkedModule.address?_of_mem hin
      refine ⟨b, (hlanded.address? s.name).trans hb, ?_⟩
      rw [SlotPolicy.inPlace_of_patchable hi hs hp]
      rw [ManagedImage.address?_nextModule, hb]
      rfl
    · intro hkeep
      rw [SlotPolicy.inPlace_of_not_patchable (.inr ?_)]
      intro s hs
      exact hkeep s (hlanded.search_eq hrel hs none) (hlanded.module_of_new hup.valid hs hnone)

end Load

namespace Renewed

open Hosted (slotAt?_load_recorded)

def version (methods : List (String × Int)) : ModuleSpec Body :=
  oneClass { name := "Box", isGeneric := true, slots := [("area", "Box.area")] } methods

def first : ModuleSpec Body := version [("Box.area", 1)]

def second : ModuleSpec Body := version [("Box.area", 2)]

def ambiguous : ModuleSpec Body := version [("Box.area", 2), ("Box.area", 3)]

def boxed : Loaded ManagedImage := (fresh true).1.loadSpec (fresh true).2 first

def special : Process := (Command.specialize "Box" ["Int"]).perform boxed.world

def redefined : Loaded ManagedImage := boxed.reloader.loadSpec special second

theorem special_hosted : Hosted boxed.reloader special :=
  .act (.specialize "Box" ["Int"]) ((fresh_hosted true).loadSpec _ (by decide)) (by decide)

theorem slotAt?_load_recorded_box : ∃ report, redefined.result = .ok report ∧
    ∃ b, (CodeImage.address? redefined.world.image report.module "Box.area").or
        (redefined.reloader.table.address? "Box.area") = some b ∧
      redefined.world.image.slotAt? ⟨1⟩ 1 = some b := by
  obtain ⟨report, hresult, hmodule⟩ : ∃ report, redefined.result = .ok report ∧
      report.module = ⟨2⟩ := ⟨_, rfl, rfl⟩
  have hclasses : CodeImage.classesIn redefined.world.image report.module = [⟨2⟩] := by
    rw [hmodule]
    decide
  have hrenewed : Renewed boxed.reloader (staged special second) redefined.world.image
      report.module ⟨2⟩ ⟨1⟩ :=
    .of_single hclasses rfl rfl (by decide)
  obtain ⟨hpatchable, _⟩ := slotAt?_load_recorded (special_hosted.staged second) (by decide)
    (by decide) hresult hrenewed (i := 1) (a := ⟨0x1000⟩) (by decide)
  have hslot := hpatchable (by decide) ⟨"Box.area", ⟨0x1000⟩, ⟨1⟩, .method⟩ (by decide) (by decide)
  exact ⟨report, hresult, hslot⟩

/-- The host has written the address that the next module gets. -/
def dangling : Process := (Command.writeSlot ⟨1⟩ 1 ⟨0x1020⟩).perform special

def led : Loaded ManagedImage := boxed.reloader.loadSpec dangling ambiguous

/-- A slot that leads nowhere before a load need not stay as it is. -/
theorem not_slotAt?_load_dangling :
    ¬∀ (r : Reloader) (w : Process) (loop : MainLoop) (path : Path) (report : LoadReport)
      (g d : ClassId) (i : Nat) (a : Address), Hosted r w → w.image.hasHook = true →
      r.settings.patchGenerics = true → (r.load loop w path).result = .ok report →
      Renewed r w (r.load loop w path).world.image report.module g d →
      w.image.slotAt? d i = some a →
      (i = 0 ∨ ∀ s, SymbolCache.search w.image a none = some s →
        s.kind.patchable r.settings.preserveStatics = false) →
      (r.load loop w path).world.image.slotAt? d i = some a := by
  intro h
  have hdangling : Hosted boxed.reloader dangling :=
    .act (.writeSlot ⟨1⟩ 1 ⟨0x1020⟩) special_hosted (by decide)
  obtain ⟨report, hresult, hmodule⟩ : ∃ report, led.result = .ok report ∧
      report.module = ⟨2⟩ := ⟨_, rfl, rfl⟩
  have hclasses : CodeImage.classesIn led.world.image report.module = [⟨2⟩] := by
    rw [hmodule]
    decide
  have hnone : SymbolCache.search dangling.image ⟨0x1020⟩ none = none := by decide
  have hkept := h _ _ loop stagePath report ⟨2⟩ ⟨1⟩ 1 ⟨0x1020⟩ (hdangling.staged ambiguous)
    (by decide) (by decide) hresult (.of_single hclasses rfl rfl (by decide)) (by decide) <| by
      right
      intro s hs
      cases hnone.symm.trans hs
  have hmoved : led.world.image.slotAt? ⟨1⟩ 1 = some ⟨0x1030⟩ := by decide
  cases hmoved.symm.trans hkept

end Renewed

end HotReload
