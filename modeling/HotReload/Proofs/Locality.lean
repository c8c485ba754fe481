import HotReload.Proofs.Filing
import HotReload.Proofs.PairedPatches

/-! # Failures stay local

Whatever calls on class tables fail, a module is patched in as it is without faults, but for the
descriptors that a fault names and those redefined by a class that one names. A write that is
refused leaves its place as it was, and all other places come to what they are without faults.
-/

namespace HotReload

open ManagedImage (Confined)

section Refusals

/-- The places that refuse to be written are as they were. -/
structure Faulty.Refuses (start other : Faulty ManagedImage) : Prop where
  faults : other.faults = start.faults
  slots : ∀ d i, start.failsWriteSlot d i = true →
    other.base.slotAt? d i = start.base.slotAt? d i
  entries : ∀ d t j selector a, start.failsReplace d t selector = true →
    (other.base.entryAt? d t j = some (selector, a) ↔
      start.base.entryAt? d t j = some (selector, a))

theorem Faulty.Refuses.refl (start : Faulty ManagedImage) : start.Refuses start :=
  ⟨rfl, fun _ _ _ => rfl, fun _ _ _ _ _ _ => Iff.rfl⟩

theorem Faulty.refuses_invariant (start : Faulty ManagedImage) (c : ClassId) :
    PatchPass.Invariant c fun other _ => start.Refuses other where
  slots :=
    { resolve := fun _ _ h => h
      write := by
        intro other _ index a after h hw
        obtain ⟨haccepted, base, hbase, rfl⟩ := Faulty.writeSlot_ok.1 hw
        refine ⟨h.faults, fun d i hi => ?_, fun d t j selector b hf => ?_⟩
        · rw [← h.slots d i hi]
          by_cases hd : d = c
          · subst hd
            have hne : i ≠ index := by
              rintro rfl
              simp only [Faulty.failsWriteSlot, h.faults] at haccepted hi
              rw [hi] at haccepted
              cases haccepted
            exact (ManagedImage.slotAt?_writeSlot hbase i).trans (if_neg hne)
          · exact (ManagedImage.writeSlot_confined hbase).slotAt? hd i
        · rw [← h.entries d t j selector b hf, ← ManagedImage.entryAt?_writeSlot hbase]
          rfl }
  selectors _ :=
    { replace := by
        intro other t selector a after h hr
        obtain ⟨haccepted, base, hbase, rfl⟩ := Faulty.replaceSelector_ok.1 hr
        refine ⟨h.faults, fun d i hi => ?_, fun d t' j selector' b hf => ?_⟩
        · rw [← h.slots d i hi]
          exact ManagedImage.slotAt?_replaceSelector hbase d i
        · rw [← h.entries d t' j selector' b hf]
          change base.entryAt? d t' j = _ ↔ _
          rw [ManagedImage.entryAt?_replaceSelector hbase]
          split
          · rename_i hplace
            obtain ⟨rfl, rfl, hj⟩ := hplace
            obtain ⟨current, hcurrent⟩ := ManagedImage.exists_entryAt? hj
            have hne : selector ≠ selector' := by
              rintro rfl
              simp only [Faulty.failsReplace, h.faults] at haccepted hf
              rw [hf] at haccepted
              cases haccepted
            simp [hcurrent, hne]
          · rfl }

end Refusals

section Tables

/-- A class is known by what it is without addresses, and by its slots and entries. -/
theorem ManagedImage.Confined.class?_eq {D : ClassId → Prop} {image after : ManagedImage}
    (h : Confined D image after) {d : ClassId}
    (hslots : ∀ i, after.slotAt? d i = image.slotAt? d i)
    (hentries : ∀ t j, after.entryAt? d t j = image.entryAt? d t j) :
    after.class? d = image.class? d := by
  obtain ⟨hl, hk⟩ | ⟨l, k, hl, hk, hblank⟩ := h.class?_cases d
  · rw [hl, hk]
  · have htable (t : SelectorTable) : l.table t = k.table t :=
      List.ext_getElem? fun j => by simpa [ManagedImage.entryAt?, hl, hk] using hentries t j
    have hnames : l.slots.map (·.name) = k.slots.map (·.name) := by
      simpa [LinkedClass.blank, Function.comp_def] using
        congrArg (fun c => c.slots.map (·.name)) hblank
    have haddresses : l.slots.map (·.address) = k.slots.map (·.address) :=
      List.ext_getElem? fun i => by
        rw [← ManagedImage.slotAt?_eq hl, ← ManagedImage.slotAt?_eq hk, hslots]
    have hslots : l.slots = k.slots := by
      have hsplit (slots : List Slot) :
          List.zipWith Slot.mk (slots.map (·.name)) (slots.map (·.address)) = slots := by
        induction slots <;> simp_all
      rw [← hsplit l.slots, hnames, haddresses, hsplit]
    have hinfo : l.info = k.info := congrArg (·.info) hblank
    have hfields : l.fields = k.fields := congrArg (·.fields) hblank
    have hlegacy : l.isLegacy = k.isLegacy := congrArg (·.isLegacy) hblank
    have hselectors : l.selectors = k.selectors := htable .onInstances
    have hclassSelectors : l.classSelectors = k.classSelectors := htable .onClass
    rw [hl, hk]
    cases l
    cases k
    simp_all

theorem ManagedImage.rebindOne_withClasses (classes : List LinkedClass) (m : ModuleId)
    (names : List String) (image : ManagedImage) (r : Rebinding) :
    rebindOne m (names, { image with classes }) r =
      ((rebindOne m (names, image) r).1, { (rebindOne m (names, image) r).2 with classes }) := by
  have hmodule : module? { image with classes } m = image.module? m := rfl
  simp only [rebindOne, hmodule]
  split
  · rfl
  · split
    · rfl
    · unfold modifyModule
      split <;> rfl

/-- Call sites are redirected without a look at the classes. -/
theorem ManagedImage.withClasses_transparent (classes : List LinkedClass) :
    Interposition.Transparent fun image : ManagedImage => { image with classes } where
  modules _ := rfl
  sequence? _ _ := rfl
  exports _ _ := rfl
  rebind image m rs := by
    simp only [CodeImage.rebind, rebind]
    generalize ([] : List String) = names
    induction rs generalizing names image with
    | nil => rfl
    | cons r rs ih =>
      simp only [List.foldl_cons, rebindOne_withClasses]
      exact ih (rebindOne m (names, image) r).2 _

end Tables

section Load

/-- What patching a module into an image with faults comes to, beside patching it into the image
alone: names are bound alike, and class tables agree wherever no fault is in the way. -/
structure Faulty.Localizes (start : Faulty ManagedImage) (m : ModuleId)
    (clean : Patched ManagedImage) (faulty : Patched (Faulty ManagedImage)) : Prop where
  callSites : ∀ other name,
    CodeImage.callSite? faulty.image other name = CodeImage.callSite? clean.image other name
  table : faulty.table = clean.table
  rebound : faulty.report.rebound = clean.report.rebound
  classes : ∀ d, ¬start.Names d →
    (∀ c ∈ CodeImage.classesIn start.base m, start.Names c → ¬IsRedefinedBy start.base c d) →
      faulty.image.base.class? d = clean.image.class? d
  slots : (∀ f ∈ start.faults, f.isOfWrites = true) → ∀ d i,
    faulty.image.base.slotAt? d i =
      (if start.failsWriteSlot d i then start.base else clean.image).slotAt? d i
  entries : (∀ f ∈ start.faults, f.isOfWrites = true) → ∀ d t j selector a,
    faulty.image.base.entryAt? d t j = some (selector, a) ↔
      (if start.failsReplace d t selector then start.base else clean.image).entryAt? d t j =
        some (selector, a)

variable {start : Faulty ManagedImage} {m : ModuleId}

theorem Faulty.spares_of_not_names {d : ClassId} (hd : ¬start.Names d)
    (hredefined : ∀ c ∈ CodeImage.classesIn start.base m, start.Names c →
      ¬IsRedefinedBy start.base c d) : start.Spares m d :=
  ⟨fun hh => hd (names_of_hides hh), fun c hc hh => hredefined c hc (names_of_hides hh)⟩

theorem Faulty.spares_of_isOfWrites (h : ∀ f ∈ start.faults, f.isOfWrites = true) (d : ClassId) :
    start.Spares m d :=
  ⟨not_hides h d, fun c _ hh => absurd hh (not_hides h c)⟩

/-- Taking the module in comes to the same around the classes of either run. -/
theorem Paired.absorb {f : Address → Option Symbol} {image : ManagedImage} {cache : SymbolCache}
    {other : Faulty ManagedImage} {cache' : SymbolCache}
    (h : Paired start m f image cache other cache') (htables : start.OfTables)
    {t : Interposition} {preserve : Bool} {done : Interposition.Absorbed ManagedImage}
    (hdone : t.absorb preserve image m = .ok done) : t.absorb preserve other m =
      .ok ⟨done.table, start.around { done.image with classes := other.base.classes },
        done.rebound⟩ := by
  have hother : start.around { image with classes := other.base.classes } = other := by
    rw [h.confined.symm.rest, Faulty.around, ← h.faults]
  calc t.absorb preserve other m
    _ = t.absorb preserve (start.around { image with classes := other.base.classes }) m := by
      rw [hother]
    _ = .ok _ := by
      rw [htables.transparent.absorb, (ManagedImage.withClasses_transparent _).absorb, hdone]
      rfl

theorem Paired.localizes {f : Address → Option Symbol} {image : ManagedImage} {cache : SymbolCache}
    {other : Faulty ManagedImage} {cache' : SymbolCache}
    (h : Paired start m f image cache other cache') (hrefuses : start.Refuses other)
    {clean : Patched ManagedImage} {faulty : Patched (Faulty ManagedImage)}
    (hclean : clean.image.classes = image.classes)
    (hfaulty : faulty.image = start.around { clean.image with classes := other.base.classes })
    (htable : faulty.table = clean.table)
    (hrebound : faulty.report.rebound = clean.report.rebound) :
    start.Localizes m clean faulty := by
  have hbase (d : ClassId) : faulty.image.base.class? d = other.base.class? d := by
    rw [hfaulty]
    rfl
  have hclass (d : ClassId) : clean.image.class? d = image.class? d := by
    rw [ManagedImage.class?, hclean, ManagedImage.class?]
  refine ⟨fun m name => ?_, htable, hrebound, fun d hd hredefined => ?_, fun hwrites d i => ?_,
    fun hwrites d t j selector a => ?_⟩
  · rw [hfaulty]
    rfl
  · have hspares := Faulty.spares_of_not_names hd hredefined
    rw [hbase, hclass]
    refine h.confined.class?_eq
      (fun i => h.slots d hspares i (Faulty.failsWriteSlot_eq_false hd i)) fun t j => ?_
    refine Option.ext fun e => ?_
    exact h.entries d hspares t j e.1 e.2 (Faulty.failsReplace_eq_false hd t e.1)
  · have hspares := Faulty.spares_of_isOfWrites hwrites d (m := m)
    simp only [ManagedImage.slotAt?, hbase]
    cases hf : start.failsWriteSlot d i with
    | true => exact hrefuses.slots d i hf
    | false =>
      simp only [Bool.false_eq_true, if_false, hclass]
      exact h.slots d hspares i hf
  · have hspares := Faulty.spares_of_isOfWrites hwrites d (m := m)
    simp only [ManagedImage.entryAt?, hbase]
    cases hf : start.failsReplace d t selector with
    | true => exact hrefuses.entries d t j selector a hf
    | false =>
      simp only [Bool.false_eq_true, if_false, hclass]
      exact h.entries d hspares t j selector a hf

theorem patchIn_of_absorb {ι : Type} [CodeImage ι] {rules : PatchRules} {cache : SymbolCache}
    {t : Interposition} {image : ι} {sequence : Nat} {done : Interposition.Absorbed ι}
    (h : t.absorb rules.preserve (PatchPass.patchClasses ⟨t, rules.preserve⟩ rules m
      ⟨image, cache, { module := m, sequence }⟩).image m = .ok done) :
    ∃ patched, patchIn rules cache t image m sequence = .ok patched ∧
      patched.image = done.image ∧ patched.table = done.table ∧
      patched.report.rebound = done.rebound := by
  simp only [patchIn, h]
  exact ⟨_, rfl, rfl, rfl, rfl⟩

theorem Reloader.patchIn_inside (r : Reloader) {w : World (Faulty ManagedImage)}
    (hvalid : Managed.Valid (Faulty.inside w)) (hfiled : Managed.Filed (Faulty.inside w))
    (htables : w.image.OfTables) {k : LinkedModule} (hk : w.image.base.module? m = some k) :
    ∃ clean faulty, r.patchIn (Faulty.inside w) m = .ok clean ∧ r.patchIn w m = .ok faulty ∧
      w.image.Localizes m clean faulty := by
  have hlinked : w.image.base.Linked := hvalid.linked
  have hrecorded (base : String) (d : ClassId) (hd : d ∈ (r.rules w).recorded.under base) :
      d ∉ CodeImage.classesIn w.image.base m ∧
        ∃ k, w.image.base.class? d = some k ∧ k.info.base = base :=
    ⟨(hvalid.class?_of_recorded hd).2 m, (hfiled.under r.tracker.recorder base).2 d hd⟩
  have hsequence : CodeImage.sequence? w.image.base m = some m.number := by
    simp [CodeImage.sequence?, hk]
  -- The two runs start from one image, with one cache.
  have hanswers := hlinked.answersAs r.cache
  have hstart : Paired w.image m (fun a => (r.cache.resolve w.image.base a none).1) w.image.base
      r.cache w.image r.cache :=
    ⟨rfl, Confined.refl _ _, Confined.refl _ _, hanswers, hanswers, fun _ _ _ _ => rfl,
      fun _ _ _ _ _ _ _ => Iff.rfl⟩
  have hpaired := Paired.patchClasses ⟨r.table, r.settings.preserveStatics⟩ htables hlinked
    hrecorded ⟨w.image.base, r.cache, { module := m, sequence := m.number }⟩
    ⟨w.image, r.cache, { module := m, sequence := m.number }⟩ hstart
  have hrefuses : w.image.Refuses
      (PatchPass.patchClasses ⟨r.table, r.settings.preserveStatics⟩ (r.rules w) m
        ⟨w.image, r.cache, { module := m, sequence := m.number }⟩).image :=
    PatchPass.Invariant.patchClasses (p := ⟨_, _, _⟩) (Faulty.refuses_invariant w.image)
      (Faulty.Refuses.refl w.image) (r.rules w)
  obtain ⟨done, hdone⟩ := r.table.absorb_isOk r.settings.preserveStatics
    ((hpaired.clean.sequence? m).trans hsequence)
  obtain ⟨clean, hclean, himage, htable, hrebound⟩ := patchIn_of_absorb hdone
  obtain ⟨faulty, hfaulty, himage', htable', hrebound'⟩ :=
    patchIn_of_absorb (hpaired.absorb htables hdone)
  have hclasses := (Interposition.absorb_rebound hdone).classes
  refine ⟨clean, faulty, ?_, ?_, hpaired.localizes hrefuses (by rw [himage, hclasses])
    (by rw [himage', himage]) (htable'.trans htable.symm) (hrebound'.trans hrebound.symm)⟩
  · simp only [patchIn, Faulty.inside, World.withImage, hsequence]
    exact hclean
  · simp only [patchIn, htables.sequence?_eq, hsequence]
    exact hfaulty

/-- Failures stay local, in every valid process and so in every one that was started: the module
that is found at a path is the same with faults and without, and is patched in alike. -/
theorem Reloader.patchIn_localizes (r : Reloader) {w : World (Faulty ManagedImage)}
    (hvalid : Managed.Valid (Faulty.inside w)) (hfiled : Managed.Filed (Faulty.inside w))
    (htables : w.image.OfTables) (path : Path) :
    ∃ result image, CodeImage.loadModule w.image.base path = (result, image) ∧
      CodeImage.loadModule w.image path = (result, w.image.around image) ∧
      ∀ m, result = .ok m → ∃ clean faulty,
        Reloader.patchIn { r with cache := r.cache.moduleLoaded } { Faulty.inside w with image } m =
          .ok clean ∧
        Reloader.patchIn { r with cache := r.cache.moduleLoaded }
          { w with image := w.image.around image } m = .ok faulty ∧
        (w.image.around image).Localizes m clean faulty := by
  refine ⟨(w.image.base.loadStaged path).1, (w.image.base.loadStaged path).2, rfl, rfl, ?_⟩
  intro m hloaded
  obtain ⟨k, hk⟩ := ManagedImage.loadStaged_isLoaded (Prod.ext hloaded rfl)
  have hvalid' := Managed.valid_held.toTended.loadStaged (Faulty.inside w) path hvalid
  have hfiled' := Managed.filed_held.toTended.loadStaged (Faulty.inside w) path hfiled
  exact patchIn_inside _ (w := { w with image := w.image.around _ }) hvalid' hfiled' htables hk

end Load

namespace Locality

def shapes (n : Int) : ModuleSpec Body :=
  { name := "Shapes"
    functions := ["Circle.area", "Square.area"].map fun f => ⟨f, .method, .constant (.int n)⟩
    classes :=
      [{ name := "Circle", slots := [("area", "Circle.area")] },
        { name := "Square", slots := [("area", "Square.area")] }] }

def loaded : Loaded ManagedImage := (fresh false).1.loadSpec (fresh false).2 (shapes 1)

theorem loaded_hosted : Hosted loaded.reloader loaded.world :=
  (fresh_hosted false).loadSpec _ (by decide)

/-- The shapes wait to be loaded again, and the method of circles cannot be replaced. -/
def refusing : World (Faulty ManagedImage) :=
  (staged loaded.world (shapes 2)).withImage
    ⟨(staged loaded.world (shapes 2)).image, [.writeSlot (some ⟨0⟩) (some 1)]⟩

theorem patchIn_localizes_refusing : ∃ image clean faulty,
    CodeImage.loadModule refusing.image stagePath = (.ok ⟨2⟩, refusing.image.around image) ∧
    Reloader.patchIn { loaded.reloader with cache := loaded.reloader.cache.moduleLoaded }
      { Faulty.inside refusing with image } ⟨2⟩ = .ok clean ∧
    Reloader.patchIn { loaded.reloader with cache := loaded.reloader.cache.moduleLoaded }
      { refusing with image := refusing.image.around image } ⟨2⟩ = .ok faulty ∧
    clean.image.slotAt? ⟨0⟩ 1 = some ⟨0x1040⟩ ∧
    faulty.image.base.slotAt? ⟨0⟩ 1 = some ⟨0x1000⟩ ∧
    faulty.image.base.class? ⟨1⟩ = clean.image.class? ⟨1⟩ := by
  have hstarted : Managed.Started (Faulty.inside refusing) :=
    (loaded_hosted.staged (shapes 2)).shared.isStarted
  have hwrites : ∀ f ∈ refusing.image.faults, f.isOfWrites = true := by decide
  obtain ⟨result, image, hbase, hload, hpatched⟩ := loaded.reloader.patchIn_localizes
    hstarted.valid hstarted.filed (fun f hf => Fault.isOfTables_of_isOfWrites (hwrites f hf))
    stagePath
  obtain rfl : .ok ⟨2⟩ = result := congrArg Prod.fst hbase
  obtain rfl : (refusing.image.base.loadStaged stagePath).2 = image := congrArg Prod.snd hbase
  obtain ⟨clean, faulty, hclean, hfaulty, hlocal⟩ := hpatched ⟨2⟩ rfl
  refine ⟨_, clean, faulty, hload, hclean, hfaulty, ?_, ?_, ?_⟩
  · have hslot : (Reloader.patchIn
        { loaded.reloader with cache := loaded.reloader.cache.moduleLoaded }
        { Faulty.inside refusing with image := (refusing.image.base.loadStaged stagePath).2 }
        ⟨2⟩).toOption.bind (fun patched => patched.image.slotAt? ⟨0⟩ 1) = some ⟨0x1040⟩ := by decide
    rwa [hclean] at hslot
  · rw [hlocal.slots hwrites, if_pos (by decide)]
    decide
  · have hnamed {c : ClassId} (hc : (refusing.image.around
        (refusing.image.base.loadStaged stagePath).2).Names c) : c = ⟨0⟩ := by
      obtain ⟨f, hf, hnames⟩ := hc
      obtain rfl := List.mem_singleton.1 hf
      have hzero : ⟨0⟩ = c := by simpa [Fault.names, Fault.meets] using hnames
      exact hzero.symm
    have hown : ⟨0⟩ ∉ CodeImage.classesIn (refusing.image.base.loadStaged stagePath).2 ⟨2⟩ := by
      decide
    refine hlocal.classes ⟨1⟩ (fun hone => ?_) fun c hc hzero => absurd (hnamed hzero ▸ hc) hown
    cases hnamed hone

end Locality

end HotReload
