import HotReload.Proofs.Reporting
import HotReload.Proofs.Loading
import HotReload.Proofs.Sharing

/-! # The hint that nothing was patched

A report carries the hint if it counts no patched class and names no rebound symbol. Whatever writes
into a table raises the count or leaves a name, so the hint is never given after a change.
-/

namespace HotReload

section Accounts

variable {ι : Type} {p q s : PatchPass ι}

namespace PatchPass

/-- Nothing was written from one point of a patch to another, and nothing counted. -/
structure Untouched (p q : PatchPass ι) : Prop where
  image : q.image = p.image
  slotsWritten : q.report.slotsWritten = p.report.slotsWritten
  selectorsSwizzled : q.report.selectorsSwizzled = p.report.selectorsSwizzled
  specializationsPatched : q.report.specializationsPatched = p.report.specializationsPatched
  classesPatched : q.report.classesPatched = p.report.classesPatched

theorem Untouched.refl (p : PatchPass ι) : Untouched p p := ⟨rfl, rfl, rfl, rfl, rfl⟩

theorem Untouched.trans (h : Untouched p q) (h' : Untouched q s) : Untouched p s where
  image := h'.image.trans h.image
  slotsWritten := h'.slotsWritten.trans h.slotsWritten
  selectorsSwizzled := h'.selectorsSwizzled.trans h.selectorsSwizzled
  specializationsPatched := h'.specializationsPatched.trans h.specializationsPatched
  classesPatched := h'.classesPatched.trans h.classesPatched

/-- Either nothing was written or one more class was counted. -/
def Accounted (p q : PatchPass ι) : Prop :=
  Untouched p q ∨ p.report.classesPatched < q.report.classesPatched

theorem Accounted.refl (p : PatchPass ι) : Accounted p p := .inl (.refl p)

theorem Accounted.trans (h : Accounted p q) (h' : Accounted q s) : Accounted p s := by
  rcases h with h | h
  · rcases h' with h' | h'
    · exact .inl (h.trans h')
    · exact .inr (h.classesPatched ▸ h')
  · rcases h' with h' | h'
    · exact .inr (h'.classesPatched.symm ▸ h)
    · exact .inr (h.trans h')

/-- Steps that account for what they write make up a run that does. -/
theorem Accounted.foldl {α σ : Type} (pass : σ → PatchPass ι) {step : σ → α → σ}
    (h : ∀ s a, Accounted (pass s) (pass (step s a))) (l : List α) (s : σ) :
    Accounted (pass s) (pass (l.foldl step s)) :=
  List.foldlRecOn (motive := fun t => Accounted (pass s) (pass t)) l step (.refl _)
    fun t ht a _ => ht.trans (h t a)

/-- The flag is set unless nothing was written. Classes are counted elsewhere. -/
structure Flagged (p : PatchPass ι) (acc : Bool × PatchPass ι) : Prop where
  classesPatched : acc.2.report.classesPatched = p.report.classesPatched
  untouched : acc.1 = false → Untouched p acc.2

theorem Flagged.none (h : Untouched p q) : Flagged p (false, q) := ⟨h.classesPatched, fun _ => h⟩

theorem Flagged.some (h : q.report.classesPatched = p.report.classesPatched) :
    Flagged p (true, q) := ⟨h, fun hset => by cases hset⟩

theorem Flagged.or {any one : Bool} (h : Flagged p (any, q)) (h' : Flagged q (one, s)) :
    Flagged p (any || one, s) where
  classesPatched := h'.classesPatched.trans h.classesPatched
  untouched hnone := by
    obtain ⟨hany, hone⟩ := Bool.or_eq_false_iff.1 hnone
    exact (h.untouched hany).trans (h'.untouched hone)

theorem untouched_mismatch (p : PatchPass ι) (name : String) : Untouched p (p.mismatch name) := by
  unfold mismatch
  split <;> exact ⟨rfl, rfl, rfl, rfl, rfl⟩

theorem untouched_list (p : PatchPass ι) (c : ClassId) (name : String) :
    Untouched p (p.list c name) := ⟨rfl, rfl, rfl, rfl, rfl⟩

end PatchPass

end Accounts

section Stages

variable {ι : Type} [CodeImage ι] {policy : SlotPolicy} {rules : PatchRules} {m : ModuleId}
  {cache : SymbolCache} {image : ι}

theorem SlotPolicy.image_of_refused {old new : ClassId} {pass : SlotPass ι}
    (h : policy.patch cache image old new m = .ok pass)
    (hrefused : pass.outcome.layoutMismatch = true) : pass.image = image := by
  cases hk : CodeImage.info? image old with
  | none => simp [patch, hk, throw, throwThe, MonadExceptOf.throw] at h
  | some k =>
    cases hl : CodeImage.info? image new with
    | none => simp [patch, hk, hl, throw, throwThe, MonadExceptOf.throw] at h
    | some l =>
      simp only [patch, hk, hl, bind, Except.bind, pure, Except.pure] at h
      split at h
      · obtain rfl := Except.ok.inj h
        rfl
      · split at h
        · cases h
        · split at h
          · cases h
          · split at h
            · obtain rfl := Except.ok.inj h
              rfl
            · obtain rfl := Except.ok.inj h
              rw [layoutMismatch_patchEach] at hrefused
              cases hrefused

/-- Patching the specializations of a definition changes nothing if none is patched. -/
theorem GenericPass.patch_of_none {installed : Bool} {recorded : Specializations}
    {definition : ClassId} {hook : String} {pass : GenericPass ι}
    (h : patch policy installed recorded cache image definition m hook = .ok pass)
    (hnone : pass.outcome.specializations = 0) : pass.image = image ∧ pass.outcome = {} := by
  unfold patch at h
  split at h
  · obtain rfl := Except.ok.inj h
    exact ⟨rfl, rfl⟩
  · split at h
    · cases h
    · obtain rfl := Except.ok.inj h
      refine List.foldlRecOn (motive := fun p : GenericPass ι => p.outcome.specializations = 0 →
        p.image = image ∧ p.outcome = {}) _ _ (fun _ => ⟨rfl, rfl⟩) (fun p ih c _ => ?_) hnone
      unfold patchOne
      split
      · exact ih
      · exact fun hcount => absurd hcount (Nat.succ_ne_zero _)

namespace PatchPass

/-- A version that was not patched was not written into. -/
theorem patchVersion_flagged (info : ClassInfo) (new old : ClassId) (p : PatchPass ι) :
    Flagged p (patchVersion policy m info new old p) := by
  unfold patchVersion
  split
  · split
    · exact .none (.refl p)
    · split
      · exact .none (untouched_mismatch p info.name)
      · exact .some rfl
  · split
    · exact .none (.refl p)
    · rename_i pass hpass
      dsimp only
      split
      · rename_i hrefused
        rw [SlotPolicy.image_of_refused hpass hrefused]
        have h : Untouched p { p with cache := pass.cache } := ⟨rfl, rfl, rfl, rfl, rfl⟩
        exact .none (h.trans (untouched_mismatch _ info.name))
      · exact .some rfl

/-- A class is counted if one of its older versions was written into. -/
theorem patchVersions_accounted (info : ClassInfo) (v : Versions) (p : PatchPass ι) :
    Accounted p (patchVersions policy m info v p) := by
  unfold patchVersions
  generalize hfold : v.old.foldl _ (false, p) = acc
  have hflagged : Flagged p acc := by
    rw [← hfold]
    exact List.foldlRecOn (motive := Flagged p) v.old _ (.none (.refl p)) fun acc hacc old _ =>
      hacc.or (patchVersion_flagged info v.new old acc.2)
  dsimp only
  split
  · exact .inr (by simp [hflagged.classesPatched])
  · rename_i hany
    exact .inl (hflagged.untouched (Bool.eq_false_iff.2 hany))

theorem patchClass_accounted (acc : List ClassId × PatchPass ι) (c : ClassId) :
    Accounted acc.2 (patchClass policy m acc c).2 := by
  unfold patchClass
  split
  · exact .refl _
  · rename_i info _
    have hlist : Accounted acc.2 (acc.2.list c info.name) := .inl (untouched_list _ _ _)
    dsimp only
    split
    · exact hlist
    · split
      · exact hlist
      · split
        · exact hlist.trans (patchVersions_accounted info _ _)
        · exact hlist

theorem patchGeneric_accounted (p : PatchPass ι) (definition : ClassId) :
    Accounted p (patchGeneric policy rules m p definition) := by
  unfold patchGeneric
  split
  · exact .refl p
  · rename_i pass hpass
    by_cases hnone : pass.outcome.specializations = 0
    · obtain ⟨himage, houtcome⟩ := GenericPass.patch_of_none hpass hnone
      left
      simp only [himage, houtcome]
      exact ⟨rfl, rfl, rfl, rfl, rfl⟩
    · right
      simp [Nat.pos_of_ne_zero hnone]

theorem patchClasses_accounted (rules : PatchRules) (p : PatchPass ι) :
    Accounted p (patchClasses policy rules m p) := by
  have hclasses : Accounted p ((CodeImage.classesIn p.image m).foldl (patchClass policy m)
      ([], p)).2 :=
    Accounted.foldl Prod.snd patchClass_accounted _ ([], p)
  exact hclasses.trans (Accounted.foldl id patchGeneric_accounted _ _)

end PatchPass

end Stages

section Absorb

variable {image : ManagedImage} {m : ModuleId}

theorem ManagedImage.rebind_of_none (image : ManagedImage) (m : ModuleId) (rs : List Rebinding)
    (h : (image.rebind m rs).1 = []) : (image.rebind m rs).2 = image := by
  refine List.foldlRecOn (motive := fun acc : List String × ManagedImage =>
    acc.1 = [] → acc.2 = image) rs (rebindOne m) (b := ([], image)) (fun _ => rfl)
    (fun acc hacc r _ => ?_) h
  obtain hsame | ⟨_, _, _, _, _, hstep⟩ := rebindOne_cases m acc r
  · rwa [hsame]
  · rw [hstep]
    exact fun hnone => absurd hnone (by simp)

theorem Interposition.rebindAll_of_none (batch : List Rebinding) (ms : List ModuleId)
    (image : ManagedImage) (h : (rebindAll batch ms image).1 = []) :
    (rebindAll batch ms image).2 = image := by
  refine List.foldlRecOn (motive := fun acc : List String × ManagedImage =>
    acc.1 = [] → acc.2 = image) ms _ (b := ([], image)) (fun _ => rfl) (fun acc hacc m _ => ?_) h
  intro hnone
  obtain ⟨hbefore, hchanged⟩ := List.append_eq_nil_iff.1 hnone
  exact (acc.2.rebind_of_none m batch hchanged).trans (hacc hbefore)

theorem Interposition.sortedNames_eq_nil {names : List String} (h : sortedNames names = []) :
    names = [] := by
  refine List.eq_nil_iff_forall_not_mem.2 fun name hname => ?_
  have hin := mem_sortedNames.2 hname
  rw [h] at hin
  exact List.not_mem_nil hin

theorem Interposition.absorb_of_none {t : Interposition} {preserve : Bool}
    {done : Absorbed ManagedImage} (h : t.absorb preserve image m = .ok done)
    (hnone : done.rebound = []) : done.image = image := by
  obtain ⟨sequence, _, hs, _⟩ := absorb_cases h
  rw [absorb_eq ManagedImage.reportsSteps.rebind_nil t preserve hs] at h
  obtain rfl := Except.ok.inj h
  obtain ⟨helsewhere, hhere⟩ := List.append_eq_nil_iff.1 (sortedNames_eq_nil hnone)
  exact (ManagedImage.rebind_of_none _ m _ hhere).trans (rebindAll_of_none _ _ image helsewhere)

end Absorb

section Load

variable {r : Reloader} {w : Managed.Process} {loop : MainLoop} {path : Path} {report : LoadReport}

namespace Reloader

/-- A patch that ends with the hint has left the image as it was, and counted nothing. -/
theorem patchIn_hint {m : ModuleId} {patched : Patched ManagedImage}
    (h : r.patchIn w m = .ok patched) (hhint : patched.report.hint = some .nothingPatched) :
    (r.patchPass w m m.number).image = w.image ∧ patched.image = w.image ∧
      patched.report.slotsWritten = 0 ∧ patched.report.selectorsSwizzled = 0 ∧
      patched.report.specializationsPatched = 0 := by
  obtain ⟨done, hdone, rfl⟩ := patchIn_eq h
  obtain ⟨hcount, hrebound⟩ : (r.patchPass w m m.number).report.classesPatched = 0 ∧
      done.rebound = [] := by
    simpa using hhint
  obtain huntouched | hcounted : PatchPass.Accounted _ (r.patchPass w m m.number) :=
    PatchPass.patchClasses_accounted (r.rules w)
      ⟨w.image, r.cache, { module := m, sequence := m.number }⟩
  · exact ⟨huntouched.image,
      (Interposition.absorb_of_none hdone hrebound).trans huntouched.image,
      huntouched.slotsWritten, huntouched.selectorsSwizzled, huntouched.specializationsPatched⟩
  · rw [hcount] at hcounted
    exact absurd hcounted (Nat.not_lt_zero _)

/-- A load that succeeds loads the module and patches it in; then the listeners are told. -/
theorem exists_patchIn (h : (r.load loop w path).result = .ok report) :
    ∃ image patched, CodeImage.loadModule w.image path = (.ok report.module, image) ∧
      patchIn { r with cache := r.cache.moduleLoaded } { w with image } report.module =
        .ok patched ∧
      report = { patched.report with divergences := report.divergences } := by
  unfold load at h
  split at h
  · cases h
  · generalize hl : CodeImage.loadModule w.image path = loaded at h
    obtain ⟨outcome, image⟩ := loaded
    cases outcome with
    | error e => cases h
    | ok m =>
      simp only at h
      split at h
      · cases h
      · rename_i patched hpatched
        obtain ⟨_, _, _, _, _, hm⟩ := patchIn_cases hpatched
        obtain rfl := Except.ok.inj h
        exact ⟨image, patched, by rw [← hm]; rfl, by rw [← hm] at hpatched; exact hpatched, rfl⟩

/-- The hint is no false alarm. After a load that carries it, nothing in the image has changed since
the module was loaded, neither by patching nor by taking the module in, and nothing is counted. -/
theorem load_hint (h : (r.load loop w path).result = .ok report)
    (hhint : report.hint = some .nothingPatched) :
    report.slotsWritten = 0 ∧ report.selectorsSwizzled = 0 ∧ report.specializationsPatched = 0 ∧
      ∃ image patched, CodeImage.loadModule w.image path = (.ok report.module, image) ∧
        let r' : Reloader := { r with cache := r.cache.moduleLoaded }
        r'.patchIn { w with image } report.module = .ok patched ∧
        (r'.patchPass { w with image } report.module report.module.number).image = image ∧
        patched.image = image := by
  obtain ⟨image, patched, hload, hpatched, hreport⟩ := exists_patchIn h
  rw [hreport] at hhint
  obtain ⟨hpass, himage, hslots, hselectors, hspecializations⟩ := patchIn_hint hpatched hhint
  refine ⟨(congrArg LoadReport.slotsWritten hreport).trans hslots,
    (congrArg LoadReport.selectorsSwizzled hreport).trans hselectors,
    (congrArg LoadReport.specializationsPatched hreport).trans hspecializations,
    image, patched, hload, hpatched, hpass, himage⟩

end Reloader

end Load

namespace Hinted

def shape (size : Nat) (method : String) : ModuleSpec Body :=
  oneClass { name := "Shape", size, slots := [("area", method)] } [(method, size)]

def shapes : Loaded ManagedImage :=
  (fresh false).1.loadSpec (fresh false).2 (shape 16 "Shape.area")

/-- A class that grew is to be loaded, with code that nobody calls. -/
def waiting : Managed.Process := staged shapes.world (shape 32 "Shape.grownArea")

theorem load_hint_grown : ∃ report, ∃ image : ManagedImage, ∃ patched,
    (shapes.reloader.load loop waiting stagePath).result = .ok report ∧
    report.hint = some .nothingPatched ∧ report.layoutMismatches = ["Shape"] ∧
    report.slotsWritten = 0 ∧ image.slotAt? ⟨0⟩ 1 = some ⟨0x1000⟩ ∧
    image.slotAt? ⟨1⟩ 1 = some ⟨0x1020⟩ ∧
    shapes.reloader.patchIn { waiting with image } ⟨2⟩ = .ok patched ∧ patched.image = image := by
  obtain ⟨report, hresult, hhint, hmodule, hmismatch⟩ : ∃ report,
      (shapes.reloader.load loop waiting stagePath).result = .ok report ∧
      report.hint = some .nothingPatched ∧ report.module = ⟨2⟩ ∧
      report.layoutMismatches = ["Shape"] := ⟨_, rfl, rfl, rfl, rfl⟩
  obtain ⟨hslots, _, _, image, patched, hload, hpatched, _, himage⟩ :=
    Reloader.load_hint hresult hhint
  obtain ⟨_, hlinked⟩ := Prod.mk.inj hload
  have hold : image.slotAt? ⟨0⟩ 1 = some ⟨0x1000⟩ := by
    rw [← hlinked]
    decide
  have hnew : image.slotAt? ⟨1⟩ 1 = some ⟨0x1020⟩ := by
    rw [← hlinked]
    decide
  rw [hmodule] at hpatched
  exact ⟨report, image, patched, hresult, hhint, hmismatch, hslots, hold, hnew, hpatched, himage⟩

end Hinted

end HotReload
