import HotReload.Proofs.Absorption
import HotReload.Proofs.Confinement
import HotReload.Proofs.Running

/-! # A load in stages

A load that succeeds adds one module, rewrites tables of classes, takes the module into the table
of newest implementations, and then runs code: that of listeners, and that of the sweep.
-/

namespace HotReload

namespace ManagedImage

theorem module?_eq (image : ManagedImage) (n : Nat) :
    image.module? ⟨n + 1⟩ = image.modules[n]? := rfl

/-- A module that is loaded stays as it is when modules are added. -/
theorem module?_of_isPrefix {image after : ManagedImage} (h : image.modules <+: after.modules)
    {m : ModuleId} {k : LinkedModule} (hk : image.module? m = some k) :
    after.module? m = some k := by
  obtain ⟨n⟩ := m
  cases n with
  | zero => simp [module?] at hk
  | succ n =>
    obtain ⟨rest, hr⟩ := h
    have hn : n < image.modules.length := (List.getElem?_eq_some_iff.1 hk).1
    rw [module?_eq] at hk ⊢
    rw [← hr, List.getElem?_append_left hn, hk]

theorem number_of_module? {image : ManagedImage} {m : ModuleId} {k : LinkedModule}
    (h : image.module? m = some k) : 0 < m.number ∧ m.number ≤ image.modules.length := by
  obtain ⟨n⟩ := m
  cases n with
  | zero => simp [module?] at h
  | succ n =>
    have hn : n < image.modules.length := (List.getElem?_eq_some_iff.1 h).1
    exact ⟨Nat.succ_pos n, hn⟩

theorem module?_isSome {image : ManagedImage} {m : ModuleId} (h : 0 < m.number)
    (hm : m.number ≤ image.modules.length) : ∃ k, image.module? m = some k := by
  obtain ⟨n⟩ := m
  cases n with
  | zero => exact absurd h (Nat.lt_irrefl 0)
  | succ n => exact ⟨_, List.getElem?_eq_getElem hm⟩

def linked (image : ManagedImage) (m : ModuleSpec Body) : LinkedModule :=
  let own : LinkedModule :=
    { name := m.name
      functions := place ⟨image.modules.length + 1⟩ image.nextAddress (definitions m)
      callSites := []
      classes := [] }
  { own with
    callSites := image.linkCallSites own m.imports
    classes := m.classes.zipIdx.map fun e => ⟨image.classes.length + e.2⟩ }

theorem link_modules (image : ManagedImage) (m : ModuleSpec Body) :
    (image.link m).2.modules = image.modules ++ [image.linked m] := rfl

def nextModule (image : ManagedImage) : ModuleId := ⟨image.modules.length + 1⟩

theorem load_eq {image after : ManagedImage} {m : ModuleSpec Body} {id : ModuleId}
    (h : image.load m = .ok (id, after)) : id = image.nextModule ∧ after = (image.link m).2 := by
  unfold load at h
  split at h
  · cases h
  · cases h
    exact ⟨rfl, rfl⟩

/-- A staged module that loads is linked into the image without what was staged at its path. -/
theorem loadStaged_ok {image after : ManagedImage} {path : Path} {id : ModuleId}
    (h : image.loadStaged path = (.ok id, after)) :
    ∃ staged m, load { image with staged } m = .ok (id, after) := by
  unfold loadStaged at h
  split at h
  · cases h
  · rename_i e m hm
    simp only at h
    split at h
    · rename_i id' loaded hl
      cases h
      exact ⟨_, m, hl⟩
    · cases h

theorem loadStaged_isLoaded {image after : ManagedImage} {path : Path} {id : ModuleId}
    (h : image.loadStaged path = (.ok id, after)) : ∃ k, after.module? id = some k := by
  obtain ⟨staged, m, hl⟩ := loadStaged_ok h
  obtain ⟨rfl, rfl⟩ := load_eq hl
  refine ⟨_, List.getElem?_concat_length⟩

/-- A staged module that does not load leaves the rest of the image as it was. -/
theorem loadStaged_error {image after : ManagedImage} {path : Path} {e : Failure}
    (h : image.loadStaged path = (.error e, after)) :
    ∃ staged, after = { image with staged } := by
  unfold loadStaged at h
  split at h
  · cases h
    exact ⟨_, rfl⟩
  · simp only at h
    split at h
    · cases h
    · cases h
      exact ⟨_, rfl⟩

end ManagedImage

/-- What a report says of the module, whatever was patched for it. -/
def LoadReport.heading (r : LoadReport) : ModuleId × List String := (r.module, r.classNames)

namespace PatchPass

variable {ι : Type} [CodeImage ι] (policy : SlotPolicy) (m : ModuleId)

omit [CodeImage ι] in
theorem mismatch_heading (p : PatchPass ι) (name : String) :
    (p.mismatch name).report.heading = p.report.heading := by
  unfold mismatch
  split <;> rfl

theorem patchVersion_heading (info : ClassInfo) (new old : ClassId) (p : PatchPass ι) :
    (patchVersion policy m info new old p).2.report.heading = p.report.heading := by
  simp only [patchVersion]
  split
  · split
    · rfl
    · split
      · exact mismatch_heading p info.name
      · rfl
  · split
    · rfl
    · split
      · exact mismatch_heading _ info.name
      · rfl

theorem patchVersions_heading (info : ClassInfo) (v : Versions) (p : PatchPass ι) :
    (patchVersions policy m info v p).report.heading = p.report.heading :=
  patchVersions_induction policy m info v (M := fun q => q.report.heading = p.report.heading) rfl
    (fun q old hq => (patchVersion_heading policy m info v.new old q).trans hq) fun _ _ hq => hq

theorem patchGeneric_heading (rules : PatchRules) (p : PatchPass ι) (g : ClassId) :
    (patchGeneric policy rules m p g).report.heading = p.report.heading := by
  unfold patchGeneric
  split <;> rfl

/-- A class of the module is listed under the name that its descriptor has at that moment. -/
theorem patchClass_heading (acc : List ClassId × PatchPass ι) (c : ClassId) :
    (patchClass policy m acc c).2.report.heading =
      (acc.2.report.module,
        acc.2.report.classNames ++ ((CodeImage.info? acc.2.image c).map (·.name)).toList) := by
  unfold patchClass
  cases hinfo : CodeImage.info? acc.2.image c with
  | none => simp [LoadReport.heading]
  | some info =>
    have hlist : (acc.2.list c info.name).report.heading =
        (acc.2.report.module, acc.2.report.classNames ++ [info.name]) := rfl
    simp only
    split
    · exact hlist
    · split
      · exact hlist
      · split
        · exact (patchVersions_heading policy m _ _ _).trans hlist
        · exact hlist

/-- The report of a patch stays the report of one module. -/
theorem patchClasses_module (rules : PatchRules) (p : PatchPass ι) :
    (patchClasses policy rules m p).report.module = p.report.module := by
  have hclasses := List.foldlRecOn (motive := fun acc : List ClassId × PatchPass ι =>
    acc.2.report.module = p.report.module) (CodeImage.classesIn p.image m) (patchClass policy m)
    (b := ([], p)) rfl fun acc hacc c _ =>
      (congrArg Prod.fst (patchClass_heading policy m acc c)).trans hacc
  exact List.foldlRecOn (motive := fun q : PatchPass ι => q.report.module = p.report.module) _ _
    hclasses fun q hq g _ => (congrArg Prod.fst (patchGeneric_heading policy m rules q g)).trans hq

end PatchPass

namespace Reloader

variable {r : Reloader} {loop : MainLoop} {w : World ManagedImage} {path : Path}
  {report : LoadReport}

/-- The tables of the image after a module was patched in, before call sites are redirected. -/
def patchPass (r : Reloader) (w : World ManagedImage) (m : ModuleId) (sequence : Nat) :
    PatchPass ManagedImage :=
  PatchPass.patchClasses ⟨r.table, r.settings.preserveStatics⟩ (r.rules w) m
    ⟨w.image, r.cache, { module := m, sequence }⟩

/-- Patching writes into the tables of old versions and of specializations. -/
theorem patchPass_confined (r : Reloader) (w : World ManagedImage) (m : ModuleId)
    (sequence : Nat) :
    w.image.Confined
      (fun d => IsOlderVersion w.image m d ∨ IsSpecialization w.image (r.rules w) m d)
      (r.patchPass w m sequence).image :=
  PatchPass.patchClasses_confined ⟨r.table, r.settings.preserveStatics⟩ m (r.rules w)
    ⟨w.image, r.cache, { module := m, sequence }⟩

/-- A patch that succeeds reports what patching counted and what taking the module in rebound. -/
theorem patchIn_eq {m : ModuleId} {patched : Patched ManagedImage}
    (h : r.patchIn w m = .ok patched) :
    let pass := r.patchPass w m m.number
    ∃ done, r.table.absorb r.settings.preserveStatics pass.image m = .ok done ∧
      patched = ⟨done.image, pass.cache, done.table, { pass.report with
        rebound := done.rebound
        hint := if pass.report.classesPatched == 0 && done.rebound.isEmpty then
          some .nothingPatched else none }⟩ := by
  unfold patchIn at h
  split at h
  · cases h
  · rename_i sequence hs
    obtain ⟨k, _, rfl⟩ := Option.map_eq_some_iff.1 hs
    change Except.map _ (r.table.absorb r.settings.preserveStatics
      (r.patchPass w m m.number).image m) = _ at h
    cases ha : r.table.absorb r.settings.preserveStatics (r.patchPass w m m.number).image m with
    | error e =>
      rw [ha] at h
      cases h
    | ok done =>
      rw [ha] at h
      exact ⟨done, ha, (Except.ok.inj h).symm⟩

theorem patchIn_cases {m : ModuleId} {patched : Patched ManagedImage}
    (h : r.patchIn w m = .ok patched) :
    ∃ done,
      r.table.absorb r.settings.preserveStatics (r.patchPass w m m.number).image m = .ok done ∧
      patched.image = done.image ∧ patched.table = done.table ∧
      patched.cache = (r.patchPass w m m.number).cache ∧ patched.report.module = m := by
  obtain ⟨done, ha, rfl⟩ := patchIn_eq h
  exact ⟨done, ha, rfl, rfl, rfl, PatchPass.patchClasses_module _ m _ _⟩

theorem patchIn_isOk (r : Reloader) (w : World ManagedImage) {m : ModuleId} {k : LinkedModule}
    (h : w.image.module? m = some k) : ∃ patched, r.patchIn w m = .ok patched := by
  have hs : CodeImage.sequence? w.image m = some m.number := by simp [CodeImage.sequence?, h]
  have hp : CodeImage.sequence? (r.patchPass w m m.number).image m = some m.number :=
    ((r.patchPass_confined w m m.number).sequence? m).trans hs
  obtain ⟨done, hd⟩ := r.table.absorb_isOk r.settings.preserveStatics hp
  cases hr : r.patchIn w m with
  | ok patched => exact ⟨patched, rfl⟩
  | error e =>
    simp only [patchIn, hs] at hr
    change Except.map _ (r.table.absorb r.settings.preserveStatics
      (r.patchPass w m m.number).image m) = _ at hr
    rw [hd] at hr
    cases hr

/-- The stages of a load that succeeds. Once the module is taken in, only code runs. -/
theorem load_cases (h : (r.load loop w path).result = .ok report) :
    ∃ staged spec m image done, CodeImage.loadModule w.image path = (.ok m, image) ∧
      ManagedImage.load { w.image with staged } spec = .ok (m, image) ∧
      let r' : Reloader := { r with cache := r.cache.moduleLoaded }
      let pass := r'.patchPass { w with image } m m.number
      r.table.absorb r.settings.preserveStatics pass.image m = .ok done ∧
      report.module = m ∧
      (r.load loop w path).reloader = { r with cache := pass.cache, table := done.table } ∧
      ∀ R, Managed.Kept R → R { w with image := done.image } (r.load loop w path).world := by
  unfold load at h ⊢
  split at h
  · cases h
  · rename_i hp
    simp only [hp]
    generalize hl : CodeImage.loadModule w.image path = loaded at h ⊢
    obtain ⟨outcome, image⟩ := loaded
    cases outcome with
    | error e => cases h
    | ok m =>
      simp only at h ⊢
      split at h
      · cases h
      · rename_i patched hr
        obtain ⟨done, ha, hi, ht, hc, hm⟩ := patchIn_cases hr
        obtain ⟨staged, spec, hload⟩ := ManagedImage.loadStaged_ok hl
        refine ⟨staged, spec, m, image, done, rfl, hload, ha, ?_, ?_, fun R hR => ?_⟩
        · obtain rfl := Except.ok.inj h
          exact hm
        · simp [ht, hc]
        · rw [← hi]
          exact hR.trans (hR.tellAll _ _ _ _) (hR.dispatch _ _ _)

theorem load_settings (h : (r.load loop w path).result = .ok report) :
    (r.load loop w path).reloader.settings = r.settings := by
  obtain ⟨_, _, _, _, _, _, _, _, _, hr, _⟩ := load_cases h
  rw [hr]

/-- A module that was just loaded is patched in without a failure, so a load that fails has
changed nothing but what is staged. -/
theorem load_error {e : Failure} (h : (r.load loop w path).result = .error e) :
    (r.load loop w path).reloader = r ∧
      ∃ staged, (r.load loop w path).world = { w with image := { w.image with staged } } := by
  unfold load at h ⊢
  split at h
  · rename_i hp
    simp only [hp]
    exact ⟨rfl, w.image.staged, rfl⟩
  · rename_i hp
    simp only [hp]
    generalize hl : CodeImage.loadModule w.image path = loaded at h ⊢
    obtain ⟨outcome, image⟩ := loaded
    cases outcome with
    | error e' =>
      obtain ⟨staged, rfl⟩ := ManagedImage.loadStaged_error hl
      exact ⟨rfl, staged, rfl⟩
    | ok m =>
      obtain ⟨k, hk⟩ : ∃ k, image.module? m = some k := ManagedImage.loadStaged_isLoaded hl
      obtain ⟨patched, hr⟩ := patchIn_isOk { r with cache := r.cache.moduleLoaded }
        { w with image } hk
      simp [hr] at h

end Reloader

end HotReload
