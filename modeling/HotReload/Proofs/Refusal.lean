import HotReload.Proofs.Sharing

/-! # Loads that are refused

A load is refused when nothing waits at its path, or when what waits there refers to a name that is
nowhere defined. The tables stay as they were, but what waited is used up: it has to be staged again
before the path loads, whatever has been provided meanwhile.
-/

namespace HotReload

namespace ManagedImage

variable {image : ManagedImage} {path : Path} {m : ModuleSpec Body}

def staged? (image : ManagedImage) (path : Path) : Option (ModuleSpec Body) :=
  (image.staged.find? fun e => e.1.parts == path.parts).map (·.2)

def unstage (image : ManagedImage) (path : Path) : ManagedImage :=
  { image with staged := image.staged.filter fun e => e.1.parts != path.parts }

theorem staged?_eq_none :
    image.staged? path = none ↔ ∀ e ∈ image.staged, e.1.parts ≠ path.parts := by
  simp [staged?]

theorem staged?_unstage (image : ManagedImage) (path : Path) :
    (image.unstage path).staged? path = none := by
  refine staged?_eq_none.2 fun e he => ?_
  simpa using (List.mem_filter.1 he).2

theorem unstage_eq_self (h : image.staged? path = none) : image.unstage path = image := by
  have hall : ∀ e ∈ image.staged, (e.1.parts != path.parts) = true :=
    fun e he => by simpa using staged?_eq_none.1 h e he
  rw [unstage, List.filter_eq_self.2 hall]

theorem staged?_of_staged {after : ManagedImage} (h : after.staged = image.staged) :
    after.staged? path = image.staged? path := by
  rw [staged?, h, staged?]

theorem unstage_keeps_none {other : Path} (h : image.staged? path = none) :
    (image.unstage other).staged? path = none :=
  staged?_eq_none.2 fun e he => staged?_eq_none.1 h e (List.mem_filter.1 he).1

theorem stage_keeps_none {other : Path} (h : image.staged? path = none)
    (hne : other.parts ≠ path.parts) : (image.stage other m).staged? path = none := by
  refine staged?_eq_none.2 fun e he => ?_
  rcases List.mem_append.1 he with he | he
  · exact staged?_eq_none.1 h e (List.mem_filter.1 he).1
  · rw [List.mem_singleton.1 he]
    exact hne

theorem staged?_stage (image : ManagedImage) (path : Path) (m : ModuleSpec Body) :
    (image.stage path m).staged? path = some m := by
  have hnone : (image.staged.filter fun e => e.1.parts != path.parts).find?
      (fun e => e.1.parts == path.parts) = none := by simp
  simp [staged?, stage, List.find?_append, hnone]

/-- Why nothing is loaded from a path. -/
inductive Refused (image : ManagedImage) (path : Path) : Failure → Prop where
  | absent : image.staged? path = none → Refused image path (.moduleNotFound path)
  | unresolved {m name} : image.staged? path = some m → name ∈ m.references →
    name ∉ m.defined → image.firstExport? name = none →
    Refused image path (.unresolvedSymbol name m.name)

theorem unresolved?_eq_some {name : String} (h : image.unresolved? m = some name) :
    name ∈ m.references ∧ name ∉ m.defined ∧ image.firstExport? name = none := by
  have hname := List.find?_some h
  simp only [Bool.and_eq_true, Bool.not_eq_true', List.contains_eq_mem, decide_eq_false_iff_not,
    Option.isNone_iff_eq_none] at hname
  exact ⟨List.mem_of_find?_eq_some h, hname⟩

theorem not_refused (hs : image.staged? path = some m) (hu : image.unresolved? m = none)
    {e : Failure} : ¬image.Refused path e := by
  intro h
  cases h with
  | absent hnone => cases hs.symm.trans hnone
  | unresolved hs' href hdef hexport =>
    obtain rfl := Option.some.inj (hs.symm.trans hs')
    simpa [hdef, hexport] using List.find?_eq_none.1 hu _ href

/-- A module whose references are all defined is loaded; anything else is refused, and what waited
at the path is gone either way. -/
theorem loadStaged_cases (image : ManagedImage) (path : Path) :
    (∃ e, image.Refused path e ∧ image.loadStaged path = (.error e, image.unstage path)) ∨
    ∃ m, image.staged? path = some m ∧ image.unresolved? m = none ∧
      image.loadStaged path = (.ok image.nextModule, ((image.unstage path).link m).2) := by
  cases hs : image.staged.find? fun e => e.1.parts == path.parts with
  | none =>
    have habsent : image.staged? path = none := by simp [staged?, hs]
    refine .inl ⟨_, .absent habsent, ?_⟩
    rw [unstage_eq_self habsent, loadStaged, hs]
  | some e =>
    obtain ⟨p, m⟩ := e
    have hwaits : image.staged? path = some m := by simp [staged?, hs]
    cases hu : image.unresolved? m with
    | some name =>
      obtain ⟨href, hdef, hexport⟩ := unresolved?_eq_some hu
      have hload : (image.unstage path).load m = .error (.unresolvedSymbol name m.name) := by
        simp only [load, show (image.unstage path).unresolved? m = some name from hu]
      refine .inl ⟨_, .unresolved hwaits href hdef hexport, ?_⟩
      simp only [unstage] at hload
      simp only [loadStaged, hs, hload, unstage]
    | none =>
      have hload : (image.unstage path).load m = .ok ((image.unstage path).link m) := by
        simp only [load, show (image.unstage path).unresolved? m = none from hu]
      refine .inr ⟨m, hwaits, hu, ?_⟩
      simp only [unstage] at hload ⊢
      simp only [loadStaged, hs, hload]
      rfl

theorem staged_loadStaged (image : ManagedImage) (path : Path) :
    (image.loadStaged path).2.staged = (image.unstage path).staged := by
  obtain ⟨e, _, h⟩ | ⟨m, _, _, h⟩ := image.loadStaged_cases path <;> rw [h]
  rfl

theorem Rebound.staged {after : ManagedImage} (h : image.Rebound after) :
    after.staged = image.staged := by
  have hs := congrArg ManagedImage.staged h.rest
  exact hs

theorem Confined.staged {D : ClassId → Prop} {after : ManagedImage} (h : image.Confined D after) :
    after.staged = image.staged := by
  have hs := congrArg ManagedImage.staged h.rest
  exact hs

end ManagedImage

namespace Managed

/-- Running code stages nothing and uses nothing up: a body loads modules that it carries itself. -/
theorem staged_kept : Kept fun w w' => w'.image.staged = w.image.staged where
  refl _ := rfl
  trans h h' := h'.trans h
  setField w o name v := by
    unfold World.setField
    split <;> rfl
  write _ _ := rfl
  count _ _ := rfl
  specialize h := by
    obtain rfl | ⟨k, _, _, hw | ⟨r, hw⟩⟩ := specialize_cases h
    · rfl
    · rw [hw]
      rfl
    · rw [hw]
      rfl
  load h := by
    rw [load_eq h]
    rfl
  create h := by
    obtain ⟨i, _, hw⟩ := create_eq h
    rw [hw]

namespace Command

def restages : Command → Bool
  | .stage _ _ | .loadStaged _ => true
  | _ => false

theorem staged_orElse {w : Process} {x : Except Failure ManagedImage}
    (h : ∀ image, x = .ok image → image.staged = w.image.staged) :
    (orElse w (x.map fun image => ((), { w with image }))).image.staged = w.image.staged := by
  cases x with
  | error e => rfl
  | ok image => exact h image rfl

theorem staged_perform {c : Command} (hc : c.restages = false) (w : Process) :
    (c.perform w).image.staged = w.image.staged := by
  have hcode {α : Type} (r : Except Failure (α × Process))
      (hr : ∀ a w', r = .ok (a, w') → w'.image.staged = w.image.staged) :
      (orElse w r).image.staged = w.image.staged :=
    orElse_keeps (R := fun w w' => w'.image.staged = w.image.staged) w r rfl hr
  cases c with
  | stage path m => cases hc
  | loadStaged path => cases hc
  | load m => exact hcode _ fun _ _ => staged_kept.load
  | specialize definition arguments => exact hcode _ fun _ _ => staged_kept.specialize
  | create c => exact hcode _ fun _ _ => staged_kept.create
  | setField o field v => exact staged_kept.setField w o field v
  | nameObject name o => rfl
  | call a receiver args => exact staged_kept.callAt callDepth a receiver args w
  | sweep rules roots => exact hcode _ fun _ _ => staged_kept.sweep
  | writeSlot c index a =>
    exact staged_orElse fun _ hi => (ManagedImage.writeSlot_confined hi).staged
  | replaceSelector c t selector a =>
    exact staged_orElse fun _ hi => (ManagedImage.replaceSelector_confined hi).staged
  | rebind m rs => exact (ManagedImage.rebind_rebound w.image m rs).staged
  | observe recorder =>
    refine staged_orElse fun image hi => ?_
    simp only [CodeImage.observe] at hi
    split at hi
    · cases hi
      rfl
    · cases hi
  | addRecorder => rfl

def stages (path : Path) : Command → Bool
  | .stage other _ => other.parts == path.parts
  | _ => false

theorem staged?_perform {c : Command} {path : Path} {w : Process} (hc : c.stages path = false)
    (h : w.image.staged? path = none) : (c.perform w).image.staged? path = none := by
  cases hr : c.restages with
  | false => exact ManagedImage.staged?_of_staged (staged_perform hr w) ▸ h
  | true =>
    cases c with
    | stage other m => exact ManagedImage.stage_keeps_none h (by simpa [stages] using hc)
    | loadStaged other =>
      rw [← ManagedImage.unstage_keeps_none h]
      exact ManagedImage.staged?_of_staged (w.image.staged_loadStaged other)
    | _ => cases hr

end Command

end Managed

section Loads

open Managed

variable {r : Reloader} {loop : MainLoop} {w : Process} {path : Path}

namespace Reloader

theorem load_isOk_of_loaded (r : Reloader) (loop : MainLoop) (hp : path.isEmpty = false)
    {m : ModuleId} {image : ManagedImage}
    (hl : CodeImage.loadModule w.image path = (.ok m, image)) :
    ∃ report, (r.load loop w path).result = .ok report := by
  obtain ⟨k, hk⟩ := ManagedImage.loadStaged_isLoaded hl
  obtain ⟨patched, hr⟩ := patchIn_isOk { r with cache := r.cache.moduleLoaded }
    { w with image } hk
  simp [load, hp, hl, hr]

/-- A load fails before anything is patched in. -/
theorem load_error_cases {e : Failure} (h : (r.load loop w path).result = .error e) :
    (path.isEmpty = true ∧ e = .emptyModulePath ∧ r.load loop w path = ⟨.error e, r, loop, w⟩) ∨
    (path.isEmpty = false ∧ w.image.Refused path e ∧
      r.load loop w path = ⟨.error e, r, loop, { w with image := w.image.unstage path }⟩) := by
  cases hp : path.isEmpty with
  | true =>
    have hload : r.load loop w path = ⟨.error .emptyModulePath, r, loop, w⟩ := by simp [load, hp]
    rw [hload] at h ⊢
    cases h
    exact .inl ⟨rfl, rfl, rfl⟩
  | false =>
    obtain ⟨e', hrefused, hl⟩ | ⟨m, _, _, hl⟩ := w.image.loadStaged_cases path
    · have hload : r.load loop w path =
          ⟨.error e', r, loop, { w with image := w.image.unstage path }⟩ := by
        simp [load, hp, CodeImage.loadModule, hl]
      rw [hload] at h ⊢
      cases h
      exact .inr ⟨rfl, hrefused, rfl⟩
    · obtain ⟨report, hr⟩ := r.load_isOk_of_loaded loop hp hl
      cases h.symm.trans hr

theorem load_absent (r : Reloader) (loop : MainLoop) (hp : path.isEmpty = false)
    (hs : w.image.staged? path = none) :
    (r.load loop w path).result = .error (.moduleNotFound path) := by
  obtain ⟨e, hrefused, hl⟩ | ⟨m, hs', _⟩ := w.image.loadStaged_cases path
  · cases hrefused with
    | absent => simp [load, hp, CodeImage.loadModule, hl]
    | unresolved hs' => cases hs.symm.trans hs'
  · cases hs.symm.trans hs'

theorem load_isOk (r : Reloader) (loop : MainLoop) (hp : path.isEmpty = false)
    {m : ModuleSpec Body} (hs : w.image.staged? path = some m) (hu : w.image.unresolved? m = none) :
    ∃ report, (r.load loop w path).result = .ok report := by
  obtain ⟨e, hrefused, _⟩ | ⟨m', _, _, hl⟩ := w.image.loadStaged_cases path
  · exact absurd hrefused (ManagedImage.not_refused hs hu)
  · exact r.load_isOk_of_loaded loop hp hl

theorem staged?_load (r : Reloader) (loop : MainLoop) {w : Process} (other : Path) {path : Path}
    (h : w.image.staged? path = none) :
    (r.load loop w other).world.image.staged? path = none := by
  cases hr : (r.load loop w other).result with
  | error e =>
    obtain ⟨_, _, hload⟩ | ⟨_, _, hload⟩ := load_error_cases hr
    · rw [hload]
      exact h
    · rw [hload]
      exact ManagedImage.unstage_keeps_none h
  | ok report =>
    obtain ⟨_, _, m, image, done, hl, _, ha, _, _, hcode⟩ := load_cases hr
    have hloaded : image.staged = (w.image.unstage other).staged := by
      rw [← ManagedImage.staged_loadStaged]
      exact congrArg (·.2.staged) hl.symm
    have hpatched := (patchPass_confined { r with cache := r.cache.moduleLoaded }
      { w with image } m m.number).staged
    have habsorbed := (Interposition.absorb_rebound ha).staged
    have hran := hcode _ staged_kept
    rw [ManagedImage.staged?_of_staged (hran.trans (habsorbed.trans (hpatched.trans hloaded)))]
    exact ManagedImage.unstage_keeps_none h

end Reloader

/-- What a process goes through while nothing is staged at the path: commands of the host, loads,
and what main loops do. -/
inductive Meanwhile (path : Path) (w : Process) : Process → Prop where
  | start : Meanwhile path w w
  | act {w'} (c : Command) :
    Meanwhile path w w' → c.stages path = false → Meanwhile path w (c.perform w')
  | load {w'} (r : Reloader) (loop : MainLoop) (other : Path) :
    Meanwhile path w w' → Meanwhile path w (r.load loop w' other).world
  | runPending {w'} (loop : MainLoop) :
    Meanwhile path w w' → Meanwhile path w (loop.runPending w').2.2

/-- What is used up does not come back. -/
theorem Meanwhile.staged? {w' : Process} (h : Meanwhile path w w')
    (hw : w.image.staged? path = none) : w'.image.staged? path = none := by
  induction h with
  | start => exact hw
  | act c _ hc ih => exact Command.staged?_perform hc ih
  | load r loop other _ ih => exact r.staged?_load loop other ih
  | runPending loop _ ih =>
    rw [ManagedImage.staged?_of_staged (staged_kept.runPending loop _)]
    exact ih

namespace Reloader

/-- A load that is refused leaves everything as it was, except that nothing waits at its path any
more. Whatever happens next, the path is not found again until something is staged there; then it
loads as soon as every reference is defined. -/
theorem load_refused (path : Path) :
    (∀ (image : ManagedImage) (e : Failure), (CodeImage.loadModule image path).1 = .error e →
      image.Refused path e ∧ (CodeImage.loadModule image path).2 = image.unstage path) ∧
    ∀ (r : Reloader) (loop : MainLoop) (w : Process) (e : Failure),
      (r.load loop w path).result = .error e →
      (path.isEmpty = true ∧ e = .emptyModulePath ∧
        r.load loop w path = ⟨.error e, r, loop, w⟩) ∨
      (path.isEmpty = false ∧ w.image.Refused path e ∧
        r.load loop w path = ⟨.error e, r, loop, { w with image := w.image.unstage path }⟩ ∧
        ∀ w', Meanwhile path (r.load loop w path).world w' →
          ∀ (r' : Reloader) (loop' : MainLoop),
            (r'.load loop' w' path).result = .error (.moduleNotFound path) ∧
            ∀ m, w'.image.unresolved? m = none → ∃ report,
              (r'.load loop' { w' with image := w'.image.stage path m } path).result =
                .ok report) := by
  refine ⟨fun image e h => ?_, fun r loop w e h => ?_⟩
  · change (image.loadStaged path).1 = .error e at h
    obtain ⟨e', hrefused, hl⟩ | ⟨m, _, _, hl⟩ := image.loadStaged_cases path
    · rw [hl] at h
      cases h
      exact ⟨hrefused, congrArg (·.2) hl⟩
    · rw [hl] at h
      cases h
  · obtain hempty | ⟨hp, hrefused, hload⟩ := load_error_cases h
    · exact .inl hempty
    refine .inr ⟨hp, hrefused, hload, fun w' hw' r' loop' => ⟨?_, fun m hm => ?_⟩⟩
    · have hnone : w'.image.staged? path = none := by
        refine hw'.staged? ?_
        rw [hload]
        exact w.image.staged?_unstage path
      exact r'.load_absent loop' hp hnone
    · exact r'.load_isOk loop' hp (w'.image.staged?_stage path m) hm

end Reloader

end Loads

namespace Retry

open Managed

def caller : ModuleSpec Body := { name := "caller", imports := ["callee"] }

def callee : ModuleSpec Body :=
  { name := "callee", functions := [⟨"callee", .function, .constant (.int 1)⟩] }

/-- The first attempt to load the caller, from a process in which nothing is loaded yet. -/
def attempt : Loaded ManagedImage := (fresh false).1.loadSpec (fresh false).2 caller

def provided : Process := (Command.load callee).perform attempt.world

theorem load_refused_caller :
    attempt.result = .error (.unresolvedSymbol "callee" "caller") ∧
    (attempt.reloader.load loop provided stagePath).result = .error (.moduleNotFound stagePath) ∧
    ∃ report, (attempt.reloader.loadSpec provided caller).result = .ok report := by
  have hfailed : attempt.result = .error (.unresolvedSymbol "callee" "caller") := rfl
  obtain ⟨_, hloads⟩ := Reloader.load_refused stagePath
  obtain ⟨hempty, _⟩ | ⟨_, _, _, hlater⟩ := hloads _ _ _ _ hfailed
  · cases hempty
  obtain ⟨hretried, hrestaged⟩ :=
    hlater provided (.act (.load callee) .start rfl) attempt.reloader loop
  exact ⟨hfailed, hretried, hrestaged caller rfl⟩

/-- The load fails and takes the module that was staged for it away, so it cannot be retried when
the missing name is there. -/
theorem not_load_retried :
    (staged (fresh false).2 caller).image.staged? stagePath = some caller ∧
    attempt.result = .error (.unresolvedSymbol "callee" "caller") ∧
    attempt.world.image.staged.length = 0 ∧
    provided.image.unresolved? caller = none ∧
    (attempt.reloader.load loop provided stagePath).result =
      .error (.moduleNotFound stagePath) :=
  ⟨rfl, rfl, rfl, rfl, rfl⟩

end Retry

end HotReload
