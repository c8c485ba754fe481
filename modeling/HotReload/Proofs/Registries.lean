import HotReload.Proofs.Allocating

/-! # Registries that share an image

Any number of registries of specializations may be installed on one image, by themselves or inside
reloaders. The image records into the one that was installed last. A registry that was displaced
goes on to say that it is installed, and misses every specialization from then on.
-/

namespace HotReload

open Managed (Allocates Command Handled Process Valid)

theorem Tracker.install_cases (t : Tracker) (image : ManagedImage) (enabled : Bool) :
    t.install image enabled = (t, image) ∨
      t.state = .disabled ∧
        (t.install image enabled = ({ t with state := .installed },
            { image with recorder := some t.recorder }) ∨
          t.install image enabled = ({ t with state := .unavailable }, image)) := by
  unfold install
  split
  · exact .inl rfl
  · rename_i h
    have hstate : t.state = .disabled := by
      cases hs : t.state <;> simp [hs] at h ⊢
    refine .inr ⟨hstate, ?_⟩
    simp only [CodeImage.observe]
    cases hh : image.hasHook with
    | true => exact .inl (by simp)
    | false => exact .inr (by simp)

theorem Tracker.install_recorder (t : Tracker) (image : ManagedImage) (enabled : Bool) :
    (t.install image enabled).1.recorder = t.recorder := by
  obtain h | ⟨_, h | h⟩ := t.install_cases image enabled <;> rw [h]

/-- A registry of specializations in the course of a run. -/
structure Registry where
  tracker : Tracker
  /-- How many descriptors there were when it was installed. -/
  since : Nat := 0
  /-- How many there were when another registry was installed after it. -/
  stop : Option Nat := none
deriving DecidableEq

namespace Registry

/-- What an attempt to install a tracker makes of a registry. -/
def attempt (t : Tracker) (image : ManagedImage) (enabled : Bool) (g : Registry) : Registry :=
  let tried := (t.install image enabled).1
  let installs := tried.isInstalled && !t.isInstalled
  if g.tracker.recorder = t.recorder then
    if installs then { tracker := tried, since := image.classes.length }
    else { g with tracker := tried }
  else if installs then { g with stop := g.stop.or (some image.classes.length) }
  else g

/-- What an installed registry has recorded: all that was allocated under its eyes. -/
structure Records (g : Registry) (w : Process) : Prop where
  since_le : g.since ≤ w.image.classes.length
  stop_le : ∀ n, g.stop = some n → n ≤ w.image.classes.length
  current : g.stop = none ↔ w.image.recorder = some g.tracker.recorder
  under : ∀ base, (w.recorded g.tracker.recorder).under base =
    w.image.allocatedUnder g.since g.stop base

/-- Nothing is recorded for a registry that is not installed. -/
structure Idle (g : Registry) (w : Process) : Prop where
  current : w.image.recorder ≠ some g.tracker.recorder
  under : ∀ base, (w.recorded g.tracker.recorder).under base = []

end Registry

/-- The registries that were ever made for the image of a process, whoever owns them. -/
inductive Registries : List Registry → Process → Prop where
  | empty (w : Process) {hasHook : Bool} {staged} :
    w.image = { ManagedImage.empty hasHook with staged } → (∀ s ∈ w.recorders, s = {}) →
      Registries [] w
  | create {gs w} :
    Registries gs w →
      Registries (gs ++ [{ tracker := { recorder := w.addRecorder.1 } }]) w.addRecorder.2
  | install {gs w g} (enabled : Bool) :
    Registries gs w → g ∈ gs →
      Registries (gs.map (Registry.attempt g.tracker w.image enabled))
        { w with image := (g.tracker.install w.image enabled).2 }
  | step {gs w w'} :
    Registries gs w → Managed.Step w w' → w'.image.recorder = w.image.recorder → Registries gs w'

theorem ManagedImage.allocatedUnder_append {image after : ManagedImage}
    {more : List (ClassId × String)} (h : after.allocated = image.allocated ++ more) (since : Nat)
    (stop : Option Nat) (base : String) : after.allocatedUnder since stop base =
      image.allocatedUnder since stop base ++ (more.filter fun e =>
        decide (since ≤ e.1.index) && stop.all (fun n => decide (e.1.index < n)) &&
          TypeName.base e.2 == base).map (·.1) := by
  simp [allocatedUnder, h]

theorem ManagedImage.mem_allocatedUnder {image : ManagedImage} {since : Nat} {stop : Option Nat}
    {base : String} {c : ClassId} : c ∈ image.allocatedUnder since stop base ↔
      ∃ name, (c, name) ∈ image.allocated ∧ since ≤ c.index ∧
        (∀ n, stop = some n → c.index < n) ∧ TypeName.base name = base := by
  simp only [allocatedUnder, List.mem_map, List.mem_filter, Bool.and_eq_true, decide_eq_true_eq,
    beq_iff_eq, Option.all_eq_true]
  constructor
  · rintro ⟨⟨_, name⟩, ⟨he, ⟨hsince, hstop⟩, hbase⟩, rfl⟩
    exact ⟨name, he, hsince, hstop, hbase⟩
  · rintro ⟨name, he, hsince, hstop, hbase⟩
    exact ⟨(c, name), ⟨he, ⟨hsince, hstop⟩, hbase⟩, rfl⟩

/-- Nothing has been allocated yet with the next identity. -/
theorem ManagedImage.allocatedUnder_length (image : ManagedImage) (base : String) :
    image.allocatedUnder image.classes.length none base = [] := by
  rw [allocatedUnder, List.map_eq_nil_iff, List.filter_eq_nil_iff]
  intro e he
  have hlt := index_lt_of_mem_allocated he
  simp
  omega

/-- A window that ends now is one that is open. -/
theorem ManagedImage.allocatedUnder_stop (image : ManagedImage) (since : Nat) (base : String) :
    image.allocatedUnder since (some image.classes.length) base =
      image.allocatedUnder since none base := by
  refine congrArg (List.map _) (List.filter_congr fun e he => ?_)
  simp [index_lt_of_mem_allocated he]

namespace Registry

variable {g : Registry} {w w' : Process}

theorem Records.allocates (h : g.Records w) (hr : g.tracker.recorder.index < w.recorders.size)
    (ha : Allocates w w') : g.Records w' := by
  obtain ⟨more, hmore, hfresh, hrecorded⟩ := ha.recorded
  refine ⟨Nat.le_trans h.since_le ha.classes,
    fun n hn => Nat.le_trans (h.stop_le n hn) ha.classes, ?_, fun base => ?_⟩
  · rw [ha.recorder]
    exact h.current
  · rw [hrecorded _ hr base, h.under base, ManagedImage.allocatedUnder_append hmore,
      List.append_cancel_left_eq]
    cases hstop : g.stop with
    | none =>
      rw [if_pos (h.current.1 hstop)]
      refine congrArg (List.map _) (List.filter_congr fun e he => ?_)
      have hle := Nat.le_trans h.since_le (hfresh e he)
      simp [hle]
    | some n =>
      have hdisplaced : w.image.recorder ≠ some g.tracker.recorder := fun hc => by
        rw [h.current.2 hc] at hstop
        cases hstop
      rw [if_neg hdisplaced, eq_comm, List.map_eq_nil_iff, List.filter_eq_nil_iff]
      intro e he
      have hle := Nat.le_trans (h.stop_le n hstop) (hfresh e he)
      simp
      omega

theorem Idle.allocates (h : g.Idle w) (hr : g.tracker.recorder.index < w.recorders.size)
    (ha : Allocates w w') : g.Idle w' := by
  obtain ⟨more, _, _, hrecorded⟩ := ha.recorded
  refine ⟨?_, fun base => ?_⟩
  · rw [ha.recorder]
    exact h.current
  · rw [hrecorded _ hr base, h.under base, if_neg h.current]
    rfl

theorem Records.displace (h : g.Records w) {r : RecorderId} (hr : r ≠ g.tracker.recorder) :
    Records { g with stop := g.stop.or (some w.image.classes.length) }
      { w with image := { w.image with recorder := some r } } := by
  refine ⟨h.since_le, fun n hn => ?_, ?_, fun base => (h.under base).trans ?_⟩
  · cases hstop : g.stop with
    | none =>
      simp only [hstop, Option.none_or, Option.some.injEq] at hn
      exact Nat.le_of_eq hn.symm
    | some m =>
      simp only [hstop, Option.some_or, Option.some.injEq] at hn
      exact hn ▸ h.stop_le m hstop
  · cases hstop : g.stop <;> simp [hr]
  · cases hstop : g.stop with
    | none => exact (w.image.allocatedUnder_stop g.since base).symm
    | some m => rfl

theorem Idle.displace (h : g.Idle w) {r : RecorderId} (hr : r ≠ g.tracker.recorder)
    (stop : Option Nat) :
    Idle { g with stop } { w with image := { w.image with recorder := some r } } :=
  ⟨fun hc => hr (Option.some.inj hc), h.under⟩

theorem Idle.install (h : g.Idle w) :
    Records { tracker := { g.tracker with state := .installed }, since := w.image.classes.length }
      { w with image := { w.image with recorder := some g.tracker.recorder } } where
  since_le := Nat.le_refl _
  stop_le _ hn := nomatch hn
  current := ⟨fun _ => rfl, fun _ => rfl⟩
  under base := (h.under base).trans (w.image.allocatedUnder_length base).symm

section Attempts

variable {t : Tracker} {image : ManagedImage} {enabled : Bool}

theorem attempt_recorder (t : Tracker) (image : ManagedImage) (enabled : Bool) (g : Registry) :
    (g.attempt t image enabled).tracker.recorder = g.tracker.recorder := by
  unfold attempt
  simp only
  split
  · rename_i hg
    split <;> rw [hg, ← t.install_recorder image enabled]
  · split <;> rfl

theorem attempt_of_installed (ht : t.state = .disabled) (h : t.install image enabled =
      ({ t with state := .installed }, { image with recorder := some t.recorder })) :
    g.attempt t image enabled =
      if g.tracker.recorder = t.recorder then
        { tracker := { t with state := .installed }, since := image.classes.length }
      else { g with stop := g.stop.or (some image.classes.length) } := by
  simp [attempt, h, Tracker.isInstalled, ht]

theorem attempt_of_unavailable
    (h : t.install image enabled = ({ t with state := .unavailable }, image)) :
    g.attempt t image enabled =
      if g.tracker.recorder = t.recorder then { g with tracker := { t with state := .unavailable } }
      else g := by
  simp [attempt, h, Tracker.isInstalled]

theorem attempt_of_idle (h : t.install image enabled = (t, image)) :
    g.attempt t image enabled =
      if g.tracker.recorder = t.recorder then { g with tracker := t } else g := by
  simp [attempt, h]

end Attempts

end Registry

/-- What is so of the registries of an image at any time. -/
structure Consistent (gs : List Registry) (w : Process) : Prop where
  valid : Valid w
  known : ∀ r, w.image.recorder = some r → r.index < w.recorders.size
  exists_recorder : ∀ g ∈ gs, g.tracker.recorder.index < w.recorders.size
  distinct : ∀ g ∈ gs, ∀ g' ∈ gs, g.tracker.recorder = g'.tracker.recorder → g = g'
  occupied : ∀ g ∈ gs, g.tracker.isInstalled = true →
    ∃ g' ∈ gs, w.image.recorder = some g'.tracker.recorder
  records : ∀ g ∈ gs, g.tracker.isInstalled = true → g.Records w
  idle : ∀ g ∈ gs, g.tracker.isInstalled = false → g.Idle w

namespace Consistent

variable {gs : List Registry} {g : Registry} {w w' : Process}

theorem of_empty {hasHook : Bool} {staged : List (Path × ModuleSpec Body)}
    (himage : w.image = { ManagedImage.empty hasHook with staged })
    (hrecorders : ∀ s ∈ w.recorders, s = {}) : Consistent [] w := by
  refine ⟨Valid.of_empty himage hrecorders, fun r hr => ?_, ?_, ?_, ?_, ?_, ?_⟩
  · rw [himage] at hr
    cases hr
  all_goals exact fun g hg => absurd hg List.not_mem_nil

theorem allocates (h : Consistent gs w) (hvalid : Valid w') (ha : Allocates w w') :
    Consistent gs w' where
  valid := hvalid
  known r hr := Nat.lt_of_lt_of_le (h.known r (ha.recorder ▸ hr)) ha.recorders
  exists_recorder g hg := Nat.lt_of_lt_of_le (h.exists_recorder g hg) ha.recorders
  distinct := h.distinct
  occupied g hg hi := by
    rw [ha.recorder]
    exact h.occupied g hg hi
  records g hg hi := (h.records g hg hi).allocates (h.exists_recorder g hg) ha
  idle g hg hi := (h.idle g hg hi).allocates (h.exists_recorder g hg) ha

theorem create (h : Consistent gs w) :
    Consistent (gs ++ [{ tracker := { recorder := w.addRecorder.1 } }]) w.addRecorder.2 := by
  obtain ⟨hvalid, ha⟩ := Managed.allocates_handled.recorders w h.valid
  have hold := h.allocates hvalid ha
  have hnew : w.addRecorder.1.index = w.recorders.size := rfl
  have hne (g) (hg : g ∈ gs) : g.tracker.recorder ≠ w.addRecorder.1 := fun he => by
    have hlt := h.exists_recorder g hg
    rw [he, hnew] at hlt
    exact Nat.lt_irrefl _ hlt
  refine ⟨hvalid, hold.known, ?_, ?_, ?_, ?_, ?_⟩
  · intro g hg
    rcases List.mem_append.1 hg with hg | hg
    · exact hold.exists_recorder g hg
    · obtain rfl := List.mem_singleton.1 hg
      simp [World.addRecorder]
  · intro g hg g' hg' he
    rcases List.mem_append.1 hg with hg | hg <;> rcases List.mem_append.1 hg' with hg' | hg'
    · exact h.distinct g hg g' hg' he
    · obtain rfl := List.mem_singleton.1 hg'
      exact absurd he (hne g hg)
    · obtain rfl := List.mem_singleton.1 hg
      exact absurd he.symm (hne g' hg')
    · rw [List.mem_singleton.1 hg, List.mem_singleton.1 hg']
  · intro g hg hi
    rcases List.mem_append.1 hg with hg | hg
    · obtain ⟨g', hg', he⟩ := hold.occupied g hg hi
      exact ⟨g', List.mem_append_left _ hg', he⟩
    · obtain rfl := List.mem_singleton.1 hg
      cases hi
  · intro g hg hi
    rcases List.mem_append.1 hg with hg | hg
    · exact hold.records g hg hi
    · obtain rfl := List.mem_singleton.1 hg
      cases hi
  · intro g hg hi
    rcases List.mem_append.1 hg with hg | hg
    · exact hold.idle g hg hi
    · obtain rfl := List.mem_singleton.1 hg
      refine ⟨fun hc => Nat.lt_irrefl _ (h.known _ hc), fun base => ?_⟩
      rw [World.recorded_addRecorder, World.recorded, hnew, Array.getElem?_eq_none (Nat.le_refl _)]
      rfl

theorem map (h : Consistent gs w) {f : Registry → Registry} {recorder : Option RecorderId}
    (hrecorder : ∀ g ∈ gs, (f g).tracker.recorder = g.tracker.recorder)
    (hknown : ∀ r, recorder = some r → r.index < w.recorders.size)
    (hoccupied : ∀ g ∈ gs, (f g).tracker.isInstalled = true →
      ∃ g' ∈ gs, recorder = some g'.tracker.recorder)
    (hright : ∀ g ∈ gs,
      ((f g).tracker.isInstalled = true →
        (f g).Records { w with image := { w.image with recorder } }) ∧
      ((f g).tracker.isInstalled = false →
        (f g).Idle { w with image := { w.image with recorder } })) :
    Consistent (gs.map f) { w with image := { w.image with recorder } } := by
  refine ⟨Managed.valid_held.observed w recorder h.valid, hknown, ?_, ?_, ?_, ?_, ?_⟩ <;>
    simp only [List.forall_mem_map]
  · intro g hg
    rw [hrecorder g hg]
    exact h.exists_recorder g hg
  · intro g hg g' hg' he
    rw [hrecorder g hg, hrecorder g' hg'] at he
    rw [h.distinct g hg g' hg' he]
  · intro g hg hi
    obtain ⟨g', hg', he⟩ := hoccupied g hg hi
    exact ⟨f g', List.mem_map_of_mem hg', by rw [hrecorder g' hg', he]⟩
  · exact fun g hg => (hright g hg).1
  · exact fun g hg => (hright g hg).2

/-- An attempt to install a registry leaves all of them right. -/
theorem install (h : Consistent gs w) (hg : g ∈ gs) (enabled : Bool) :
    Consistent (gs.map (Registry.attempt g.tracker w.image enabled))
      { w with image := (g.tracker.install w.image enabled).2 } := by
  have hself {g'} (hg' : g' ∈ gs) (he : g'.tracker.recorder = g.tracker.recorder) : g' = g :=
    h.distinct g' hg' g hg he
  have hrecorder g' (_ : g' ∈ gs) := Registry.attempt_recorder g.tracker w.image enabled g'
  obtain hnone | ⟨hstate, hdone | hdone⟩ := g.tracker.install_cases w.image enabled
  · have hgs : gs.map (Registry.attempt g.tracker w.image enabled) = gs.map id := by
      refine List.map_congr_left fun g' hg' => ?_
      rw [Registry.attempt_of_idle hnone]
      split
      · rename_i he
        rw [hself hg' he]
        rfl
      · rfl
    rw [hgs, List.map_id, hnone]
    exact h
  all_goals
    have hidle := h.idle g hg (by simp [Tracker.isInstalled, hstate])
    rw [hdone]
  · refine h.map hrecorder ?_ ?_ fun g' hg' => ?_
    · intro r hr
      cases hr
      exact h.exists_recorder g hg
    · exact fun _ _ _ => ⟨g, hg, rfl⟩
    · rw [Registry.attempt_of_installed hstate hdone]
      by_cases he : g'.tracker.recorder = g.tracker.recorder
      · rw [if_pos he]
        exact ⟨fun _ => hidle.install, fun hi => nomatch hi⟩
      · rw [if_neg he]
        exact ⟨fun hi => (h.records g' hg' hi).displace (Ne.symm he),
          fun hi => (h.idle g' hg' hi).displace (Ne.symm he) _⟩
  · refine h.map hrecorder h.known ?_ fun g' hg' => ?_
    · intro g' hg' hi
      rw [Registry.attempt_of_unavailable hdone] at hi
      split at hi
      · cases hi
      · exact h.occupied g' hg' hi
    · rw [Registry.attempt_of_unavailable hdone]
      by_cases he : g'.tracker.recorder = g.tracker.recorder
      · rw [if_pos he]
        exact ⟨fun hi => (nomatch hi), fun _ => ⟨hidle.current, hidle.under⟩⟩
      · rw [if_neg he]
        exact ⟨h.records g' hg', h.idle g' hg'⟩

end Consistent

/-- A step after which the image records where it did before. -/
theorem Managed.Handled.step {R : Process → Process → Prop} (h : Handled R) {w w' : Process}
    (hs : Managed.Step w w') (hr : w'.image.recorder = w.image.recorder) : R w w' := by
  cases hs with
  | act c =>
    cases ho : c.observes with
    | false => exact h.perform ho w
    | true =>
      cases c with
      | observe r =>
        simp only [Command.perform, CodeImage.observe] at hr ⊢
        split
        · rename_i hh
          rw [if_pos hh] at hr
          simp only [Except.map, Command.orElse] at hr ⊢
          rw [hr]
          exact h.refl w
        · exact h.refl w
      | _ => cases ho
  | start settings =>
    obtain ⟨recorder, hi⟩ := Reloader.start_image settings w
    obtain rfl : recorder = w.image.recorder := by
      rw [← hr, hi]
    have hstart : (Reloader.start settings w).2 = w.addRecorder.2 :=
      congrArg (fun image => { w.addRecorder.2 with image }) hi
    rw [hstart]
    exact h.recorders w
  | load r loop _ path => exact h.reload r loop w path

namespace Registries

variable {gs : List Registry} {w : Process}

theorem start (h : Registries gs w) (settings : Settings) :
    let t : Tracker := { recorder := w.addRecorder.1 }
    Registries
      ((gs ++ [({ tracker := t } : Registry)]).map
        (Registry.attempt t w.image settings.patchGenerics))
      (Reloader.start settings w).2 :=
  h.create.install (g := { tracker := { recorder := w.addRecorder.1 } }) settings.patchGenerics
    (List.mem_append_right _ (List.mem_singleton_self _))

theorem consistent (h : Registries gs w) : Consistent gs w := by
  induction h with
  | empty w himage hrecorders => exact .of_empty himage hrecorders
  | create _ ih => exact ih.create
  | install enabled _ hg ih => exact ih.install hg enabled
  | step _ hs hr ih =>
    obtain ⟨hvalid, ha⟩ := Managed.allocates_handled.step hs hr ih.valid
    exact ih.allocates hvalid ha

/-- An installed registry has recorded what was allocated from its installation on until another
registry was installed. It misses nothing exactly if nothing has been allocated since then. -/
theorem under_recorded (h : Registries gs w) {g : Registry} (hg : g ∈ gs)
    (hi : g.tracker.state = .installed) :
    (∀ base, (w.recorded g.tracker.recorder).under base =
        w.image.allocatedUnder g.since g.stop base) ∧
      (g.stop = none ↔ w.image.recorder = some g.tracker.recorder) ∧
      ((∀ e ∈ w.image.allocated, g.since ≤ e.1.index →
          e.1 ∈ (w.recorded g.tracker.recorder).under (TypeName.base e.2)) ↔
        ∀ n, g.stop = some n → ∀ e ∈ w.image.allocated, g.since ≤ e.1.index → e.1.index < n) := by
  have hrecords := h.consistent.records g hg (by simp [Tracker.isInstalled, hi])
  refine ⟨hrecords.under, hrecords.current, ?_⟩
  simp only [hrecords.under, ManagedImage.mem_allocatedUnder]
  constructor
  · intro hall n hn e he hsince
    obtain ⟨_, _, _, hstop, _⟩ := hall e he hsince
    exact hstop n hn
  · intro hstop e he hsince
    exact ⟨e.2, he, hsince, fun n hn => hstop n hn e he hsince, rfl⟩

def box : ModuleSpec Body := oneClass { name := "Box", isGeneric := true } []

def boxed : Process := (Command.load box).perform (fresh true).2

def watched : Process :=
  let t : Tracker := { recorder := boxed.addRecorder.1 }
  { boxed.addRecorder.2 with image := (t.install boxed.image true).2 }

def special : Process := (Command.specialize "Box" ["Int"]).perform watched

/-- The registry of the reloader, as long as there is no other. -/
def sole : Registry := { tracker := ⟨.installed, ⟨0⟩⟩ }

/-- The registry of the reloader, displaced by the other. -/
def first : Registry := { sole with stop := some 1 }

def second : Registry := { tracker := ⟨.installed, ⟨1⟩⟩, since := 1 }

theorem sole_started : Registries [sole] (fresh true).2 :=
  start (.empty { image := .empty true } rfl fun _ hs => nomatch hs) {}

theorem sole_registry : Registries [sole] boxed := by
  have hload : Managed.Step (fresh true).2 boxed := .act (.load box) _
  exact sole_started.step hload rfl

theorem two_registries : Registries [first, second] special := by
  have hwatched := sole_registry.create.install
    (g := { tracker := { recorder := boxed.addRecorder.1 } }) true (by decide)
  have hspecialize : Managed.Step watched special := .act (.specialize "Box" ["Int"]) watched
  exact hwatched.step hspecialize rfl

theorem under_recorded_two : (special.recorded ⟨0⟩).under "Box" = [] ∧
    (special.recorded ⟨1⟩).under "Box" = [⟨1⟩] := by
  obtain ⟨hfirst, _⟩ := under_recorded two_registries (g := first) (by decide) rfl
  obtain ⟨hsecond, _⟩ := under_recorded two_registries (g := second) (by decide) rfl
  exact ⟨(hfirst "Box").trans (by decide), (hsecond "Box").trans (by decide)⟩

/-- An installed registry may miss a specialization. -/
theorem not_under_recorded_installed :
    ¬∀ (gs : List Registry) (w : Process), Registries gs w → ∀ g ∈ gs,
      g.tracker.state = .installed → ∀ e ∈ w.image.allocated, g.since ≤ e.1.index →
        e.1 ∈ (w.recorded g.tracker.recorder).under (TypeName.base e.2) := by
  intro h
  have hin := h _ _ two_registries first (by decide) rfl (⟨1⟩, "Box<Int>") (by decide) (by decide)
  exact absurd hin (by decide)

end Registries

end HotReload
