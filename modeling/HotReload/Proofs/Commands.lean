import HotReload.Proofs.Confinement
import HotReload.Proofs.Loading

/-! # What a host does to a process

Beside its reloads a host acts on a process one command at a time. A command that fails changes
nothing, except that a staged module is used up.
-/

namespace HotReload.Managed

inductive Command where
  | stage (path : Path) (m : ModuleSpec Body)
  | load (m : ModuleSpec Body)
  | loadStaged (path : Path)
  | specialize (definition : String) (arguments : List String)
  | create (c : ClassId)
  | setField (o : ObjectId) (field : String) (v : Datum)
  | nameObject (name : String) (o : ObjectId)
  /-- Calls a function, method, selector or class selector by the address that it leads to. -/
  | call (a : Address) (receiver : Option ObjectId) (args : List Datum)
  | sweep (rules : SweepRules) (roots : List Node)
  | writeSlot (c : ClassId) (index : Nat) (a : Address)
  | replaceSelector (c : ClassId) (t : SelectorTable) (selector : String) (a : Address)
  | rebind (m : ModuleId) (rs : List Rebinding)
  | observe (recorder : RecorderId)
  | addRecorder

namespace Command

/-- The process after an action that changes it only when it succeeds. -/
def orElse (w : Process) {α : Type} : Except Failure (α × Process) → Process
  | .ok (_, w) => w
  | .error _ => w

def perform : Command → Process → Process
  | .stage path m, w => { w with image := w.image.stage path m }
  | .load m, w => orElse w (Managed.load w m)
  | .loadStaged path, w => { w with image := (w.image.loadStaged path).2 }
  | .specialize definition arguments, w => orElse w (Managed.specialize w definition arguments)
  | .create c, w => orElse w (Managed.create w c)
  | .setField o field v, w => w.setField o field v
  | .nameObject name o, w => w.name name o
  | .call a receiver args, w => (callAddress a receiver args w).2
  | .sweep rules roots, w => orElse w (HotReload.sweep view rules roots w)
  | .writeSlot c index a, w =>
    orElse w ((w.image.writeSlot c index a).map fun image => ((), { w with image }))
  | .replaceSelector c t selector a, w =>
    orElse w ((w.image.replaceSelector c t selector a).map fun image => ((), { w with image }))
  | .rebind m rs, w => { w with image := (w.image.rebind m rs).2 }
  | .observe recorder, w =>
    orElse w ((CodeImage.observe w.image recorder).map fun image => ((), { w with image }))
  | .addRecorder, w => w.addRecorder.2

def rebinds : Command → Bool
  | .rebind _ _ => true
  | _ => false

/-- The command writes an address by itself: into a slot, a selector or a call site. -/
def writes : Command → Bool
  | .writeSlot _ _ _ | .replaceSelector _ _ _ _ | .rebind _ _ => true
  | _ => false

def observes : Command → Bool
  | .observe _ => true
  | _ => false

theorem orElse_keeps {R : Process → Process → Prop} (w : Process) {α : Type}
    (r : Except Failure (α × Process)) (hw : R w w) (h : ∀ a w', r = .ok (a, w') → R w w') :
    R w (orElse w r) := by
  cases r with
  | error e => exact hw
  | ok p => exact h p.1 p.2 rfl

/-- Writing addresses is confined to descriptors, or to call sites. -/
theorem perform_of_writes {c : Command} (hc : c.writes = true) (w : Process) :
    c.perform w = w ∨ ∃ image, c.perform w = { w with image } ∧
      ((∃ D, w.image.Confined D image) ∨ c.rebinds = true ∧ w.image.Rebound image) := by
  cases c with
  | writeSlot c index a =>
    simp only [perform]
    cases hi : w.image.writeSlot c index a with
    | error e => exact .inl rfl
    | ok image => exact .inr ⟨image, rfl, .inl ⟨_, ManagedImage.writeSlot_confined hi⟩⟩
  | replaceSelector c t selector a =>
    simp only [perform]
    cases hi : w.image.replaceSelector c t selector a with
    | error e => exact .inl rfl
    | ok image => exact .inr ⟨image, rfl, .inl ⟨_, ManagedImage.replaceSelector_confined hi⟩⟩
  | rebind m rs =>
    exact .inr ⟨_, rfl, .inr ⟨rfl, ManagedImage.rebind_rebound w.image m rs⟩⟩
  | _ => cases hc

end Command

/-- A relation between processes that running code keeps, and also what a host does without writing
addresses and without having specializations recorded. -/
structure Attended (R : Process → Process → Prop) : Prop extends Kept R where
  staged : ∀ (w : Process) staged, R w { w with image := { w.image with staged } }
  named : ∀ (w : Process) names, R w { w with names }
  recorders : ∀ w, R w (World.addRecorder w).2

namespace Attended

variable {R : Process → Process → Prop}

theorem loadStaged (h : Attended R) (w : Process) (path : Path) :
    R w { w with image := (w.image.loadStaged path).2 } := by
  cases hl : w.image.loadStaged path with
  | mk outcome after =>
    cases outcome with
    | error e =>
      obtain ⟨staged, rfl⟩ := ManagedImage.loadStaged_error hl
      exact h.staged w staged
    | ok id =>
      obtain ⟨staged, m, hm⟩ := ManagedImage.loadStaged_ok hl
      have hload : Managed.load { w with image := { w.image with staged } } m =
          .ok (id, { w with image := after }) := by
        simp [Managed.load, hm, Except.map]
      exact h.trans (h.staged w staged) (h.load hload)

theorem perform (h : Attended R) {c : Command} (hw : c.writes = false) (ho : c.observes = false)
    (w : Process) : R w (c.perform w) := by
  cases c with
  | stage path m => exact h.staged w _
  | load m => exact Command.orElse_keeps w _ (h.refl w) fun _ _ hr => h.load hr
  | loadStaged path => exact h.loadStaged w path
  | specialize definition arguments =>
    exact Command.orElse_keeps w _ (h.refl w) fun _ _ hr => h.specialize hr
  | create c => exact Command.orElse_keeps w _ (h.refl w) fun _ _ hr => h.create hr
  | setField o field v => exact h.setField w o field v
  | nameObject name o => exact h.named w _
  | call a receiver args => exact h.callAt callDepth a receiver args w
  | sweep rules roots =>
    exact Command.orElse_keeps w _ (h.refl w) fun _ _ hr => h.toKept.sweep hr
  | writeSlot c index a => cases hw
  | replaceSelector c t selector a => cases hw
  | rebind m rs => cases hw
  | observe recorder => cases ho
  | addRecorder => exact h.recorders w

end Attended

/-- A relation between processes that running code keeps, and also what a host does without writing
addresses. -/
structure Tended (R : Process → Process → Prop) : Prop extends Attended R where
  observed : ∀ (w : Process) recorder, R w { w with image := { w.image with recorder } }

theorem Tended.perform {R : Process → Process → Prop} (h : Tended R) {c : Command}
    (hc : c.writes = false) (w : Process) : R w (c.perform w) := by
  cases ho : c.observes with
  | false => exact h.toAttended.perform hc ho w
  | true =>
    cases c with
    | observe recorder =>
      refine Command.orElse_keeps w _ (h.refl w) fun _ _ hr => ?_
      simp only [CodeImage.observe] at hr
      split at hr
      · simp only [Except.map, Except.ok.injEq, Prod.mk.injEq] at hr
        rw [← hr.2]
        exact h.observed w _
      · cases hr
    | _ => cases ho

/-- A relation between processes that running code keeps, and also what a host does without having
specializations recorded. -/
structure Handled (R : Process → Process → Prop) : Prop extends Attended R where
  confined : ∀ {w : Process} {D image}, w.image.Confined D image → R w { w with image }
  rebound : ∀ {w : Process} {image}, w.image.Rebound image → R w { w with image }

theorem Handled.perform {R : Process → Process → Prop} (h : Handled R) {c : Command}
    (ho : c.observes = false) (w : Process) : R w (c.perform w) := by
  cases hw : c.writes with
  | false => exact h.toAttended.perform hw ho w
  | true =>
    obtain hi | ⟨image, hi, ⟨D, hc⟩ | ⟨_, hr⟩⟩ := Command.perform_of_writes hw w
    · rw [hi]
      exact h.refl w
    · rw [hi]
      exact h.confined hc
    · rw [hi]
      exact h.rebound hr

/-- A relation between processes that running code keeps, and also what a host does without writing
call sites. -/
structure Held (R : Process → Process → Prop) : Prop extends Tended R where
  confined : ∀ {w : Process} {D image}, w.image.Confined D image → R w { w with image }

namespace Held

variable {R : Process → Process → Prop}

theorem perform (h : Held R) {c : Command} (hc : c.rebinds = false) (w : Process) :
    R w (c.perform w) := by
  cases hw : c.writes with
  | false => exact h.toTended.perform hw w
  | true =>
    obtain hi | ⟨image, hi, ⟨D, hconfined⟩ | ⟨hr, _⟩⟩ := Command.perform_of_writes hw w
    · rw [hi]
      exact h.refl w
    · rw [hi]
      exact h.confined hconfined
    · rw [hc] at hr
      cases hr

/-- Every command keeps the relation if writing call sites does. -/
theorem perform_of_rebound (h : Held R)
    (hr : ∀ (w : Process) image, w.image.Rebound image → R w { w with image }) (c : Command)
    (w : Process) : R w (c.perform w) := by
  cases hc : c.rebinds with
  | false => exact h.perform hc w
  | true =>
    cases c with
    | rebind m rs => exact hr w _ (ManagedImage.rebind_rebound w.image m rs)
    | _ => cases hc

theorem handled (h : Held R)
    (hr : ∀ (w : Process) image, w.image.Rebound image → R w { w with image }) : Handled R :=
  { h with rebound := fun hrebound => hr _ _ hrebound }

end Held

end HotReload.Managed
