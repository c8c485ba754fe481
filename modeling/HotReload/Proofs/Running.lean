import HotReload.Managed.Objects
import HotReload.Reloader
import HotReload.Proofs.Walking

/-! # What running code can do

Whatever the bodies in an image are, running them is a sequence of a few single effects. A relation
between processes that every single effect keeps is kept by every call, by telling listeners, by
sweeps and by the main loop.
-/

namespace HotReload

def LinkedClass.specialized (k : LinkedClass) (name : String) : LinkedClass :=
  { k with info := { k.info with name, isGeneric := false } }

def ManagedImage.addClass (image : ManagedImage) (k : LinkedClass) : ManagedImage :=
  { image with classes := image.classes ++ [k] }

def ManagedImage.newestDefinition? (image : ManagedImage) (definition : String) :
    Option LinkedClass :=
  (image.classes.filter fun k => k.info.isGeneric && k.info.name == definition).getLast?

theorem ManagedImage.mem_of_newestDefinition? {image : ManagedImage} {definition : String}
    {k : LinkedClass} (h : image.newestDefinition? definition = some k) :
    k ∈ image.classes ∧ k.info.isGeneric = true ∧ k.info.name = definition := by
  have hk := List.mem_filter.1 (List.mem_of_getLast? h)
  simpa using hk

namespace Managed

def noted (w : Process) (c : ClassId) (name : String) : Process :=
  match w.image.recorder with
  | some r => w.record r c name
  | none => w

section Specialize

variable {w w' : Process} {definition : String} {arguments : List String} {c : ClassId}

theorem specialize_of_latest
    (h : w.image.latestClass? (TypeName.specialized definition arguments) = some c) :
    specialize w definition arguments = .ok (c, w) := by
  simp only [specialize, ManagedImage.specialize, h, Except.map]

theorem specialize_of_newest {k : LinkedClass}
    (h : w.image.latestClass? (TypeName.specialized definition arguments) = none)
    (hk : w.image.newestDefinition? definition = some k) :
    let name := TypeName.specialized definition arguments
    specialize w definition arguments = .ok (⟨w.image.classes.length⟩,
      noted { w with image := w.image.addClass (k.specialized name) }
        ⟨w.image.classes.length⟩ name) := by
  rw [ManagedImage.newestDefinition?] at hk
  simp only [specialize, ManagedImage.specialize, h, hk, Except.map, noted, ManagedImage.addClass,
    LinkedClass.specialized]
  cases w.image.recorder <;> rfl

/-- A specialization is the newest descriptor of its name; else it is a new one at the end, a copy
of the newest definition. -/
theorem specialize_eq_ok_iff : specialize w definition arguments = .ok (c, w') ↔
    let name := TypeName.specialized definition arguments
    w.image.latestClass? name = some c ∧ w' = w ∨
      ∃ k, w.image.latestClass? name = none ∧ w.image.newestDefinition? definition = some k ∧
        c = ⟨w.image.classes.length⟩ ∧
        w' = noted { w with image := w.image.addClass (k.specialized name) } c name := by
  constructor
  · intro h
    cases hlatest : w.image.latestClass? (TypeName.specialized definition arguments) with
    | some d =>
      rw [specialize_of_latest hlatest] at h
      cases h
      exact .inl ⟨hlatest, rfl⟩
    | none =>
      cases hk : w.image.newestDefinition? definition with
      | some k =>
        rw [specialize_of_newest hlatest hk] at h
        cases h
        exact .inr ⟨k, hlatest, rfl, rfl, rfl⟩
      | none =>
        rw [ManagedImage.newestDefinition?] at hk
        simp only [specialize, ManagedImage.specialize, hlatest, hk, Except.map] at h
        cases h
  · rintro (⟨hc, rfl⟩ | ⟨k, hnone, hk, rfl, rfl⟩)
    · exact specialize_of_latest hc
    · exact specialize_of_newest hnone hk

theorem specialize_cases (h : specialize w definition arguments = .ok (c, w')) :
    w' = w ∨ ∃ k ∈ w.image.classes, k.info.isGeneric = true ∧
      let name := TypeName.specialized definition arguments
      let after : Process := { w with image := w.image.addClass (k.specialized name) }
      w' = after ∨ ∃ r, w' = after.record r ⟨w.image.classes.length⟩ name := by
  obtain ⟨_, hw⟩ | ⟨k, _, hk, rfl, rfl⟩ := specialize_eq_ok_iff.1 h
  · exact .inl hw
  · obtain ⟨hmem, hgeneric, _⟩ := ManagedImage.mem_of_newestDefinition? hk
    refine .inr ⟨k, hmem, hgeneric, ?_⟩
    unfold noted
    split
    · exact .inr ⟨_, rfl⟩
    · exact .inl rfl

end Specialize

theorem load_eq {w w' : Process} {m : ModuleSpec Body} {id : ModuleId}
    (h : load w m = .ok (id, w')) : w' = { w with image := (w.image.link m).2 } := by
  unfold load ManagedImage.load at h
  split at h
  · cases h
  · exact (Prod.mk.inj (Except.ok.inj h)).2.symm

theorem create_eq {w w' : Process} {c : ClassId} {o : ObjectId}
    (h : create w c = .ok (o, w')) :
    ∃ i, i.cls = c ∧ w' = { w with objects := w.objects.push i } := by
  unfold create at h
  cases hk : w.image.classOrFail c with
  | error e =>
    rw [hk] at h
    cases h
  | ok k =>
    rw [hk] at h
    cases h
    exact ⟨_, rfl, rfl⟩

/-- A relation between processes that every effect of running code keeps. -/
structure Kept (R : Process → Process → Prop) : Prop where
  refl : ∀ w, R w w
  trans : ∀ {u v w}, R u v → R v w → R u w
  setField : ∀ (w : Process) o name v, R w (w.setField o name v)
  write : ∀ (w : Process) e, R w (w.write e)
  count : ∀ (w : Process) key, R w (w.count key).2
  specialize : ∀ {w definition arguments c w'},
    specialize w definition arguments = .ok (c, w') → R w w'
  load : ∀ {w m id w'}, load w m = .ok (id, w') → R w w'
  create : ∀ {w c o w'}, create w c = .ok (o, w') → R w w'

namespace Kept

variable {R : Process → Process → Prop}

theorem createNamed (h : Kept R) {w w' : Process} {name : String} {o : ObjectId}
    (hc : Managed.createNamed w name = .ok (o, w')) : R w w' := by
  unfold Managed.createNamed at hc
  split at hc
  · exact h.create hc
  · cases hc

theorem settle {α : Type} (h : Kept R) (w : Process) (r : Except Failure (α × Process))
    (f : α → Datum) (hr : ∀ a w', r = .ok (a, w') → R w w') : R w (Managed.settle w r f).2 := by
  unfold Managed.settle
  split
  · exact hr _ _ rfl
  · exact h.refl w

theorem callThrough {call : Caller} (h : Kept R)
    (hcall : ∀ a receiver args w, R w (call a receiver args w).2) (target : Except Failure Address)
    (receiver : Option ObjectId) (args : List Datum) (w : Process) :
    R w (Managed.callThrough call target receiver args w).2 := by
  unfold Managed.callThrough
  split
  · exact h.refl w
  · rename_i a
    have ha := hcall a receiver args w
    split <;> simp_all

mutual

/-- Evaluating a body keeps the relation if the calls that it makes do. -/
theorem eval {call : Caller} (h : Kept R)
    (hcall : ∀ a receiver args w, R w (call a receiver args w).2) (f : Frame) :
    ∀ (b : Body) (w : Process), R w (Managed.eval call f b w).2
  | .constant _, w => h.refl w
  | .list items, w => evalAll h hcall f items w
  | .argument _, w => h.refl w
  | .arguments, w => h.refl w
  | .receiver, w => h.refl w
  | .definingModule, w => h.refl w
  | .call symbol args, w =>
    h.trans (evalAll h hcall f args w) (h.callThrough hcall _ _ _ _)
  | .callSelf method args, w => by
    simp only [Managed.eval]
    split
    · exact h.refl w
    · exact h.trans (evalAll h hcall f args w) (h.callThrough hcall _ _ _ _)
  | .sendSelf selector args, w => by
    simp only [Managed.eval]
    split
    · exact h.refl w
    · exact h.trans (evalAll h hcall f args w) (h.callThrough hcall _ _ _ _)
  | .getField _, w => h.refl w
  | .setField field e, w => by
    simp only [Managed.eval]
    split
    · exact eval h hcall f e w
    · exact h.trans (eval h hcall f e w) (h.setField _ _ _ _)
  | .setNamed name field e, w => by
    simp only [Managed.eval]
    split
    · exact eval h hcall f e w
    · exact h.trans (eval h hcall f e w) (h.setField _ _ _ _)
  | .log e, w => h.trans (eval h hcall f e w) (h.write _ _)
  | .count key, w => h.count w key
  | .sequence steps, w => evalAll h hcall f steps w
  | .specialize _ _, w => h.settle w _ _ fun _ _ hr => h.specialize hr
  | .load _, w => h.settle w _ _ fun _ _ hr => h.load hr
  | .create _, w => h.settle w _ _ fun _ _ hr => h.createNamed hr

theorem evalAll {call : Caller} (h : Kept R)
    (hcall : ∀ a receiver args w, R w (call a receiver args w).2) (f : Frame) :
    ∀ (bs : List Body) (w : Process), R w (Managed.evalAll call f bs w).2
  | [], w => h.refl w
  | b :: bs, w => h.trans (eval h hcall f b w) (evalAll h hcall f bs _)

end

theorem callAt (h : Kept R) (depth : Nat) (a : Address) (receiver : Option ObjectId)
    (args : List Datum) (w : Process) : R w (Managed.callAt depth a receiver args w).2 := by
  induction depth generalizing a receiver args w with
  | zero => exact h.refl w
  | succ depth ih =>
    simp only [Managed.callAt]
    split
    · exact h.refl w
    · exact h.eval ih _ _ _

theorem callTo (h : Kept R) (target : Except Failure Address) (receiver : Option ObjectId)
    (args : List Datum) (w : Process) : R w (Managed.callTo target receiver args w).2 := by
  unfold Managed.callTo
  split
  · exact h.refl w
  · exact h.callAt _ _ _ _ _

theorem notify (h : Kept R) (w : Process) (o : ObjectId) (hook : String) :
    R w (Managed.notify w o hook).2 := by
  have hs : R w (send w o hook []).2 := h.callTo _ _ _ _
  simp only [Managed.notify]
  split <;> simp_all

theorem invokeClassMethod (h : Kept R) (w : Process) (c : ClassId) (selector : String) :
    R w (Host.invokeClassMethod w c selector).2 := by
  have hs : R w (sendClass w c selector []).2 := h.callTo _ _ _ _
  simp only [Host.invokeClassMethod]
  split <;> simp_all

section Sweeps

theorem walks (h : Kept R) : Walk.Carried fun s s' : Walk ManagedImage => R s.world s'.world :=
  ⟨fun s => h.refl s.world, h.trans⟩

theorem announce (h : Kept R) (rules : SweepRules) (o : Subject) (className : String)
    (s : Walk ManagedImage) : R s.world (Walk.announce view rules o className s).world := by
  unfold Walk.announce
  split
  · cases o with
    | managed o => exact h.notify s.world o rules.hook
    | host o => exact h.write s.world _
  · exact h.refl s.world

theorem visitObject (h : Kept R) {enter : Node → Walk ManagedImage → Walk ManagedImage}
    (hv : ∀ n s, R s.world (enter n s).world) (rules : SweepRules) (o : Subject)
    (s : Walk ManagedImage) : R s.world (Walk.visitObject view rules enter o s).world := by
  unfold Walk.visitObject
  split
  · exact h.refl s.world
  · simp only
    split
    · exact h.refl s.world
    · refine h.trans ?_ (h.announce rules o _ _)
      exact h.walks.inside hv o { s with
        seen := o.identity :: s.seen
        report := { s.report with visited := s.report.visited + 1 } }

theorem visit (h : Kept R) (rules : SweepRules) (depth : Nat) (n : Node)
    (s : Walk ManagedImage) : R s.world (Walk.visit view rules depth n s).world :=
  h.walks.visit (fun _ hv o s => h.visitObject hv rules o s) depth n s

theorem sweep (h : Kept R) {rules : SweepRules} {roots : List Node} {w w' : Process}
    {report : SweepReport}
    (hs : HotReload.sweep view rules roots w = .ok (report, w')) : R w w' := by
  unfold HotReload.sweep at hs
  split at hs
  · cases hs
  · obtain ⟨_, rfl⟩ := Prod.mk.inj (Except.ok.inj hs)
    exact h.walks.each (h.visit rules _) roots { world := w }

theorem run (h : Kept R) (l : MainLoop) (t : Task) (w : Process) : R w (l.run t w).2 := by
  unfold MainLoop.run Sweeper.sweepFor
  simp only
  split
  · exact h.refl w
  · split
    · rename_i hs
      exact h.sweep hs
    · exact h.refl w

theorem dispatch (h : Kept R) (l : MainLoop) (t : Task) (w : Process) :
    R w (l.dispatch t w).2 := by
  unfold MainLoop.dispatch
  split
  · exact h.refl w
  · exact h.run l t w

theorem runPending (h : Kept R) (l : MainLoop) (w : Process) : R w (l.runPending w).2.2 := by
  unfold MainLoop.runPending
  simp only
  generalize l.pending = tasks
  suffices hl : ∀ (acc : MainLoop × Process),
      R acc.2 (tasks.foldl (fun (l, w) t => l.run t w) acc).2 from hl (_, w)
  induction tasks with
  | nil => exact fun acc => h.refl acc.2
  | cons t tasks ih => exact fun acc => h.trans (h.run acc.1 t acc.2) (ih _)

end Sweeps

section Listeners

theorem runTestCases (h : Kept R) (entry : String) (cs : List ClassId) (w : Process) :
    R w (cs.foldl (Listener.runTestCase entry) w) := by
  induction cs generalizing w with
  | nil => exact h.refl w
  | cons c cs ih =>
    refine h.trans ?_ (ih _)
    unfold Listener.runTestCase
    split
    · split
      · exact h.invokeClassMethod w c entry
      · exact h.refl w
    · exact h.refl w

theorem tell (h : Kept R) (l : Listener) (w : Process) (m : ModuleId) : R w (l.tell w m).2 := by
  cases l with
  | testCases entry => exact h.runTestCases entry _ w
  | host name needsKeyPaths diverged => exact h.write w _

theorem tellAll (h : Kept R) (ls : List Listener) (keyPaths : Bool) (m : ModuleId) (w : Process) :
    R w (Listener.tellAll ls keyPaths m w).2 := by
  unfold Listener.tellAll
  suffices hl : ∀ (acc : List Divergence × Process),
      R acc.2 (ls.foldl (Listener.tellOne keyPaths m) acc).2 from hl ([], w)
  induction ls with
  | nil => exact fun acc => h.refl acc.2
  | cons l ls ih =>
    intro acc
    refine h.trans ?_ (ih _)
    have ht := h.tell l acc.2 m
    unfold Listener.tellOne
    split
    · exact h.refl acc.2
    · split <;> simp_all

end Listeners

end Kept

end Managed

end HotReload
