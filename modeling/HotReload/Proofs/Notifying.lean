import HotReload.Proofs.Announcing
import HotReload.Proofs.Filing
import HotReload.Proofs.Hooks

/-! # Who is notified

A sweep sends the hook to the objects that it enters whose type name, or the base of it, is the name
of a class that the load declares, and to each of them once. A load patches the specializations of a
definition by the base of its name. So an object of a specialization that is patched is notified
where the base is a declared name itself, and else it may not be.
-/

namespace HotReload

open Managed (Kept Process ownClass? view)

def Subject.tell {ι : Type} (v : ObjectView ι) (hook : String) (os : List Subject) (w : World ι) :
    World ι :=
  os.foldl (fun w o => (o.notify v w hook).2) w

namespace Managed

/-- Objects with a class stay, and so does their class. -/
def OwnClasses (w w' : Process) : Prop :=
  ∀ o k, ownClass? w o = some k → ownClass? w' o = some k

theorem OwnClasses.of_instances {w w' : Process} (hi : Instances w w') (hr : Registers w w') :
    OwnClasses w w' := by
  intro o k hk
  obtain ⟨i, hio, hclass⟩ := Option.bind_eq_some_iff.1 hk
  obtain ⟨i', hio', hcls⟩ := hi o i hio
  rw [ownClass?, hio', Option.bind_some, hcls]
  exact hr.class? hclass

theorem OwnClasses.notify {w w' : Process} (h : OwnClasses w w') (hook : String) (o : Subject) :
    OwnClasses w (o.notify view w' hook).2 := by
  cases o with
  | managed o =>
    have hnotify : OwnClasses w' (Managed.notify w' o hook).2 :=
      .of_instances (instances_kept.notify w' o hook) (registers_kept.notify w' o hook)
    exact fun p k hk => hnotify p k (h p k hk)
  | host o => exact h

theorem OwnClasses.tell {w w' : Process} (h : OwnClasses w w') (hook : String)
    (os : List Subject) : OwnClasses w (Subject.tell view hook os w') := by
  induction os generalizing w' with
  | nil => exact h
  | cons o os ih => exact ih (h.notify hook o)

theorem OwnClasses.className_eq {w w' : Process} (h : OwnClasses w w') {o : ObjectId}
    {k : LinkedClass} (hk : ownClass? w o = some k) : className w' o = k.info.name := by
  rw [className, h o k hk]
  rfl

end Managed

namespace Walk

open Managed (OwnClasses)

/-- A part of a sweep: the objects that the hook was sent to, given a process from before. -/
structure Tells (rules : SweepRules) (w : Process) (s s' : Walk ManagedImage)
    (told : List Subject) : Prop where
  own : OwnClasses w s'.world
  world : s'.world = Subject.tell view rules.hook told s.world
  seen : ∀ i ∈ s.seen, i ∈ s'.seen
  fresh : ∀ i ∈ told.map Subject.identity, i ∈ s'.seen ∧ i ∉ s.seen
  nodup : (told.map Subject.identity).Nodup
  managed : ∀ o k, ownClass? w o = some k → .managed o ∈ s'.seen → .managed o ∉ s.seen →
    (.managed o ∈ told.map Subject.identity ↔
      rules.excludes k.info.name = false ∧ rules.isModified k.info.name = true)

namespace Tells

variable {rules : SweepRules} {w : Process} {s t u : Walk ManagedImage} {told told' : List Subject}

theorem refl (h : OwnClasses w s.world) : Tells rules w s s [] where
  own := h
  world := rfl
  seen _ hi := hi
  fresh _ hi := absurd hi List.not_mem_nil
  nodup := List.nodup_nil
  managed _ _ _ hin hnot := absurd hin hnot

theorem trans (h : Tells rules w s t told) (h' : Tells rules w t u told') :
    Tells rules w s u (told ++ told') where
  own := h'.own
  world := by
    rw [h'.world, h.world, Subject.tell, Subject.tell, Subject.tell, List.foldl_append]
  seen i hi := h'.seen i (h.seen i hi)
  fresh i hi := by
    rw [List.map_append] at hi
    rcases List.mem_append.1 hi with hi | hi
    · exact ⟨h'.seen i (h.fresh i hi).1, (h.fresh i hi).2⟩
    · exact ⟨(h'.fresh i hi).1, fun hs => (h'.fresh i hi).2 (h.seen i hs)⟩
  nodup := by
    rw [List.map_append]
    refine List.nodup_append.2 ⟨h.nodup, h'.nodup, ?_⟩
    rintro i hi _ hi' rfl
    exact (h'.fresh i hi').2 (h.fresh i hi).1
  managed o k hk hin hnot := by
    rw [List.map_append, List.mem_append]
    by_cases ht : .managed o ∈ t.seen
    · rw [← h.managed o k hk ht hnot]
      exact or_iff_left fun hlater => (h'.fresh _ hlater).2 ht
    · rw [← h'.managed o k hk hin ht]
      exact or_iff_right fun hearlier => ht (h.fresh _ hearlier).1

end Tells

/-- Walks tell what they should, from wherever the objects still have their classes. -/
theorem tells_carried (rules : SweepRules) (w : Process) :
    Carried fun s s' => OwnClasses w s.world → ∃ told, Tells rules w s s' told where
  refl s h := ⟨[], .refl h⟩
  trans h h' hs := by
    obtain ⟨told, ht⟩ := h hs
    obtain ⟨told', ht'⟩ := h' ht.own
    exact ⟨told ++ told', ht.trans ht'⟩

def announced (rules : SweepRules) (o : Subject) (className : String) : List Subject :=
  if rules.isModified className then [o] else []

theorem mem_announced {rules : SweepRules} {o : Subject} {className : String}
    {i : ObjectIdentity} : i ∈ (announced rules o className).map Subject.identity ↔
      i = o.identity ∧ rules.isModified className = true := by
  unfold announced
  split <;> simp_all

theorem nodup_announced (rules : SweepRules) (o : Subject) (className : String) :
    ((announced rules o className).map Subject.identity).Nodup := by
  unfold announced
  split <;> simp

theorem announce_eq_tell (rules : SweepRules) (o : Subject) (className : String)
    (s : Walk ManagedImage) :
    (announce view rules o className s).seen = s.seen ∧
      (announce view rules o className s).world =
        Subject.tell view rules.hook (announced rules o className) s.world := by
  unfold announce announced
  split
  · exact ⟨rfl, rfl⟩
  · exact ⟨rfl, rfl⟩

section Object

variable {rules : SweepRules} {w : Process} {o : Subject} {s : Walk ManagedImage}

/-- The class name that an object of the process is asked for. -/
theorem className_eq_of_identity (h : OwnClasses w s.world) {p : ObjectId} {k : LinkedClass}
    (hk : ownClass? w p = some k) (hp : ObjectIdentity.managed p = o.identity) :
    o.className view s.world = k.info.name := by
  cases o with
  | managed q =>
    obtain rfl := ObjectIdentity.managed.inj hp
    exact h.className_eq hk
  | host q => cases hp

/-- An object that is excluded is seen and not told. -/
theorem Tells.skip (h : OwnClasses w s.world)
    (hexcluded : rules.excludes (o.className view s.world) = true) :
    Tells rules w s
      { s with
        seen := o.identity :: s.seen
        report := { s.report with excluded := s.report.excluded + 1 } } [] where
  own := h
  world := rfl
  seen _ hi := List.mem_cons_of_mem _ hi
  fresh _ hi := absurd hi List.not_mem_nil
  nodup := List.nodup_nil
  managed p k hk hin hnot := by
    obtain hp | hp := List.mem_cons.1 hin
    · rw [className_eq_of_identity h hk hp] at hexcluded
      simp [hexcluded]
    · exact absurd hp hnot

/-- An object that is entered is told last, if its type has changed. -/
theorem Tells.announce (h : OwnClasses w s.world) (hnew : o.identity ∉ s.seen)
    (hentered : rules.excludes (o.className view s.world) = false) {t t' : Walk ManagedImage}
    (hinside : ∃ told, Tells rules w t t' told) (ht : t.world = s.world)
    (hseen : t.seen = o.identity :: s.seen) :
    ∃ told, Tells rules w s (Walk.announce view rules o (o.className view s.world) t') told := by
  obtain ⟨told, hinside⟩ := hinside
  obtain ⟨hsame, hworld⟩ := announce_eq_tell rules o (o.className view s.world) t'
  have hin : o.identity ∈ t.seen := hseen ▸ List.mem_cons_self
  have hnone : o.identity ∉ told.map Subject.identity := fun hi => (hinside.fresh _ hi).2 hin
  have hold : ∀ i ∈ s.seen, i ∈ t.seen := fun i hi => hseen ▸ List.mem_cons_of_mem _ hi
  refine ⟨told ++ announced rules o (o.className view s.world), ?_, ?_, ?_, ?_, ?_, ?_⟩
  · rw [hworld]
    exact hinside.own.tell rules.hook _
  · rw [hworld, hinside.world, ht, Subject.tell, Subject.tell, Subject.tell, List.foldl_append]
  · intro i hi
    rw [hsame]
    exact hinside.seen i (hold i hi)
  · intro i hi
    rw [hsame]
    rw [List.map_append, List.mem_append, mem_announced] at hi
    rcases hi with hi | ⟨rfl, _⟩
    · exact ⟨(hinside.fresh i hi).1, fun hs => (hinside.fresh i hi).2 (hold i hs)⟩
    · exact ⟨hinside.seen _ hin, hnew⟩
  · rw [List.map_append]
    refine List.nodup_append.2 ⟨hinside.nodup, nodup_announced _ _ _, ?_⟩
    rintro i hi j hj rfl
    rw [(mem_announced.1 hj).1] at hi
    exact hnone hi
  · intro p k hk hp hnot
    rw [hsame] at hp
    rw [List.map_append, List.mem_append, mem_announced]
    by_cases hself : .managed p = o.identity
    · rw [className_eq_of_identity h hk hself] at hentered ⊢
      rw [hself, or_iff_right hnone]
      simp [hentered]
    · have hinner : .managed p ∉ t.seen := by
        rw [hseen, List.mem_cons, not_or]
        exact ⟨hself, hnot⟩
      rw [← hinside.managed p k hk hp hinner]
      exact or_iff_left fun hlast => hself hlast.1

theorem tells_visitObject {enter : Node → Walk ManagedImage → Walk ManagedImage}
    (hv : ∀ n s, OwnClasses w s.world → ∃ told, Tells rules w s (enter n s) told)
    (o : Subject) (s : Walk ManagedImage) (h : OwnClasses w s.world) :
    ∃ told, Tells rules w s (visitObject view rules enter o s) told := by
  unfold visitObject
  split
  · exact ⟨[], .refl h⟩
  · rename_i hnew
    simp only
    split
    · rename_i hexcluded
      exact ⟨[], .skip h hexcluded⟩
    · rename_i hentered
      let entered : Walk ManagedImage := { s with
        seen := o.identity :: s.seen
        report := { s.report with visited := s.report.visited + 1 } }
      exact Tells.announce (t := entered) h hnew (by simpa using hentered)
        ((tells_carried rules w).inside hv o entered h) rfl rfl

theorem tells_each (rules : SweepRules) (w : Process) (depth : Nat) (roots : List Node) :
    ∃ told, Tells rules w { world := w }
      (Walk.each (Walk.visit view rules depth) roots { world := w }) told := by
  refine (tells_carried rules w).each (fun n s => ?_) roots { world := w } fun _ _ hk => hk
  exact (tells_carried rules w).visit (fun _ hv o s => tells_visitObject hv o s) depth n s

end Object

end Walk

section Loads

variable {ι : Type} [Host ι]

/-- The walk that a task comes to; there is none without roots or without classes in the load. -/
def MainLoop.walk (l : MainLoop) (t : Task) (w : World ι) : Walk ι :=
  if t.announcement.classNames.isEmpty || t.roots.isEmpty then { world := w }
  else
    let rules := l.sweeper.rules t.announcement.classNames t.hook
    Walk.each (Walk.visit Host.objects rules (w.walkDepth t.roots)) t.roots { world := w }

theorem MainLoop.run_world (l : MainLoop) (t : Task) (w : World ι) :
    (l.run t w).2 = (l.walk t w).world := by
  unfold run Sweeper.sweepFor walk sweep
  by_cases hnone : (t.announcement.classNames.isEmpty || t.roots.isEmpty) = true
  · simp [hnone]
  · obtain ⟨hnames, hroots⟩ := Bool.or_eq_false_iff.1 (Bool.eq_false_iff.2 hnone)
    simp only [hnames, hroots, Bool.or_self, Bool.false_eq_true, if_false]

/-- A main loop that runs tasks at once runs the one that the load would have left behind. -/
theorem Reloader.load_immediate (r : Reloader) {loop : MainLoop} (hd : loop.isDeferred = false)
    (w : World ι) (path : Path) :
    let kept := r.load { loop with isDeferred := true } w path
    (r.load loop w path).result = kept.result ∧
      ∀ report, kept.result = .ok report →
        (r.load loop w path).world = (loop.run (r.task loop report) kept.world).2 := by
  have hnone {e : Failure} {after : World ι} : ∀ report, Except.error e = .ok report →
      after = (loop.run (r.task loop report) after).2 := fun _ hr => by
    cases hr
  simp only [load]
  split
  · exact ⟨rfl, hnone⟩
  · generalize CodeImage.loadModule w.image path = loaded
    obtain ⟨outcome, image⟩ := loaded
    cases outcome with
    | error e => exact ⟨rfl, hnone⟩
    | ok m =>
      dsimp only
      split
      · exact ⟨rfl, hnone⟩
      · refine ⟨rfl, fun report hr => ?_⟩
        cases hr
        simp only [MainLoop.dispatch, hd, Bool.false_eq_true, if_false]
        rfl

end Loads

/-- What a load sends: the hook to objects that its sweep has entered, to each once, and to the
objects of a class in turn where the class, by its name or the base of it, is declared. -/
structure Notifies (declared : List String) (hook : String) (before : Process)
    (s : Walk ManagedImage) (told : List Subject) : Prop where
  world : s.world = Subject.tell view hook told before
  entered : ∀ o ∈ told, o.identity ∈ s.seen
  once : (told.map Subject.identity).Nodup
  count : ∀ o k, ownClass? before o = some k → .managed o ∈ s.seen →
    (told.map Subject.identity).count (.managed o) =
      if k.info.name ∈ declared ∨ k.info.base ∈ declared then 1 else 0

theorem Walk.Tells.notifies {rules : SweepRules} {before : Process} {s : Walk ManagedImage}
    {told : List Subject} (h : Walk.Tells rules before { world := before } s told)
    (hplain : ∀ name, rules.excludes name = false) :
    Notifies rules.modified rules.hook before s told where
  world := h.world
  entered o ho := (h.fresh _ (List.mem_map_of_mem ho)).1
  once := h.nodup
  count o k hk hin := by
    have hmem := h.managed o k hk hin List.not_mem_nil
    rw [hplain] at hmem
    simp only [SweepRules.isModified, Bool.or_eq_true, List.contains_iff_mem, true_and] at hmem
    rw [h.nodup.count, if_congr hmem rfl rfl]
    rfl

theorem MainLoop.exists_notifies (l : MainLoop) (t : Task) (before : Process)
    (hplain : l.sweeper.exclusion = none) :
    ∃ told, Notifies t.announcement.classNames t.hook before (l.walk t before) told := by
  let rules := l.sweeper.rules t.announcement.classNames t.hook
  have hexcludes (name : String) : rules.excludes name = false := by
    simp [rules, Sweeper.rules, hplain]
  unfold walk
  split
  · have hnobody : Walk.Tells rules before { world := before } { world := before } [] :=
      .refl fun _ _ hk => hk
    exact ⟨[], hnobody.notifies hexcludes⟩
  · obtain ⟨told, htold⟩ := Walk.tells_each rules before (before.walkDepth t.roots) t.roots
    exact ⟨told, htold.notifies hexcludes⟩

section Sweeps

variable {r : Reloader} {w : Process} {loop : MainLoop} {path : Path} {report : LoadReport}

/-- A load with a main loop that runs tasks at once is the load that leaves its task behind,
followed by the walk for the names that the module declares. -/
theorem Reloader.load_walk (hr : (r.load loop w path).result = .ok report)
    (hloop : loop.isDeferred = false) :
    let kept := r.load { loop with isDeferred := true } w path
    kept.result = .ok report ∧
      (r.load loop w path).world = (loop.walk (r.task loop report) kept.world).world ∧
      report.classNames =
        CodeImage.declaredNames (CodeImage.loadModule w.image path).2 report.module := by
  intro kept
  obtain ⟨hresult, hworld⟩ := r.load_immediate hloop w path
  have hkept : kept.result = .ok report := hresult.symm.trans hr
  have hdeferred : { loop with isDeferred := true }.isDeferred = true := rfl
  obtain ⟨_, ⟨e, herror, _⟩ | ⟨report', hreport, _, hnames⟩⟩ := r.load_deferred hdeferred w path
  · cases hkept.symm.trans herror
  · obtain rfl := Except.ok.inj (hkept.symm.trans hreport)
    exact ⟨hkept, (hworld report hkept).trans (loop.run_world _ _), hnames⟩

/-- A load visits a descriptor as a specialization of a definition that its module registered. -/
structure Reloader.Visits (r : Reloader) (w : Process) (linked : ManagedImage) (m : ModuleId)
    (definition : ClassInfo) (d : ClassId) : Prop where
  registered : ∃ g ∈ CodeImage.classesIn linked m, CodeImage.info? linked g = some definition
  isGeneric : definition.isGeneric = true
  tracked : r.tracker.isInstalled = true
  recorded : d ∈ (w.recorded r.tracker.recorder).under definition.base

theorem CodeImage.mem_declaredNames {image : ManagedImage} {m : ModuleId} {c : ClassId}
    {info : ClassInfo} (hc : c ∈ CodeImage.classesIn image m)
    (hi : CodeImage.info? image c = some info) : info.name ∈ CodeImage.declaredNames image m :=
  List.mem_filterMap.2 ⟨c, hc, by rw [hi]; rfl⟩

/-- A specialization that is visited has the base of the definition. -/
theorem Shared.base_of_visits (h : Shared r w) {before : ManagedImage} {spec : ModuleSpec Body}
    (hstaged : ∃ staged, before = { w.image with staged }) {definition : ClassInfo} {d : ClassId}
    (hd : r.Visits w (before.link spec).2 report.module definition d) :
    ∃ special, CodeImage.info? (before.link spec).2 d = some special ∧
      special.base = definition.base := by
  obtain ⟨staged, rfl⟩ := hstaged
  obtain ⟨k, hk, hbase⟩ := (h.isStarted.filed.under r.tracker.recorder definition.base).2 d
    hd.recorded
  have hlinked : (ManagedImage.link { w.image with staged } spec).2.class? d = some k :=
    ManagedImage.class?_append hk
  exact ⟨k.info, ManagedImage.info?_of_class? hlinked, hbase⟩

/-- The sweep of a load tells each object that it enters, whose class or whose class's base the load
declares, once, and nobody else. So the objects of older versions are told. The objects of a
specialization that the load visits are told where the load declares the base of the definition, or
a class of their very name. -/
theorem Shared.load_notifies {r : Reloader} {w : Process} (h : Shared r w) {loop : MainLoop}
    {path : Path} {report : LoadReport} (hr : (r.load loop w path).result = .ok report)
    (hloop : loop.isDeferred = false) (hplain : loop.sweeper.exclusion = none) :
    let linked := (CodeImage.loadModule w.image path).2
    let declared := CodeImage.declaredNames linked report.module
    let before := (r.load { loop with isDeferred := true } w path).world
    let s := loop.walk (r.task loop report) before
    (r.load loop w path).world = s.world ∧
      ∃ told, Notifies declared r.settings.lifecycleHook before s told ∧
        ∀ o i, before.instance? o = some i → .managed o ∈ s.seen →
          (∀ c ∈ CodeImage.classesIn linked report.module, ∀ info old,
            CodeImage.info? linked c = some info → CodeImage.info? linked i.cls = some old →
            old.name = info.name → (told.map Subject.identity).count (.managed o) = 1) ∧
          ∀ definition, r.Visits w linked report.module definition i.cls →
            ∃ special, CodeImage.info? linked i.cls = some special ∧
              special.base = definition.base ∧
              ((told.map Subject.identity).count (.managed o) = 1 ↔
                special.name ∈ declared ∨ definition.base ∈ declared) := by
  intro linked declared before s
  obtain ⟨hkept, hworld, hnames⟩ := Reloader.load_walk hr hloop
  obtain ⟨image, spec, done, hloaded, hlanded⟩ := Reloader.loaded_and_landed hkept
  have hlinked : linked = (image.link spec).2 := congrArg Prod.snd hloaded
  obtain ⟨told, htold⟩ := loop.exists_notifies (r.task loop report) before hplain
  have hdeclared : (r.task loop report).announcement.classNames = declared := hnames
  rw [hdeclared] at htold
  refine ⟨hworld, told, htold, fun o i hi hin => ?_⟩
  have hcount {info : ClassInfo} (hinfo : CodeImage.info? linked i.cls = some info) :
      (told.map Subject.identity).count (.managed o) =
        if info.name ∈ declared ∨ info.base ∈ declared then 1 else 0 := by
    rw [hlinked] at hinfo
    obtain ⟨k, hk, rfl⟩ := Option.map_eq_some_iff.1 (hlanded.info? hinfo)
    refine htold.count o k ?_ hin
    rw [ownClass?, hi]
    exact hk
  constructor
  · intro c hc info old hinfo hold hname
    rw [hcount hold, hname]
    exact if_pos (.inl (CodeImage.mem_declaredNames hc hinfo))
  · intro definition hd
    obtain ⟨special, hspecial, hbase⟩ := h.base_of_visits hlanded.restaged (hlinked ▸ hd)
    rw [← hlinked] at hspecial
    refine ⟨special, hspecial, hbase, ?_⟩
    rw [hcount hspecial, hbase]
    by_cases hmatches : special.name ∈ declared ∨ definition.base ∈ declared
    · exact iff_of_true (if_pos hmatches) hmatches
    · rw [if_neg hmatches]
      exact iff_of_false (by decide) hmatches

end Sweeps

namespace Notified

open Managed (Command)

def noting (name : String) : ModuleSpec Body :=
  { name := "Boxes"
    functions := [⟨"note", .method, .log (.constant (.text "noted"))⟩]
    classes := [{ name, isGeneric := true, selectors := [("injected", "note")] }] }

def loaded (name : String) : Loaded ManagedImage :=
  (fresh true).1.loadSpec (fresh true).2 (noting name)

def populated (name : String) : Process :=
  (Command.create ⟨1⟩).perform ((Command.specialize name ["Int"]).perform (loaded name).world)

def rooted : MainLoop := { loop with roots := [.value (.object ⟨1⟩)] }

def reloaded (name : String) : Loaded ManagedImage :=
  (loaded name).reloader.load rooted (staged (populated name) (noting name)) stagePath

theorem shared (name : String) :
    Shared (loaded name).reloader (staged (populated name) (noting name)) := by
  have hloaded : Shared (loaded name).reloader (loaded name).world :=
    .load loop stagePath ((fresh_hosted true).shared.step (.act (.stage stagePath (noting name)) _))
  exact ((hloaded.step (.act (.specialize name ["Int"]) _)).step (.act (.create ⟨1⟩) _)).step
    (.act (.stage stagePath (noting name)) _)

def walked (name : String) (report : LoadReport) : Walk ManagedImage :=
  rooted.walk ((loaded name).reloader.task rooted report)
    ((loaded name).reloader.load { rooted with isDeferred := true }
      (staged (populated name) (noting name)) stagePath).world

/-- The load visits the specialization, also where the name of the definition has a parameter. -/
theorem exists_visits {name : String} (hname : name = "Box" ∨ name = "Box<T>") :
    ∃ definition, definition.base = "Box" ∧
      (loaded name).reloader.Visits (staged (populated name) (noting name))
        (CodeImage.loadModule (staged (populated name) (noting name)).image stagePath).2 ⟨2⟩
        definition ⟨1⟩ := by
  obtain rfl | rfl := hname
  · exact ⟨_, by decide, ⟨⟨2⟩, by decide, rfl⟩, rfl, rfl, by decide⟩
  · exact ⟨_, by decide, ⟨⟨2⟩, by decide, rfl⟩, rfl, rfl, by decide⟩

/-- The object of a specialization is notified once where the definition goes by its base. -/
theorem load_notifies_box : (reloaded "Box").world.log.size = 1 ∧
    ∃ report, (reloaded "Box").result = .ok report ∧ ∃ told : List Subject,
      (reloaded "Box").world = (walked "Box" report).world ∧
        (told.map Subject.identity).count (.managed ⟨1⟩) = 1 := by
  obtain ⟨report, hresult, hmodule, hin⟩ : ∃ report, (reloaded "Box").result = .ok report ∧
      report.module = ⟨2⟩ ∧ .managed ⟨1⟩ ∈ (walked "Box" report).seen := ⟨_, rfl, rfl, by decide⟩
  obtain ⟨hworld, told, _, hcounts⟩ := Shared.load_notifies (shared "Box") hresult rfl rfl
  obtain ⟨_, hspecial⟩ := hcounts ⟨1⟩ ⟨⟨1⟩, []⟩ rfl hin
  obtain ⟨definition, hbase, hvisits⟩ := exists_visits (.inl rfl)
  obtain ⟨special, _, _, htold⟩ := hspecial definition (hmodule ▸ hvisits)
  refine ⟨by decide, report, hresult, told, hworld, htold.2 (.inr ?_)⟩
  rw [hmodule, hbase]
  decide

/-- Where the definition goes by a name with a type parameter, its specializations are patched, and
their objects are not notified. -/
theorem not_load_notifies_visited :
    ¬∀ (r : Reloader) (w : Process) (loop : MainLoop) (path : Path) (report : LoadReport),
      Shared r w → (r.load loop w path).result = .ok report → loop.isDeferred = false →
      loop.sweeper.exclusion = none →
      let linked := (CodeImage.loadModule w.image path).2
      let before := (r.load { loop with isDeferred := true } w path).world
      let s := loop.walk (r.task loop report) before
      (∀ o p, .managed o ∈ s.seen →
        (Managed.notify before o r.settings.lifecycleHook).2.instance? p = before.instance? p) →
      ∃ told, s.world = Subject.tell view r.settings.lifecycleHook told before ∧
        (∀ o ∈ told, o.identity ∈ s.seen) ∧
        ∀ o i, before.instance? o = some i → .managed o ∈ s.seen →
          (Managed.notify before o r.settings.lifecycleHook).1 = true → ∀ definition,
          r.Visits w linked report.module definition i.cls →
            (told.map Subject.identity).count (.managed o) = 1 := by
  intro h
  obtain ⟨report, hresult, hmodule, hseen, hlog⟩ : ∃ report,
      (reloaded "Box<T>").result = .ok report ∧ report.module = ⟨2⟩ ∧
      (walked "Box<T>" report).seen = [.managed ⟨1⟩] ∧
      (walked "Box<T>" report).world.log.size = 0 := ⟨_, rfl, rfl, by decide, by decide⟩
  obtain ⟨told, hworld, hentered, hcounts⟩ := h _ _ _ _ report (shared "Box<T>") hresult rfl rfl
    fun o p ho => by
      obtain rfl := ObjectIdentity.managed.inj (List.mem_singleton.1 (hseen ▸ ho))
      rfl
  obtain ⟨definition, _, hvisits⟩ := exists_visits (.inr rfl)
  have hcount := hcounts ⟨1⟩ ⟨⟨1⟩, []⟩ rfl (hseen ▸ List.mem_singleton_self _) rfl definition
    (hmodule ▸ hvisits)
  have hall : ∀ o ∈ told, o = .managed ⟨1⟩ := by
    intro o ho
    have hidentity := List.mem_singleton.1 (hseen ▸ hentered o ho)
    cases o with
    | managed o => rw [ObjectIdentity.managed.inj hidentity]
    | host o => cases hidentity
  have htold : told = List.replicate told.length (.managed ⟨1⟩) := List.eq_replicate_of_mem hall
  rw [htold, List.map_replicate] at hcount
  obtain rfl : told = [.managed ⟨1⟩] := by
    rw [htold, List.count_replicate_self.symm.trans hcount]
    rfl
  have hnoted : (walked "Box<T>" report).world.log.size = 1 := by
    rw [walked, hworld]
    rfl
  cases hlog.symm.trans hnoted

end Notified

end HotReload
