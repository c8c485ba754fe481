import HotReload.Proofs.Listing
import HotReload.Proofs.Sharing
import Mathlib.Data.List.Forall2

/-! # Announcements of a deferred main loop

Loads leave tasks behind, and the host runs them when it likes: it sweeps for a load, then announces
it. Meanwhile modules are loaded, roots come and go, subscribers come, take what waits for them and
go, and the process moves on. Every load is nevertheless announced once, after its own sweep and in
load order.
-/

namespace HotReload

def LoadReport.announcement (r : LoadReport) : Announcement :=
  ⟨r.module, r.sequence, r.classes, r.classNames, r.rebound⟩

/-- A load that succeeded: the roots of that time, the names of the classes that its module
declared, and what it reported. -/
structure LoadNote where
  roots : List Node
  declared : List String
  report : LoadReport

/-- A sweep for a load, between two states of the process; no result where there was nothing to
sweep. -/
structure SweepNote (ι : Type) where
  before : World ι
  result : Option SweepReport
  after : World ι

/-- A subscriber that has not gone: how many announcements there had been when it subscribed, and
those that it has taken. -/
structure Listening where
  name : String
  since : Nat
  taken : List Announcement := []

/-- A host that loads modules and runs the tasks that loads leave behind, with notes of what has
happened. -/
structure HostRun (ι : Type) where
  reloader : Reloader
  loop : MainLoop
  world : World ι
  /-- The roots that the host has added since it last cleared them. -/
  registered : List Node := []
  /-- The sweep of this task has run, and the task is not announced yet. -/
  underway : Option Task := none
  loads : List LoadNote := []
  sweeps : List (SweepNote ι) := []
  /-- How many loads have been announced. -/
  announced : Nat := 0
  listening : List Listening := []

inductive HostEvent (ι : Type) where
  | load (path : Path)
  /-- The first task that waits is swept for. -/
  | begin
  /-- The task that was swept for is announced. -/
  | finish
  /-- The task underway and all that wait are run. -/
  | runPending
  | subscribe (name : String)
  | leave (name : String)
  | take (name : String)
  | addRoot (n : Node)
  | clearRoots
  /-- The process moves on. -/
  | act (f : World ι → World ι)

namespace HostRun

variable {ι : Type} [Host ι]

def start (r : Reloader) (sweeper : Sweeper) (roots : List Node) (w : World ι) : HostRun ι :=
  { reloader := r, loop := { isDeferred := true, sweeper, roots }, world := w, registered := roots }

def load (s : HostRun ι) (path : Path) : HostRun ι :=
  let done := s.reloader.load s.loop s.world path
  let image := (CodeImage.loadModule s.world.image path).2
  { s with
    reloader := done.reloader
    loop := done.loop
    world := done.world
    loads := match done.result with
      | .ok report =>
        s.loads ++ [⟨s.registered, CodeImage.declaredNames image report.module, report⟩]
      | .error _ => s.loads }

def begin (s : HostRun ι) : HostRun ι :=
  match s.underway, s.loop.pending with
  | none, t :: pending =>
    let (result, world) := s.loop.sweeper.sweepFor t s.world
    { s with
      loop := { s.loop with pending }.noteSweep result
      world
      underway := some t
      sweeps := s.sweeps ++ [⟨s.world, result, world⟩] }
  | _, _ => s

def finish (s : HostRun ι) : HostRun ι :=
  match s.underway with
  | some t =>
    { s with
      loop := s.loop.announce t.announcement
      underway := none
      announced := s.announced + 1 }
  | none => s

def runTasks : Nat → HostRun ι → HostRun ι
  | 0, s => s
  | n + 1, s => runTasks n s.begin.finish

/-- What is left of the main loop and of the process is the main loop's own doing; the notes are
those of the tasks one after another. -/
def runPending (s : HostRun ι) : HostRun ι :=
  let s := s.finish
  let done := s.loop.runPending s.world
  { runTasks s.loop.pending.length s with loop := done.2.1, world := done.2.2 }

def withSubscribers (s : HostRun ι) (subscribers : Subscribers) (listening : List Listening) :
    HostRun ι :=
  { s with loop := { s.loop with subscribers }, listening }

def step (s : HostRun ι) : HostEvent ι → HostRun ι
  | .load path => s.load path
  | .begin => s.begin
  | .finish => s.finish
  | .runPending => s.runPending
  | .subscribe name =>
    s.withSubscribers (s.loop.subscribers.subscribe name)
      (s.listening.filter (·.name != name) ++ [⟨name, s.announced, []⟩])
  | .leave name =>
    s.withSubscribers (s.loop.subscribers.leave name) (s.listening.filter (·.name != name))
  | .take name =>
    let (taken, subscribers) := s.loop.subscribers.take name
    s.withSubscribers subscribers (s.listening.map fun l =>
      if l.name = name then { l with taken := l.taken ++ taken } else l)
  | .addRoot n => { s with loop := s.loop.addRoot n, registered := s.registered ++ [n] }
  | .clearRoots => { s with loop := s.loop.clearRoots, registered := [] }
  | .act f => { s with world := f s.world }

def run (s : HostRun ι) (events : List (HostEvent ι)) : HostRun ι := events.foldl step s

end HostRun

section Subscribers

namespace Subscribers

def live (s : Subscribers) : List Subscriber := s.all.filter (·.isLive)

theorem waiting_eq (s : Subscribers) (name : String) :
    s.waiting name = (s.live.filter (·.name == name)).flatMap (·.waiting) := by
  rw [waiting, live, List.filter_filter]
  simp only [Bool.and_comm]

theorem live_publish (s : Subscribers) (a : Announcement) :
    (s.publish a).2.live = s.live.map fun r => { r with waiting := r.waiting ++ [a] } := by
  refine List.filter_eq_self.2 fun r hr => ?_
  obtain ⟨q, hq, rfl⟩ := List.mem_map.1 hr
  exact (List.mem_filter.1 hq).2

theorem live_leave (s : Subscribers) (name : String) :
    (s.leave name).live = s.live.filter (·.name != name) := by
  unfold live leave
  induction s.all with
  | nil => rfl
  | cons r rs ih =>
    rw [List.map_cons, List.filter_cons, List.filter_cons, ih]
    by_cases hn : r.name = name <;> cases hl : r.isLive <;> simp [hn, hl]

theorem live_subscribe (s : Subscribers) (name : String) :
    (s.subscribe name).live = s.live.filter (·.name != name) ++ [{ name := name }] := by
  rw [← live_leave]
  exact List.filter_append ..

theorem live_take (s : Subscribers) (name : String) :
    (s.take name).2.live =
      s.live.map fun r => if r.name = name then { r with waiting := [] } else r := by
  unfold live take
  dsimp only
  induction s.all with
  | nil => rfl
  | cons r rs ih =>
    rw [List.map_cons, List.filter_cons, List.filter_cons, ih]
    by_cases hn : r.name = name <;> cases hl : r.isLive <;> simp [hn, hl]

theorem filter_name {rs : List Subscriber} (h : (rs.map (·.name)).Nodup) {r : Subscriber}
    (hr : r ∈ rs) : rs.filter (·.name == r.name) = [r] := by
  induction rs with
  | nil => exact absurd hr List.not_mem_nil
  | cons q rs ih =>
    obtain ⟨hq, hrs⟩ := List.nodup_cons.1 h
    rcases List.mem_cons.1 hr with rfl | hr
    · have hrest : rs.filter (·.name == r.name) = [] := by
        refine List.filter_eq_nil_iff.2 fun p hp hname => hq (List.mem_map.2 ⟨p, hp, ?_⟩)
        exact eq_of_beq hname
      simp [hrest]
    · have hne : q.name ≠ r.name := fun he => hq (List.mem_map.2 ⟨r, hr, he.symm⟩)
      rw [List.filter_cons_of_neg (by simpa using hne)]
      exact ih hrs hr

theorem waiting_of_mem {s : Subscribers} (h : (s.live.map (·.name)).Nodup) {r : Subscriber}
    (hr : r ∈ s.live) : s.waiting r.name = r.waiting := by
  rw [waiting_eq, filter_name h hr, List.flatMap_singleton]

end Subscribers

/-- A subscriber has been sent all that was published since it subscribed. -/
structure Follows (published : List Announcement) (r : Subscriber) (l : Listening) : Prop where
  name : r.name = l.name
  since : l.since ≤ published.length
  sent : l.taken ++ r.waiting = published.drop l.since

/-- So has everybody who still listens. -/
structure Heard (published : List Announcement) (s : Subscribers) (listening : List Listening) :
    Prop where
  follows : List.Forall₂ (Follows published) s.live listening
  names : (listening.map (·.name)).Nodup

namespace Heard

variable {published : List Announcement} {s : Subscribers} {listening : List Listening}

theorem names_live (h : Heard published s listening) :
    s.live.map (·.name) = listening.map (·.name) := by
  rw [← List.forall₂_eq_eq_eq, List.forall₂_map_left_iff, List.forall₂_map_right_iff]
  exact h.follows.imp fun _ _ hf => hf.name

theorem nodup_live (h : Heard published s listening) : (s.live.map (·.name)).Nodup :=
  h.names_live ▸ h.names

theorem publish (h : Heard published s listening) (a : Announcement) :
    Heard (published ++ [a]) (s.publish a).2 listening where
  follows := by
    rw [Subscribers.live_publish, List.forall₂_map_left_iff]
    refine h.follows.imp fun r l hf => ⟨hf.name, ?_, ?_⟩
    · exact Nat.le_trans hf.since (by simp)
    · rw [List.drop_append_of_le_length hf.since, ← hf.sent, List.append_assoc]
  names := h.names

theorem leave (h : Heard published s listening) (name : String) :
    Heard published (s.leave name) (listening.filter (·.name != name)) where
  follows := by
    rw [Subscribers.live_leave]
    refine List.rel_filter (fun r l hf => ?_) h.follows
    simp [hf.name]
  names := h.names.sublist (List.filter_sublist.map _)

theorem subscribe (h : Heard published s listening) (name : String) :
    Heard published (s.subscribe name)
      (listening.filter (·.name != name) ++ [⟨name, published.length, []⟩]) where
  follows := by
    rw [Subscribers.live_subscribe, ← Subscribers.live_leave]
    refine List.rel_append (h.leave name).follows (.cons ⟨rfl, Nat.le_refl _, ?_⟩ .nil)
    simp
  names := by
    rw [List.map_append, List.nodup_append]
    refine ⟨(h.leave name).names, by simp, ?_⟩
    rintro n hn _ hname rfl
    obtain ⟨l, hl, rfl⟩ := List.mem_map.1 hn
    simp only [List.map_cons, List.map_nil, List.mem_singleton] at hname
    simpa [hname] using (List.mem_filter.1 hl).2

theorem take (h : Heard published s listening) (name : String) :
    Heard published (s.take name).2 (listening.map fun l =>
      if l.name = name then { l with taken := l.taken ++ (s.take name).1 } else l) where
  follows := by
    rw [Subscribers.live_take, List.forall₂_map_left_iff, List.forall₂_map_right_iff]
    have hmem := (List.forall₂_and_left s.live listening).2 ⟨fun _ hr => hr, h.follows⟩
    refine hmem.imp fun r l hrl => ?_
    obtain ⟨hr, hf⟩ := hrl
    by_cases hn : l.name = name
    · subst hn
      rw [if_pos hf.name, if_pos rfl]
      refine ⟨hf.name, hf.since, ?_⟩
      have hwaiting : (s.take l.name).1 = r.waiting := by
        rw [← hf.name]
        exact Subscribers.waiting_of_mem h.nodup_live hr
      simpa [hwaiting] using hf.sent
    · rw [if_neg (hf.name ▸ hn), if_neg hn]
      exact hf
  names := by
    have hname : (fun l : Listening => l.name) ∘ (fun l : Listening =>
        if l.name = name then { l with taken := l.taken ++ (s.take name).1 } else l) =
          fun l => l.name := by
      funext l
      simp only [Function.comp_apply]
      split <;> rfl
    rw [List.map_map, hname]
    exact h.names

/-- What a subscriber has been sent is what it has taken and what waits for it. -/
theorem sent (h : Heard published s listening) {l : Listening} (hl : l ∈ listening) :
    l.taken ++ s.waiting l.name = published.drop l.since := by
  obtain ⟨n, hn, rfl⟩ := List.getElem_of_mem hl
  have hlive : n < s.live.length := h.follows.length_eq ▸ hn
  have hf := h.follows.get hlive hn
  simp only [List.get_eq_getElem] at hf
  rw [← hf.name, Subscribers.waiting_of_mem h.nodup_live (List.getElem_mem hlive)]
  exact hf.sent

end Heard

end Subscribers

section Accounts

variable {ι : Type} [Host ι]

def LoadNote.task (n : LoadNote) (hook : String) : Task := ⟨n.roots, hook, n.report.announcement⟩

/-- The sweep is the one for the load: from the roots of that time, for the classes that its module
declared. Without roots or classes nothing is swept. -/
def SweepNote.IsFor (s : SweepNote ι) (sweeper : Sweeper) (hook : String) (n : LoadNote) : Prop :=
  if n.declared = [] ∨ n.roots = [] then s.result = none ∧ s.after = s.before
  else ∃ report, s.result = some report ∧
    sweep Host.objects (sweeper.rules n.declared hook) n.roots s.before = .ok (report, s.after)

omit [Host ι] in
theorem sweep_isOk (v : ObjectView ι) (rules : SweepRules) {roots : List Node} (h : roots ≠ [])
    (w : World ι) : ∃ report after, sweep v rules roots w = .ok (report, after) := by
  have hroots : roots.isEmpty = false := by simpa using h
  simp [sweep, hroots]

theorem Sweeper.sweepFor_isFor (sweeper : Sweeper) (hook : String) {n : LoadNote}
    (h : n.report.classNames = n.declared) (w : World ι) :
    SweepNote.IsFor ⟨w, (sweeper.sweepFor (n.task hook) w).1, (sweeper.sweepFor (n.task hook) w).2⟩
      sweeper hook n := by
  have hclasses : (n.task hook).announcement.classNames = n.declared := h
  have hroots : (n.task hook).roots = n.roots := rfl
  have hhook : (n.task hook).hook = hook := rfl
  simp only [SweepNote.IsFor, sweepFor, hclasses, hroots, hhook, Bool.or_eq_true,
    List.isEmpty_iff]
  by_cases hnone : n.declared = [] ∨ n.roots = []
  · rw [if_pos hnone, if_pos hnone]
    exact ⟨rfl, rfl⟩
  · rw [if_neg hnone, if_neg hnone]
    obtain ⟨report, after, hsweep⟩ := sweep_isOk Host.objects (sweeper.rules n.declared hook)
      (fun he => hnone (.inr he)) w
    rw [hsweep]
    exact ⟨report, rfl, rfl⟩

namespace HostRun

/-- The notes account for what the main loop holds. -/
structure Accounts (sweeper : Sweeper) (hook : String) (s : HostRun ι) : Prop where
  deferred : s.loop.isDeferred = true
  sweeper_eq : s.loop.sweeper = sweeper
  hook_eq : s.reloader.settings.lifecycleHook = hook
  roots : s.loop.roots = s.registered
  declared : ∀ n ∈ s.loads, n.report.classNames = n.declared
  announced_le : s.announced ≤ s.loads.length
  tasks : s.underway.toList ++ s.loop.pending = (s.loads.drop s.announced).map (·.task hook)
  swept : s.sweeps.length = s.announced + s.underway.toList.length
  sweeps : ∀ (i : Nat) (n : LoadNote) (done : SweepNote ι), s.loads[i]? = some n →
    s.sweeps[i]? = some done → done.IsFor sweeper hook n
  lastSweep : s.loop.lastSweep = (s.sweeps.filterMap (·.result)).getLast?
  heard : Heard ((s.loads.take s.announced).map (·.report.announcement)) s.loop.subscribers
    s.listening

variable {sweeper : Sweeper} {hook : String} {s : HostRun ι}

theorem start_accounts (r : Reloader) (sweeper : Sweeper) (roots : List Node) (w : World ι) :
    (start r sweeper roots w).Accounts sweeper r.settings.lifecycleHook where
  deferred := rfl
  sweeper_eq := rfl
  hook_eq := rfl
  roots := rfl
  declared _ h := absurd h List.not_mem_nil
  announced_le := Nat.le_refl 0
  tasks := rfl
  swept := rfl
  sweeps _ _ _ h := by cases h
  lastSweep := rfl
  heard := ⟨.nil, List.nodup_nil⟩

namespace Accounts

/-- No load is lost, and none is counted twice. -/
theorem counts (h : s.Accounts sweeper hook) :
    s.announced + s.underway.toList.length + s.loop.pending.length = s.loads.length := by
  have hlength := congrArg List.length h.tasks
  have hle := h.announced_le
  simp only [List.length_append, List.length_map, List.length_drop] at hlength
  omega

theorem sweeps_le (h : s.Accounts sweeper hook) : s.sweeps.length ≤ s.loads.length := by
  have hcounts := h.counts
  rw [h.swept]
  omega

/-- The first task is that of the first load that has not been announced. -/
theorem next (h : s.Accounts sweeper hook) {t : Task} {rest : List Task}
    (ht : s.underway.toList ++ s.loop.pending = t :: rest) :
    ∃ n, s.loads[s.announced]? = some n ∧ n.task hook = t ∧
      rest = (s.loads.drop (s.announced + 1)).map (·.task hook) := by
  obtain ⟨n, more, hdrop, hn, hmore⟩ := List.map_eq_cons_iff.1 (h.tasks.symm.trans ht)
  refine ⟨n, ?_, hn, ?_⟩
  · rw [← List.head?_drop, hdrop]
    rfl
  · rw [← List.drop_drop, hdrop]
    exact hmore.symm

theorem load [CodeImage.KeepsInfos ι] (h : s.Accounts sweeper hook) (path : Path) :
    (s.load path).Accounts sweeper hook := by
  obtain ⟨hsettings, ⟨e, hr, hl⟩ | ⟨report, hr, hl, hnames⟩⟩ :=
    s.reloader.load_deferred h.deferred s.world path
  · simp only [HostRun.load, hr, hl]
    exact { h with hook_eq := (congrArg (·.lifecycleHook) hsettings).trans h.hook_eq }
  · simp only [HostRun.load, hr, hl]
    set n : LoadNote := ⟨s.registered, CodeImage.declaredNames
      (CodeImage.loadModule s.world.image path).2 report.module, report⟩
    have htask : s.reloader.task s.loop report = n.task hook := by
      rw [Reloader.task, h.roots, h.hook_eq]
      rfl
    refine
      { deferred := h.deferred
        sweeper_eq := h.sweeper_eq
        roots := h.roots
        hook_eq := (congrArg (·.lifecycleHook) hsettings).trans h.hook_eq
        declared := ?_
        announced_le := Nat.le_trans h.announced_le (by simp)
        tasks := ?_
        swept := h.swept
        sweeps := ?_
        lastSweep := h.lastSweep
        heard := ?_ }
    · intro n' hn'
      rcases List.mem_append.1 hn' with hn' | hn'
      · exact h.declared n' hn'
      · rw [List.mem_singleton.1 hn']
        exact hnames
    · rw [List.drop_append_of_le_length h.announced_le, List.map_append, ← h.tasks, htask,
        List.append_assoc]
      rfl
    · intro i n' done hi hdone
      have hlt : i < s.loads.length :=
        Nat.lt_of_lt_of_le (List.getElem?_eq_some_iff.1 hdone).1 h.sweeps_le
      rw [List.getElem?_append_left hlt] at hi
      exact h.sweeps i n' done hi hdone
    · rw [List.take_append_of_le_length h.announced_le]
      exact h.heard

theorem begin (h : s.Accounts sweeper hook) : s.begin.Accounts sweeper hook := by
  unfold HostRun.begin
  split
  · rename_i t pending hunderway hpending
    have htasks : s.underway.toList ++ s.loop.pending = t :: pending := by
      rw [hunderway, hpending]
      rfl
    obtain ⟨n, hn, rfl, _⟩ := h.next htasks
    have hswept : s.sweeps.length = s.announced := by
      rw [h.swept, hunderway]
      rfl
    refine
      { deferred := h.deferred
        sweeper_eq := h.sweeper_eq
        roots := h.roots
        hook_eq := h.hook_eq
        declared := h.declared
        announced_le := h.announced_le
        tasks := ?_
        swept := ?_
        sweeps := ?_
        lastSweep := ?_
        heard := h.heard }
    · exact htasks.symm.trans h.tasks
    · simp [hswept]
    · intro i n' done hi hdone
      rcases Nat.lt_or_ge i s.sweeps.length with hlt | hge
      · rw [List.getElem?_append_left hlt] at hdone
        exact h.sweeps i n' done hi hdone
      · obtain rfl : i = s.sweeps.length := by
          have hlt := (List.getElem?_eq_some_iff.1 hdone).1
          simp only [List.length_append, List.length_singleton] at hlt
          omega
        rw [List.getElem?_concat_length] at hdone
        rw [hswept, hn] at hi
        obtain rfl := Option.some.inj hi
        obtain rfl := Option.some.inj hdone
        rw [h.sweeper_eq]
        exact sweeper.sweepFor_isFor hook (h.declared _ (List.mem_of_getElem? hn)) s.world
    · simp only [MainLoop.noteSweep, h.lastSweep, List.filterMap_append, List.getLast?_append]
      cases (s.loop.sweeper.sweepFor (n.task hook) s.world).1 <;> rfl
  · exact h

theorem finish (h : s.Accounts sweeper hook) : s.finish.Accounts sweeper hook := by
  unfold HostRun.finish
  split
  · rename_i t hunderway
    obtain ⟨n, hn, rfl, hrest⟩ := h.next (congrArg (·.toList ++ s.loop.pending) hunderway)
    have hswept : s.sweeps.length = s.announced + 1 := by
      rw [h.swept, hunderway]
      rfl
    refine
      { deferred := h.deferred
        sweeper_eq := h.sweeper_eq
        roots := h.roots
        hook_eq := h.hook_eq
        declared := h.declared
        announced_le := (List.getElem?_eq_some_iff.1 hn).1
        tasks := hrest
        swept := hswept
        sweeps := h.sweeps
        lastSweep := h.lastSweep
        heard := ?_ }
    rw [List.take_add_one, hn, List.map_append]
    exact h.heard.publish n.report.announcement
  · exact h

theorem runTasks (h : s.Accounts sweeper hook) (n : Nat) :
    (runTasks n s).Accounts sweeper hook := by
  induction n generalizing s with
  | zero => exact h
  | succ n ih => exact ih h.begin.finish

end Accounts

omit [Host ι] in
theorem underway_finish (s : HostRun ι) : s.finish.underway = none := by
  unfold finish
  split
  · rfl
  · assumption

theorem finish_begin {t : Task} {pending : List Task} (hu : s.underway = none)
    (hp : s.loop.pending = t :: pending) :
    s.begin.finish =
      { s with
        loop := ({ s.loop with pending }.run t s.world).1
        world := ({ s.loop with pending }.run t s.world).2
        sweeps := s.begin.sweeps
        announced := s.announced + 1 } := by
  simp only [begin, hu, hp, finish, MainLoop.run]

/-- Running tasks one after another does to the main loop and the process what the main loop does
itself, which takes the tasks off its list all at once. -/
theorem runTasks_eq {tasks : List Task} (hu : s.underway = none) (hp : s.loop.pending = tasks) :
    ((runTasks tasks.length s).loop, (runTasks tasks.length s).world) =
      tasks.foldl (fun (l, w) t => l.run t w) ({ s.loop with pending := [] }, s.world) := by
  induction tasks generalizing s with
  | nil =>
    have hloop : { s.loop with pending := [] } = s.loop := by rw [← hp]
    simp only [List.length_nil, runTasks, List.foldl_nil, hloop]
  | cons t tasks ih =>
    have hstep := finish_begin hu hp
    have hu' : s.begin.finish.underway = none := underway_finish _
    have hp' : s.begin.finish.loop.pending = tasks := by
      rw [hstep, MainLoop.run]
      rfl
    have hrest : ({ s.begin.finish.loop with pending := [] }, s.begin.finish.world) =
        MainLoop.run { s.loop with pending := [] } t s.world := by
      simp only [hstep, MainLoop.run]
      rfl
    rw [List.length_cons, runTasks, ih hu' hp', hrest]
    rfl

/-- So running all that wait is running them one after another. -/
theorem runPending_eq (s : HostRun ι) :
    s.runPending = runTasks s.finish.loop.pending.length s.finish := by
  have hrun := runTasks_eq s.underway_finish rfl
  have hloop := congrArg Prod.fst hrun
  have hworld := congrArg Prod.snd hrun
  simp only at hloop hworld
  simp only [runPending, MainLoop.runPending, ← hloop, ← hworld]

theorem underway_runPending (s : HostRun ι) : s.runPending.underway = none := by
  have htasks (n : Nat) {s : HostRun ι} (hu : s.underway = none) :
      (runTasks n s).underway = none := by
    induction n generalizing s with
    | zero => exact hu
    | succ n ih => exact ih (underway_finish _)
  exact htasks _ s.underway_finish

theorem pending_runPending (s : HostRun ι) : s.runPending.loop.pending = [] := by
  simp only [runPending, MainLoop.runPending]
  refine List.foldlRecOn (motive := fun done : MainLoop × World ι => done.1.pending = []) _ _ rfl
    fun done hdone t _ => ?_
  rw [MainLoop.run]
  exact hdone

theorem loads_runPending (s : HostRun ι) : s.runPending.loads = s.loads := by
  have hbegin (s : HostRun ι) : s.begin.loads = s.loads := by
    unfold begin
    split <;> rfl
  have hfinish (s : HostRun ι) : s.finish.loads = s.loads := by
    unfold finish
    split <;> rfl
  have htasks (n : Nat) (s : HostRun ι) : (runTasks n s).loads = s.loads := by
    induction n generalizing s with
    | zero => rfl
    | succ n ih => rw [runTasks, ih, hfinish, hbegin]
  exact (htasks _ _).trans (hfinish s)

namespace Accounts

theorem runPending (h : s.Accounts sweeper hook) : s.runPending.Accounts sweeper hook := by
  rw [runPending_eq]
  exact h.finish.runTasks _

/-- Once the host has run what waits, every load has been announced. -/
theorem announced_runPending (h : s.Accounts sweeper hook) :
    s.runPending.announced = s.runPending.loads.length := by
  have hcounts := h.runPending.counts
  rw [underway_runPending, pending_runPending] at hcounts
  exact hcounts

variable [CodeImage.KeepsInfos ι]

theorem step (h : s.Accounts sweeper hook) (event : HostEvent ι) :
    (s.step event).Accounts sweeper hook := by
  have hpublished :
      s.announced = ((s.loads.take s.announced).map (·.report.announcement)).length := by
    rw [List.length_map, List.length_take, Nat.min_eq_left h.announced_le]
  cases event with
  | load path => exact h.load path
  | begin => exact h.begin
  | finish => exact h.finish
  | runPending => exact h.runPending
  | subscribe name =>
    refine { h with heard := ?_ }
    have hheard := h.heard.subscribe name
    rw [← hpublished] at hheard
    exact hheard
  | leave name => exact { h with heard := h.heard.leave name }
  | take name => exact { h with heard := h.heard.take name }
  | addRoot n => exact { h with roots := congrArg (· ++ [n]) h.roots }
  | clearRoots => exact { h with roots := rfl }
  | act f => exact { h with }

theorem run (h : s.Accounts sweeper hook) (events : List (HostEvent ι)) :
    (s.run events).Accounts sweeper hook := by
  induction events generalizing s with
  | nil => exact h
  | cons event events ih => exact ih (h.step event)

end Accounts

/-- Whatever a host does with a main loop that keeps its tasks: each of those who listen has been
sent the loads announced since it subscribed, in load order; a load is announced only when it has
been swept for, with the roots and for the classes of the load; the main loop shows the report of
the last sweep; and every load is announced once the host runs what waits. -/
theorem run_announces [CodeImage.KeepsInfos ι] (r : Reloader) (sweeper : Sweeper)
    (roots : List Node) (w : World ι) (events : List (HostEvent ι)) :
    let s := (start r sweeper roots w).run events
    s.loop.subscribers.live.map (·.name) = s.listening.map (·.name) ∧
    (∀ l ∈ s.listening, l.taken ++ s.loop.subscribers.waiting l.name =
      ((s.loads.take s.announced).drop l.since).map (·.report.announcement)) ∧
    s.announced ≤ s.sweeps.length ∧ s.sweeps.length ≤ s.loads.length ∧
    (∀ (i : Nat) (n : LoadNote) (done : SweepNote ι), s.loads[i]? = some n →
      s.sweeps[i]? = some done → done.IsFor sweeper r.settings.lifecycleHook n) ∧
    s.loop.lastSweep = (s.sweeps.filterMap (·.result)).getLast? ∧
    s.runPending.loads = s.loads ∧ s.runPending.announced = s.loads.length := by
  intro s
  have h : s.Accounts sweeper r.settings.lifecycleHook :=
    (start_accounts r sweeper roots w).run events
  refine ⟨h.heard.names_live, fun l hl => ?_, ?_, h.sweeps_le, h.sweeps, h.lastSweep,
    s.loads_runPending, ?_⟩
  · rw [h.heard.sent hl, List.map_drop]
  · exact h.swept ▸ Nat.le_add_right ..
  · rw [h.announced_runPending, s.loads_runPending]

end HostRun

end Accounts

namespace StatusLine

open Managed

def window : Node :=
  .host
    { id := 1, className := "Window", responds := ["injected"], introspects := false,
      fields := [], chain := ["Window"], slots := [] }

def stage (title : Int) : HostEvent ManagedImage :=
  .act (Command.stage stagePath (oneClass { name := "Window" } [("Window.title", title)])).perform

/-- The window is loaded before it is a root. A status line subscribes while that load is underway;
then a load fails, and the window is loaded again. -/
def events : List (HostEvent ManagedImage) :=
  [stage 1, .load stagePath, .addRoot window, .begin, .subscribe "status", .load ⟨[]⟩, stage 2,
    .load stagePath, .finish, .clearRoots, .runPending]

def shown : HostRun ManagedImage :=
  (HostRun.start (fresh false).1 (Sweeper.make none []) [] (fresh false).2).run events

theorem run_announces_both :
    shown.loads.map (·.roots.length) = [0, 1] ∧ shown.announced = 2 ∧
    shown.loop.subscribers.waiting "status" = shown.loads.map (·.report.announcement) ∧
    shown.loop.lastSweep = some ⟨1, 1, 0⟩ ∧
    shown.loop.lastSweep = (shown.sweeps.filterMap (·.result)).getLast? := by
  obtain ⟨_, hsent, _, _, _, hlast, _, _⟩ := HostRun.run_announces (fresh false).1
    (Sweeper.make none []) [] (fresh false).2 events
  exact ⟨rfl, rfl, hsent ⟨"status", 0, []⟩ (List.mem_singleton.2 rfl), rfl, hlast⟩

end StatusLine

end HotReload
