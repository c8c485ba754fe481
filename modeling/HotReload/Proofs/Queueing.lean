import HotReload.LoadQueue

/-! # What a queue comes to

Loads are submitted to a queue while it works through those that wait: in main mode when it is
pumped, in background mode on a thread of its own, which takes one load after another at times that
nobody controls. Either way the queue comes to loading the submitted paths one after another.
-/

namespace HotReload

/-- Loads paths one after another: the results, and what is left behind. -/
def Reloader.loadEach {ι : Type} [Host ι] (r : Reloader) (loop : MainLoop) (w : World ι) :
    List Path → List (Except Failure LoadReport) × Reloader × MainLoop × World ι
  | [] => ([], r, loop, w)
  | path :: paths =>
    let done := r.load loop w path
    let rest := loadEach done.reloader done.loop done.world paths
    (done.result :: rest.1, rest.2)

theorem Reloader.length_loadEach {ι : Type} [Host ι] (r : Reloader) (loop : MainLoop) (w : World ι)
    (paths : List Path) : (r.loadEach loop w paths).1.length = paths.length := by
  induction paths generalizing r loop w with
  | nil => rfl
  | cons path paths ih => simp [loadEach, ih]

/-- What happens to a queue before it shuts down. -/
inductive QueueEvent where
  | submit (path : Path)
  | pump
  /-- The thread of a background queue takes a load. -/
  | begin
  /-- The thread has carried out the load that it took. -/
  | finish
  /-- The host waits for the thread. -/
  | await

def QueueEvent.submitted (events : List QueueEvent) : List Path :=
  events.filterMap fun
    | .submit path => some path
    | _ => none

/-- What leaves nothing outstanding. -/
def QueueEvent.clearing : QueueMode → QueueEvent
  | .background => .await
  | .main => .pump

def LoadRequest.numbered (start : Nat) (paths : List Path) : List LoadRequest :=
  (paths.zipIdx start).map fun e => ⟨e.2, e.1⟩

theorem LoadRequest.numbered_append (start : Nat) (paths more : List Path) :
    numbered start (paths ++ more) =
      numbered start paths ++ numbered (start + paths.length) more := by
  simp [numbered, List.zipIdx_append]

/-- A queue at work, and what its loads have left behind so far. -/
structure QueueRun (ι : Type) where
  queue : LoadQueue
  loop : MainLoop
  world : World ι
  /-- The replies so far, in the order in which they were sent. -/
  replies : List LoadReply := []
  /-- The next submission gets this ticket. -/
  nextTicket : Nat := 0
  /-- The counts that the pumps so far have answered, added up. -/
  pumped : Nat := 0

def Carried.prepend {ι : Type} (before : List LoadReply) (c : Carried ι) : Carried ι :=
  { c with replies := before ++ c.replies }

namespace QueueRun

variable {ι : Type} [Host ι]

def start (r : Reloader) (mode : QueueMode) (loop : MainLoop) (w : World ι) : QueueRun ι :=
  { queue := { reloader := r, mode }, loop, world := w }

def adopt (s : QueueRun ι) (worked : LoadQueue × Carried ι) : QueueRun ι :=
  { s with
    queue := worked.1
    loop := worked.2.loop
    world := worked.2.world
    replies := s.replies ++ worked.2.replies }

def step (s : QueueRun ι) : QueueEvent → QueueRun ι
  | .submit path =>
    { s with queue := s.queue.submit ⟨s.nextTicket, path⟩, nextTicket := s.nextTicket + 1 }
  | .pump =>
    let (count, worked) := s.queue.pump s.loop s.world
    { s.adopt worked with pumped := s.pumped + count }
  | .begin => { s with queue := s.queue.begin }
  | .finish => s.adopt (s.queue.finish s.loop s.world)
  | .await => s.adopt (s.queue.await s.loop s.world)

def run (s : QueueRun ι) (events : List QueueEvent) : QueueRun ι := events.foldl step s

/-- Ends the run: what is outstanding is carried out. -/
def shutdown (s : QueueRun ι) : Carried ι := (s.queue.shutdown s.loop s.world).prepend s.replies

/-- What there will be once nothing is outstanding. -/
def settle (s : QueueRun ι) : Carried ι :=
  s.queue.outstanding.foldl LoadQueue.carryOne ⟨s.queue.reloader, s.loop, s.world, s.replies⟩

/-- A queue in main mode has no thread, and carries out loads in pumps only. -/
structure Orderly (mode : QueueMode) (s : QueueRun ι) : Prop where
  inMode : s.queue.mode = mode
  unthreaded : mode = .main → s.queue.taken = none
  pumped : s.pumped = if mode = .main then s.replies.length else 0

end QueueRun

namespace LoadQueue

variable {ι : Type} [Host ι]

/-- Replies that were there before stay in front. -/
theorem foldl_carryOne (c : Carried ι) (requests : List LoadRequest) :
    requests.foldl carryOne c =
      (carryOut c.reloader c.loop c.world requests).prepend c.replies := by
  induction requests generalizing c with
  | nil => simp [carryOut, Carried.prepend]
  | cons request requests ih =>
    have hrest := ih (carryOne ⟨c.reloader, c.loop, c.world, []⟩ request)
    rw [List.foldl_cons, ih, carryOut, carryOut, List.foldl_cons, hrest]
    simp [carryOne, carryOut, Carried.prepend]

theorem carryOut_cons (r : Reloader) (loop : MainLoop) (w : World ι) (request : LoadRequest)
    (requests : List LoadRequest) :
    carryOut r loop w (request :: requests) =
      let done := r.load loop w request.path
      (carryOut done.reloader done.loop done.world requests).prepend
        [⟨request.ticket, done.result⟩] :=
  foldl_carryOne (carryOne ⟨r, loop, w, []⟩ request) requests

theorem length_carryOut (r : Reloader) (loop : MainLoop) (w : World ι)
    (requests : List LoadRequest) :
    (carryOut r loop w requests).replies.length = requests.length := by
  induction requests generalizing r loop w with
  | nil => rfl
  | cons request requests ih => simp [carryOut_cons, Carried.prepend, ih]

/-- Carrying out loads is loading their paths in order and answering each under its ticket. -/
theorem carryOut_numbered (r : Reloader) (loop : MainLoop) (w : World ι) (start : Nat)
    (paths : List Path) :
    carryOut r loop w (LoadRequest.numbered start paths) =
      let done := r.loadEach loop w paths
      ⟨done.2.1, done.2.2.1, done.2.2.2, (done.1.zipIdx start).map fun e => ⟨e.2, e.1⟩⟩ := by
  induction paths generalizing r loop w start with
  | nil => rfl
  | cons path paths ih =>
    have hrest := ih (r.load loop w path).reloader (r.load loop w path).loop
      (r.load loop w path).world (start + 1)
    simp only [LoadRequest.numbered, List.zipIdx_cons, List.map_cons] at hrest ⊢
    rw [carryOut_cons]
    simp only [hrest, Carried.prepend]
    rfl

variable {q : LoadQueue}

theorem await_background (h : q.mode = .background) (loop : MainLoop) (w : World ι) :
    q.await loop w = q.drain loop w := by
  rw [await, h]

theorem await_main (h : q.mode = .main) (loop : MainLoop) (w : World ι) :
    q.await loop w = (q, ⟨q.reloader, loop, w, []⟩) := by
  rw [await, h]

theorem pump_background (h : q.mode = .background) (loop : MainLoop) (w : World ι) :
    q.pump loop w = (0, q, ⟨q.reloader, loop, w, []⟩) := by
  rw [pump, h]

theorem pump_main (h : q.mode = .main) (loop : MainLoop) (w : World ι) :
    q.pump loop w = (q.waiting.length, q.drain loop w) := by
  rw [pump, h]

theorem begin_main (h : q.mode = .main) : q.begin = q := by
  rw [begin, h]

theorem begin_mode (q : LoadQueue) : q.begin.mode = q.mode := by
  unfold begin
  split <;> rfl

theorem begin_reloader (q : LoadQueue) : q.begin.reloader = q.reloader := by
  unfold begin
  split <;> rfl

theorem begin_outstanding (q : LoadQueue) : q.begin.outstanding = q.outstanding := by
  unfold begin
  split
  · rename_i htaken hwaiting
    simp [outstanding, htaken, hwaiting]
  · rfl

end LoadQueue

namespace QueueRun

variable {ι : Type} [Host ι] {s : QueueRun ι} {mode : QueueMode}

theorem settle_eq (s : QueueRun ι) :
    s.settle = (LoadQueue.carryOut s.queue.reloader s.loop s.world s.queue.outstanding).prepend
      s.replies :=
  LoadQueue.foldl_carryOne _ _

theorem shutdown_eq (s : QueueRun ι) : s.shutdown = s.settle := s.settle_eq.symm

theorem settle_submit (s : QueueRun ι) (path : Path) :
    (s.step (.submit path)).settle = LoadQueue.carryOne s.settle ⟨s.nextTicket, path⟩ := by
  simp only [settle, step, LoadQueue.submit, LoadQueue.outstanding, ← List.append_assoc]
  rw [List.foldl_append]
  rfl

/-- Carrying out the oldest of the outstanding loads changes nothing in the end. -/
theorem settle_adopt {requests : List LoadRequest} {queue : LoadQueue}
    (hq : s.queue.outstanding = requests ++ queue.outstanding)
    (hr : queue.reloader =
      (LoadQueue.carryOut s.queue.reloader s.loop s.world requests).reloader) :
    (s.adopt (queue, LoadQueue.carryOut s.queue.reloader s.loop s.world requests)).settle =
      s.settle := by
  rw [settle, settle, hq, List.foldl_append, LoadQueue.foldl_carryOne ⟨_, _, _, s.replies⟩]
  simp only [adopt, hr]
  rfl

theorem settle_drain (s : QueueRun ι) :
    (s.adopt (s.queue.drain s.loop s.world)).settle = s.settle :=
  settle_adopt (List.append_nil _).symm rfl

/-- After a drain the replies are those of the end. -/
theorem replies_drain (s : QueueRun ι) :
    (s.adopt (s.queue.drain s.loop s.world)).replies = s.settle.replies := by
  rw [settle_eq]
  rfl

omit [Host ι] in
theorem adopt_idle (s : QueueRun ι) :
    s.adopt (s.queue, ⟨s.queue.reloader, s.loop, s.world, []⟩) = s := by
  simp [adopt]

theorem step_await_background (h : s.queue.mode = .background) :
    s.step .await = s.adopt (s.queue.drain s.loop s.world) := by
  rw [step, LoadQueue.await_background h]

theorem step_await_main (h : s.queue.mode = .main) : s.step .await = s := by
  rw [step, LoadQueue.await_main h, adopt_idle]

theorem step_pump_background (h : s.queue.mode = .background) : s.step .pump = s := by
  rw [step, LoadQueue.pump_background h]
  exact s.adopt_idle

theorem step_pump_main (h : s.queue.mode = .main) :
    s.step .pump =
      { s.adopt (s.queue.drain s.loop s.world) with
        pumped := s.pumped + s.queue.waiting.length } := by
  rw [step, LoadQueue.pump_main h]

theorem settle_step (s : QueueRun ι) (event : QueueEvent) :
    (s.step event).settle =
      (LoadRequest.numbered s.nextTicket (QueueEvent.submitted [event])).foldl LoadQueue.carryOne
        s.settle := by
  cases event with
  | submit path => exact s.settle_submit path
  | begin =>
    simp only [step, settle, s.queue.begin_outstanding, s.queue.begin_reloader]
    rfl
  | finish => exact settle_adopt rfl rfl
  | await =>
    cases hm : s.queue.mode with
    | background =>
      rw [step_await_background hm]
      exact s.settle_drain
    | main =>
      rw [step_await_main hm]
      rfl
  | pump =>
    cases hm : s.queue.mode with
    | background =>
      rw [step_pump_background hm]
      rfl
    | main =>
      rw [step_pump_main hm]
      exact s.settle_drain

theorem nextTicket_step (s : QueueRun ι) (event : QueueEvent) :
    (s.step event).nextTicket = s.nextTicket + (QueueEvent.submitted [event]).length := by
  cases event <;> rfl

/-- A run settles to what its start settles to, followed by the loads that were submitted. -/
theorem settle_run (s : QueueRun ι) (events : List QueueEvent) :
    (s.run events).settle =
      (LoadRequest.numbered s.nextTicket (QueueEvent.submitted events)).foldl LoadQueue.carryOne
        s.settle := by
  induction events generalizing s with
  | nil => rfl
  | cons event events ih =>
    have hsubmitted : QueueEvent.submitted (event :: events) =
        QueueEvent.submitted [event] ++ QueueEvent.submitted events :=
      List.filterMap_append (l := [event])
    calc (s.run (event :: events)).settle
      _ = ((s.step event).run events).settle := rfl
      _ = _ := ih (s.step event)
      _ = _ := by
        rw [settle_step, nextTicket_step, hsubmitted, LoadRequest.numbered_append,
          List.foldl_append]

omit [Host ι] in
theorem start_orderly (r : Reloader) (mode : QueueMode) (loop : MainLoop) (w : World ι) :
    (start r mode loop w).Orderly mode where
  inMode := rfl
  unthreaded _ := rfl
  pumped := (ite_self 0).symm

/-- Whatever happens to a background queue, pumps count nothing. -/
theorem Orderly.step_background (h : s.Orderly .background) (event : QueueEvent) :
    (s.step event).Orderly .background := by
  cases event with
  | submit path => exact ⟨h.inMode, nofun, h.pumped⟩
  | begin => exact ⟨s.queue.begin_mode.trans h.inMode, nofun, h.pumped⟩
  | finish => exact ⟨h.inMode, nofun, h.pumped⟩
  | await =>
    rw [step_await_background h.inMode]
    exact ⟨h.inMode, nofun, h.pumped⟩
  | pump =>
    rw [step_pump_background h.inMode]
    exact h

/-- In main mode there is no thread, and loads are carried out and counted by pumps only. -/
theorem Orderly.step_main (h : s.Orderly .main) (event : QueueEvent) :
    (s.step event).Orderly .main := by
  have htaken : s.queue.taken = none := h.unthreaded rfl
  have hpumped : s.pumped = s.replies.length := h.pumped
  cases event with
  | submit path => exact ⟨h.inMode, h.unthreaded, h.pumped⟩
  | begin =>
    rw [step, LoadQueue.begin_main h.inMode]
    exact h
  | finish =>
    refine ⟨h.inMode, fun _ => rfl, ?_⟩
    simp [step, adopt, LoadQueue.finish, htaken, LoadQueue.length_carryOut, hpumped]
  | await =>
    rw [step_await_main h.inMode]
    exact h
  | pump =>
    rw [step_pump_main h.inMode]
    refine ⟨h.inMode, fun _ => rfl, ?_⟩
    simp [adopt, LoadQueue.drain, LoadQueue.outstanding, htaken, LoadQueue.length_carryOut, hpumped]

theorem Orderly.run (h : s.Orderly mode) (events : List QueueEvent) :
    (s.run events).Orderly mode := by
  induction events generalizing s with
  | nil => exact h
  | cons event events ih =>
    apply ih
    cases mode with
    | background => exact h.step_background event
    | main => exact h.step_main event

theorem Orderly.replies_clearing (h : s.Orderly mode) :
    (s.step (.clearing mode)).replies = s.settle.replies := by
  cases mode with
  | background =>
    rw [QueueEvent.clearing, step_await_background h.inMode]
    exact s.replies_drain
  | main =>
    rw [QueueEvent.clearing, step_pump_main h.inMode]
    exact s.replies_drain

/-- However submissions, pumps and the work of a thread interleave, a queue that is shut down comes
to loading the submitted paths one after another, in either mode: every submission has one reply, in
order, and the reloader, the main loop and the process are those that the last load left. The
replies from before stay, and in main mode the pumps have counted them. A pump in main mode, and
waiting for the thread in background mode, leave no submission without its reply. -/
theorem shutdown_run (r : Reloader) (mode : QueueMode) (loop : MainLoop) (w : World ι)
    (events : List QueueEvent) :
    let s := (start r mode loop w).run events
    let inOrder := r.loadEach loop w (QueueEvent.submitted events)
    s.shutdown =
      ⟨inOrder.2.1, inOrder.2.2.1, inOrder.2.2.2, inOrder.1.zipIdx.map fun e => ⟨e.2, e.1⟩⟩ ∧
    inOrder.1.length = (QueueEvent.submitted events).length ∧
    (∀ mode', ((start r mode' loop w).run events).shutdown = s.shutdown) ∧
    s.replies <+: s.shutdown.replies ∧
    (s.step (.clearing mode)).replies = s.shutdown.replies ∧
    s.pumped = if mode = .main then s.replies.length else 0 := by
  intro s inOrder
  have hshutdown (mode' : QueueMode) : ((start r mode' loop w).run events).shutdown =
      LoadQueue.carryOut r loop w (LoadRequest.numbered 0 (QueueEvent.submitted events)) := by
    rw [shutdown_eq, settle_run]
    rfl
  have horderly : s.Orderly mode := (start_orderly r mode loop w).run events
  refine ⟨?_, r.length_loadEach loop w _, fun mode' => ?_, ?_, ?_, horderly.pumped⟩
  · rw [hshutdown, LoadQueue.carryOut_numbered]
  · rw [hshutdown, hshutdown]
  · rw [shutdown_eq, settle_eq]
    exact List.prefix_append _ _
  · rw [shutdown_eq, horderly.replies_clearing]

end QueueRun

end HotReload
