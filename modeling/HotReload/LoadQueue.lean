import HotReload.Reloader

/-! # The load queue

A queue owns a reloader and carries out the loads that are submitted to it, one after another. In
background mode a thread takes one load at a time, whenever it gets to it; in main mode loads wait
until the host pumps the queue.
-/

namespace HotReload

structure LoadRequest where
  /-- What its reply goes by. -/
  ticket : Nat
  path : Path

structure LoadReply where
  ticket : Nat
  result : Except Failure LoadReport

structure LoadQueue where
  reloader : Reloader
  mode : QueueMode
  /-- The load that the thread of a background queue is at. -/
  taken : Option LoadRequest := none
  /-- Loads that wait, oldest first. -/
  waiting : List LoadRequest := []

/-- What carrying out loads leaves behind. -/
structure Carried (ι : Type) where
  reloader : Reloader
  loop : MainLoop
  world : World ι
  /-- One reply a load, in order. -/
  replies : List LoadReply := []

namespace LoadQueue

variable {ι : Type} [Host ι]

def carryOne (c : Carried ι) (request : LoadRequest) : Carried ι :=
  let done := c.reloader.load c.loop c.world request.path
  ⟨done.reloader, done.loop, done.world, c.replies ++ [⟨request.ticket, done.result⟩]⟩

def carryOut (r : Reloader) (loop : MainLoop) (w : World ι) (requests : List LoadRequest) :
    Carried ι :=
  requests.foldl carryOne ⟨r, loop, w, []⟩

/-- The loads that have been submitted and not carried out, oldest first. -/
def outstanding (q : LoadQueue) : List LoadRequest := q.taken.toList ++ q.waiting

def submit (q : LoadQueue) (request : LoadRequest) : LoadQueue :=
  { q with waiting := q.waiting ++ [request] }

/-- The thread of a background queue takes the load that waits longest. -/
def begin (q : LoadQueue) : LoadQueue :=
  match q.mode, q.taken, q.waiting with
  | .background, none, request :: waiting => { q with taken := some request, waiting }
  | _, _, _ => q

/-- The thread carries out the load that it has taken. -/
def finish (q : LoadQueue) (loop : MainLoop) (w : World ι) : LoadQueue × Carried ι :=
  let done := carryOut q.reloader loop w q.taken.toList
  ({ q with reloader := done.reloader, taken := none }, done)

def drain (q : LoadQueue) (loop : MainLoop) (w : World ι) : LoadQueue × Carried ι :=
  let done := carryOut q.reloader loop w q.outstanding
  ({ q with reloader := done.reloader, taken := none, waiting := [] }, done)

/-- The host waits for the thread of a background queue; in main mode there is none. -/
def await (q : LoadQueue) (loop : MainLoop) (w : World ι) : LoadQueue × Carried ι :=
  match q.mode with
  | .background => q.drain loop w
  | .main => (q, ⟨q.reloader, loop, w, []⟩)

/-- Carries out what waits in main mode; a background queue does not wait for the host. -/
def pump (q : LoadQueue) (loop : MainLoop) (w : World ι) : Nat × LoadQueue × Carried ι :=
  match q.mode with
  | .background => (0, q, ⟨q.reloader, loop, w, []⟩)
  | .main => (q.waiting.length, q.drain loop w)

/-- Carries out what is outstanding and gives the reloader back. -/
def shutdown (q : LoadQueue) (loop : MainLoop) (w : World ι) : Carried ι :=
  (q.drain loop w).2

end LoadQueue

end HotReload
