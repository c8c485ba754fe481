import HotReload.Session.Basic

/-! # Loads of a session

The host calls its reloader directly, or hands it to a queue and takes the replies by name. While a
queue owns the reloader, the host cannot call it; it gets it back when the queue shuts down.
-/

namespace HotReload.Session

variable {ι : Type} [Host ι]

def load? (s : Session ι) (path : Path) : Option (Except Failure LoadReport × Session ι) :=
  s.reloader?.map fun r =>
    let done := r.load s.loop s.world path
    (done.result,
      { s with reloading := .direct done.reloader, loop := done.loop, world := done.world })

def addListener? (s : Session ι) (l : Listener) : Option (Session ι) :=
  s.reloader?.map fun r =>
    { s with reloading := .direct { r with listeners := r.listeners ++ [l] } }

/-- Hands the reloader to a queue, in the mode of its settings unless another is given. -/
def startQueue? (s : Session ι) (mode : Option QueueMode) : Option (Session ι) :=
  s.reloader?.map fun r =>
    { s with reloading := .queued { reloader := r, mode := mode.getD r.settings.queue } }

def deliver (submissions : List Submission) (reply : LoadReply) : List Submission :=
  submissions.map fun b =>
    if b.ticket = reply.ticket then { b with reply := some reply.result } else b

def adoptLoads (s : Session ι) (done : Carried (Faulty ι)) : Session ι :=
  { s with
    loop := done.loop
    world := done.world
    submissions := done.replies.foldl deliver s.submissions }

/-- Submits a load under a name and leaves time for the thread of a background queue; an older
submission of the name is forgotten. -/
def submit? (s : Session ι) (path : Path) (name : String) : Option (Session ι) :=
  s.queue?.map fun q =>
    let ticket := s.nextTicket
    let (q, done) := (q.submit ⟨ticket, path⟩).await s.loop s.world
    let s : Session ι := { s with
      nextTicket := ticket + 1
      submissions := s.submissions.filter (·.name != name) ++ [{ name, ticket }] }
    { s.adoptLoads done with reloading := .queued q }

def pump? (s : Session ι) : Option (Nat × Session ι) :=
  s.queue?.map fun q =>
    let (count, q, done) := q.pump s.loop s.world
    (count, { s.adoptLoads done with reloading := .queued q })

/-- Takes the reply to a submission, if it is there. Each reply is taken once. -/
def takeReply (s : Session ι) (name : String) :
    Option (Except Failure LoadReport) × Session ι :=
  let take (b : Submission) : Submission := if b.name = name then { b with reply := none } else b
  let reply := (s.submissions.find? (·.name == name)).bind (·.reply)
  (reply, { s with submissions := s.submissions.map take })

def shutdownQueue? (s : Session ι) : Option (Session ι) :=
  s.queue?.map fun q =>
    let done := q.shutdown s.loop s.world
    { s.adoptLoads done with reloading := .direct done.reloader }

/-- Drops the queue with its reloader. Loads that wait in main mode are not carried out. -/
def dropQueue (s : Session ι) : Session ι := { s with reloading := .absent }

def runPending (s : Session ι) : Nat × Session ι :=
  let (count, loop, world) := s.loop.runPending s.world
  (count, { s with loop, world })

def setSubscribers (s : Session ι) (subscribers : Subscribers) : Session ι :=
  { s with loop := { s.loop with subscribers } }

end HotReload.Session
