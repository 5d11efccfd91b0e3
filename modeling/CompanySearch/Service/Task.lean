-- Tasks of the service, several of which may be under way at once. A task runs until it has to
-- wait for a time or for the refresh lock, and then gives way to the others. Tasks that can go on
-- do so in the order in which they became able to.
import CompanySearch.Service.State

namespace CompanySearch.Service

/-! ## Tasks -/

/-- What a task is for. -/
inductive Work where
  | call (kind : Cache.CallKind)
  | exchange (request : Web.Request) (id : String)
  | changeStore (change : Cache.Store.Change)
  | elapse (time : Nat)

/-- What a task has come to. -/
inductive Result where
  /-- A call of the cache, which has finished. -/
  | called (call : Nat)
  | replied (reply : Web.Reply)
  | done

/-- How far a task has come. -/
inductive Stage where
  | asleep (wake : Nat)
  /-- At work since a time, on a call of the cache. -/
  | calling (since call : Nat)
  | ended (result : Result) (time : Nat)

structure Task where
  work : Work
  stage : Stage

/-- The service with its tasks: those that can go on, and those that wait for the refresh lock,
each by number and in their order. -/
structure Board where
  service : Service
  tasks : List Task
  ready : List Nat
  waiting : List Nat

namespace Board

def setStage (b : Board) (i : Nat) (stage : Stage) : Board :=
  { b with tasks := b.tasks.modify i fun t => { t with stage := stage } }

def finish (b : Board) (i : Nat) (result : Result) : Board :=
  b.setStage i (.ended result b.service.now)

/-! ## Ends of exchanges -/

/-- Ends an exchange with a reply. -/
def reply (b : Board) (i : Nat) (request : Web.Request) (id : String) (since : Nat)
    (r : Web.Reply) : Board :=
  let span := requestSpan request id
  { b with service := b.service.recordExchange request span since r.status }.finish i
    (.replied (b.service.finished request id r))

/-! ## Calls -/

/-- Begins a call of the cache for a task. -/
def begin (b : Board) (i since : Nat) (kind : Cache.CallKind) : Board :=
  let call := b.service.cache.calls.length
  { b with service := { b.service with cache := b.service.cache.begin kind } }.setStage i
    (.calling since call)

/-- What an exchange does once its call has finished: it goes on to the next call or replies. -/
def concludeExchange (b : Board) (i : Nat) (request : Web.Request) (id : String)
    (since call : Nat) : Cache.Outcome → Board
  | .read _ _ => b.reply i request id since (rowsReply (b.service.rows call))
  | .failed fault =>
    let event := faultEvent? fault (some (requestSpan request id))
    { b with service := b.service.logAll event.toList }.reply i request id since
      (faultReply fault)
  | .invalidated => b.begin i since .status
  | .described status =>
    let status := statusJson b.service.timeText status
    b.reply i request id since
      (match Web.Endpoint.ofPath? request.path with
      | some .cacheInvalidation => invalidatedReply status
      | _ => .ofJson 200 status)

/-- The span of a task's events. -/
def spanOf : Work → Option Log.Span
  | .exchange request id => some (requestSpan request id)
  | _ => none

/-- Takes the call of a task as far as it gets. A finished call ends the task, unless there is
another call to make; so many calls are allowed. A task that waits for the refresh lock joins
those that do. -/
def proceed (i since : Nat) (work : Work) : Nat → Nat → Board → Board
  | 0, _, b => b
  | calls + 1, call, b =>
    let b := { b with service := b.service.proceed call (spanOf work) }
    match b.service.outcome? call with
    | some outcome =>
      match work with
      | .exchange request id =>
        let b := b.concludeExchange i request id since call outcome
        match b.tasks[i]? with
        | some ⟨_, .calling _ next⟩ => proceed i since work calls next b
        | _ => b
      | _ => b.finish i (.called call)
    | none =>
      match b.service.cache.calls[call]? with
      | some ⟨_, _, .queued⟩ => { b with waiting := b.waiting ++ [i] }
      | _ => b

/-- No task makes more than two calls. -/
def callsPerTask : Nat := 2

/-- Begins a call for a task and takes it as far as it gets. -/
def call (b : Board) (i : Nat) (work : Work) (kind : Cache.CallKind) : Board :=
  let number := b.service.cache.calls.length
  proceed i b.service.now work callsPerTask number (b.begin i b.service.now kind)

/-! ## Tasks at work -/

/-- Begins an exchange. -/
def exchange (b : Board) (i : Nat) (request : Web.Request) (id : String) : Board :=
  if request.method = "OPTIONS" then b.finish i (.replied (b.service.preflight request))
  else
    let span := requestSpan request id
    let work := Work.exchange request id
    let b := { b with service := b.service.log (incomingEvent request span) }
    match Web.demand b.service.bodyLimit request with
    | .reply r => b.reply i request id b.service.now r
    | .page => b.reply i request id b.service.now b.service.pageReply
    | .search search =>
      { b with service := b.service.log (searchEvent search span) }.call i work (.search search)
    | .status => b.call i work .status
    | .invalidate => b.call i work .invalidate

/-- Lets a task go on. -/
def resume (b : Board) (i : Nat) : Board :=
  match b.tasks[i]? with
  | some ⟨work, .asleep _⟩ =>
    match work with
    | .call kind => b.call i work kind
    | .exchange request id => b.exchange i request id
    | .changeStore change => { b with service := b.service.changeStore change }.finish i .done
    | .elapse time => { b with service := b.service.elapse time }.finish i .done
  | some ⟨work, .calling since call⟩ => proceed i since work callsPerTask call b
  | _ => b

/-- A free refresh lock goes at once to the task that has waited longest, which then can go
on after those that already can. -/
def handOver (b : Board) : Board :=
  match b.service.cache.refreshLock, b.waiting with
  | none, i :: rest =>
    match b.tasks[i]? with
    | some ⟨_, .calling _ call⟩ =>
      let cache := (b.service.cache.lockRefresh call).getD b.service.cache
      { b with
        service := { b.service with cache := cache }
        ready := b.ready ++ [i]
        waiting := rest }
    | _ => { b with waiting := rest }
  | _, _ => b

/-! ## Time -/

/-- The time at which a task can go on by itself, if it waits for one. -/
def wakeTime? (b : Board) (t : Task) : Option Nat :=
  match t.stage with
  | .asleep time => some time
  | .calling _ call => b.service.cache.dueTime call
  | .ended _ _ => none

/-- The task that can go on first and its time; of several at one time the first in order. -/
def nextWake? (b : Board) : Option (Nat × Nat) :=
  b.tasks.zipIdx.foldl (fun best p =>
    match b.wakeTime? p.1 with
    | none => best
    | some time =>
      match best with
      | some (least, _) => if time < least then some (time, p.2) else best
      | none => some (time, p.2)) none

/-- Takes one task as far as it gets. If none can go on, time passes until one can. -/
def step (b : Board) : Option Board :=
  match b.ready with
  | i :: rest => some ({ b with ready := rest }.resume i).handOver
  | [] =>
    b.nextWake?.map fun (time, i) =>
      { b with service := b.service.elapse (time - b.service.now), ready := [i] }

/-- Takes steps until all tasks have ended, at most so many. -/
def settle : Nat → Board → Board
  | 0, b => b
  | fuel + 1, b =>
    match b.step with
    | some next => settle fuel next
    | none => b

/-- A task goes on at most so often: when it begins, when it gets the refresh lock and when a
fetch ends, each time after a step in which time passes. -/
def stepsPerTask : Nat := 12

end Board

/-! ## Runs -/

/-- Runs tasks, each of which begins so many milliseconds from now, until all have ended. Those
that begin now do so in their order. -/
def runAll (s : Service) (works : List (Nat × Work)) : Service × List Stage :=
  let tasks := works.map fun p => Task.mk p.2 (.asleep (s.now + p.1))
  let ready := (works.zipIdx.filter fun p => p.1.1 == 0).map Prod.snd
  let board := Board.settle (Board.stepsPerTask * (works.length + 1)) ⟨s, tasks, ready, []⟩
  (board.service, board.tasks.map Task.stage)

/-- Runs one task with nothing else under way. -/
def run (s : Service) (work : Work) : Service × Result :=
  match s.runAll [(0, work)] with
  | (s, [.ended result _]) => (s, result)
  | (s, _) => (s, .done)

end CompanySearch.Service
