import Ovpnlane.Construction.Socks
import Ovpnlane.Framework.Watch

/-!
# The accept loop

`serve` (`src/socks.rs`) with the set of tasks it spawns, the channel on which `main` asks it to
stop, and the worker below.  An iteration of its loop looks at the channel and then takes one ready
arm of its `select!`; after the loop every task is aborted, and `serve` returns when all of them
have been joined.

A task is what `tasks.spawn` was given: it holds a permit until it ends, for whatever reason, and
stays in the set until it is joined.  Of `handle` the task keeps the request it has made; the bytes
are in `Construction/Socks.lean`.
-/

namespace Ovpnlane

namespace Socks

/-- A task of the set, with the reply of the request its handler has issued. -/
structure Task where
  request : Option Reply
  /-- The handler has returned or was dropped, and its permit with it. -/
  ended : Bool
  deriving DecidableEq

inductive ServePhase
  /-- Before `if *shutdown.borrow()`. -/
  | head
  | selecting
  /-- In `while tasks.join_next().await.is_some()`, with the result of the loop. -/
  | draining (result : Except IoError Unit)
  | returned (result : Except IoError Unit)
  deriving DecidableEq

structure Serve (B : Backend) where
  stack : Stack B
  permits : ℕ
  tasks : List Task
  shutdown : Watch Bool
  phase : ServePhase

inductive ServeAct (B : Backend)
  | head
  | changed
  /-- `tasks.join_next()` returns this task, in the loop or after it. -/
  | join (task : ℕ)
  | accept (accepted : Except IoError Unit)
  | joined
  | request (task : ℕ) (target : Target) (port : ℕ) (reply : Reply)
  | finish (task : ℕ)
  | send
  /-- `shutdown_tx` is dropped. -/
  | hangup
  /-- The worker acts, or the other threads and the handlers' streams do. -/
  | stack (action : StackAct B)

variable {B : Backend}

namespace Serve

/-- The arm of an accepted connection: a task with a permit, or nothing. -/
def takeConnection (s : Serve B) : Serve B :=
  if 0 < s.permits then
    { s with permits := s.permits - 1, tasks := s.tasks ++ [⟨none, false⟩], phase := .head }
  else { s with phase := .head }

def finish (s : Serve B) (i : ℕ) : Option (Serve B) :=
  match s.tasks[i]? with
  | some ⟨request, false⟩ =>
    some { s with permits := s.permits + 1, tasks := s.tasks.set i ⟨request, true⟩ }
  | _ => none

def join (s : Serve B) (i : ℕ) : Option (Serve B) :=
  match s.tasks[i]?, s.phase with
  | some ⟨_, true⟩, .selecting => some { s with tasks := s.tasks.eraseIdx i, phase := .head }
  | some ⟨_, true⟩, .draining _ => some { s with tasks := s.tasks.eraseIdx i }
  | _, _ => none

def act (s : Serve B) : ServeAct B → Option (Serve B)
  | .head =>
    if s.phase = .head then
      some { s with phase := if s.shutdown.borrow then .draining (.ok ()) else .selecting }
    else none
  | .changed =>
    if s.phase = .selecting then
      s.shutdown.changed.map fun shutdown =>
        { s with shutdown := shutdown, phase := .draining (.ok ()) }
    else none
  | .join task => s.join task
  | .accept accepted =>
    if s.phase = .selecting then
      match accepted with
      | .ok () => some s.takeConnection
      | .error error => some { s with phase := .draining (.error error) }
    else none
  | .joined =>
    match s.phase with
    | .draining result =>
        if s.tasks.isEmpty then some { s with phase := .returned result } else none
    | _ => none
  | .request task target port reply =>
    if s.tasks[task]? = some ⟨none, false⟩ then
      (s.stack.act (.send (.connect target port reply))).map fun stack =>
        { s with stack := stack, tasks := s.tasks.set task ⟨some reply, false⟩ }
    else none
  | .finish task => s.finish task
  | .send => some { s with shutdown := s.shutdown.send true }
  | .hangup => some { s with shutdown := s.shutdown.hangup }
  | .stack action =>
    if isRequest action then none
    else (s.stack.act action).map fun stack => { s with stack := stack }

end Serve

/-- `serve` from its call on, as `main` calls it. -/
def serveSystem (B : Backend) : System (Serve B) (ServeAct B) :=
  .ofFun (fun s => ∃ config world, config.maxConnections ≤ 4096 ∧
    s = ⟨⟨Worker.spawn config world, []⟩, config.maxConnections, [], .channel false, .head⟩)
    Serve.act

end Socks

end Ovpnlane
