import Ovpnlane.Construction.Main
import Ovpnlane.Construction.Serve

/-!
# The connected process

`main` (`src/main.rs`) with all that it starts and has to stop: `serve` and its tasks, the blocking
call of `connect`, the save task, and the worker, which `drop(worker)` tells to shut down and joins.
Each of them is the model it has in its own module; `Process.act` says on which steps they wait for
one another.

`main` takes an arm of its `select!` when the thing it names is ready, then sends `true` to `serve`,
calls `client.stop()`, waits for `serve` and the session, sees to the save task, and drops the
worker.  OpenVPN Core is not part of the source: a call of `connect` may return at any time.
-/

namespace Ovpnlane

open Socks

inductive Ending
  | running
  /-- `Shutdown` has been sent, and the thread is being joined. -/
  | joining
  | done
  deriving DecidableEq

structure Process (B : Backend) where
  main : Main
  serve : Serve B
  /-- `serve`, the save task and the session have been spawned. -/
  spawned : Bool
  session : Option (Except String String)
  stopped : Bool
  ending : Ending

inductive ProcessAct (B : Backend)
  /-- `main`, the save task or a callback. -/
  | main (action : MainAct)
  /-- `serve`, its tasks, the worker, or the callbacks that use the tunnel. -/
  | serve (action : ServeAct B)
  | connect (status : Except String String)
  | send
  | stop
  | dropWorker
  | joinWorker

variable {B : Backend}

namespace Process

/-- Whether `connect` is running, on whose thread the callbacks are. -/
def connecting (p : Process B) : Bool := p.spawned && p.session.isNone

/-- What `main`'s arm for the proxy makes of the result of `serve`. -/
def proxyResult (result : Except IoError Unit) : Except String Unit :=
  result.mapError IoError.message

/-- What a step of `main` waits for. -/
def allows (p : Process B) : MainAct → Bool
  | .event _ | .line _ => p.connecting
  | .session status => p.session = some status
  | .proxy result =>
    match p.serve.phase with
    | .returned result' => result = proxyResult result'
    | _ => false
  | .stopped =>
    match p.serve.phase with
    | .returned _ => p.stopped && p.session.isSome
    | _ => false
  | _ => true

/-- What the steps around `serve` wait for; the channel and `Shutdown` are `main`'s. -/
def permits (p : Process B) : ServeAct B → Bool
  | .send | .hangup | .stack (.send .shutdown) => false
  | .stack (.send (.online ..)) | .stack (.send (.offline _)) | .stack (.receive ..) => p.connecting
  | .stack _ => true
  | _ => p.spawned

/-- Whether `main` is between its `select!` and the end of both tasks. -/
def stopping (p : Process B) : Bool :=
  match p.main.phase with
  | .stopping _ => true
  | _ => false

def returned (p : Process B) : Bool :=
  match p.main.phase with
  | .returned _ => true
  | _ => false

def act (inputs : Inputs) (p : Process B) : ProcessAct B → Option (Process B)
  | .main action =>
    if p.allows action then
      (p.main.act inputs action).map fun main =>
        { p with main := main, spawned := p.spawned || action == .spawn }
    else none
  | .serve action =>
    if p.permits action then
      (p.serve.act action).map fun serve => { p with serve := serve }
    else none
  | .connect status => if p.connecting then some { p with session := some status } else none
  | .send =>
    if p.stopping && !p.serve.shutdown.borrow then
      (p.serve.act .send).map fun serve => { p with serve := serve }
    else none
  | .stop =>
    if p.stopping && p.serve.shutdown.borrow && !p.stopped then some { p with stopped := true }
    else none
  | .dropWorker =>
    if p.returned && p.ending == .running then
      (p.serve.act (.stack (.send .shutdown))).map fun serve =>
        { p with serve := serve, ending := .joining }
    else none
  | .joinWorker =>
    if p.ending == .joining && !p.serve.stack.worker.alive then some { p with ending := .done }
    else none

end Process

/-- The process from the start of the worker on. -/
def processSystem (B : Backend) (inputs : Inputs) : System (Process B) (ProcessAct B) :=
  .ofFun (fun p => ∃ config world, config.maxConnections ≤ 4096 ∧ p =
    ⟨.new, ⟨⟨Worker.spawn config world, []⟩, config.maxConnections, [], .channel false, .head⟩,
      false,
      none, false, .running⟩) (Process.act inputs)

end Ovpnlane
