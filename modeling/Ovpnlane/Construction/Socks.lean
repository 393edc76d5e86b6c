import Ovpnlane.Construction.Netstack.Worker
import Ovpnlane.Framework.Dialogue

/-!
# The SOCKS server

`src/socks.rs`.  `handshake` and `handle` are dialogues with one client (`Framework/Dialogue.lean`);
`handshake` is split where the source turns from the greeting to the request, and at the address,
which has three forms.  `handle` ends with the connection whose stream `copy_bidirectional` joins
to the client's, so the bytes then unread are the first that are forwarded.  `Tunnel::connect` is
a parameter of `handle`.

`serve` is a transition system, `proxySystem`: each live handler holds one of `limit` permits, and
the requests of the handlers are the only ones the worker below receives.
-/

namespace Ovpnlane

namespace Socks

open Dialogue

/-! ## Reading and writing -/

/-- The error of `read_u8` and `read_u16` at the end of the stream. -/
def unexpectedEof : IoError := ⟨.unexpectedEof, "unexpected end of file"⟩

/-- The error of `read_exact` at the end of the stream. -/
def earlyEof : IoError := ⟨.unexpectedEof, "early eof"⟩

/-- The error of a write to a client that is gone. -/
def brokenPipe : IoError := ⟨.brokenPipe, "broken pipe"⟩

def invalid (message : String) : IoError := ⟨.invalidData, message⟩

def readU8 : Dialogue IoError UInt8 := do
  let bytes ← readExact unexpectedEof 1
  return bytes.1.headD 0

/-- `read_u16`, most significant byte first. -/
def readU16 : Dialogue IoError ℕ := do
  let bytes ← readExact unexpectedEof 2
  return (bytes.1.getD 0 0).toNat * 256 + (bytes.1.getD 1 0).toNat

def toBeBytes (n : ℕ) : List UInt8 := [UInt8.ofNat (n / 256), UInt8.ofNat n]

/-- The address in the bytes `reply` sends, after its form. -/
def addressField : IpAddr → List UInt8
  | .v4 ip => 1 :: ip.octets
  | .v6 ip => 4 :: ip.octets

/-- The bytes `reply` sends. -/
def response (code : UInt8) (bound : Option SocketAddr) : List UInt8 :=
  let bound := bound.getD ⟨.v4 .unspecified, 0⟩
  [5, code, 0] ++ addressField bound.ip ++ toBeBytes bound.port

def reply (code : UInt8) (bound : Option SocketAddr) : Dialogue IoError Unit :=
  writeAll brokenPipe (response code bound)

def reject {α : Type} (code : UInt8) (error : IoError) : Dialogue IoError α := do
  reply code none
  fail error

/-! ## The handshake -/

/-- `handshake` up to the choice of a method. -/
def greet : Dialogue IoError Unit := do
  let version ← readU8
  let count ← readU8
  if version != 5 || count == 0 then fail (invalid "invalid SOCKS greeting")
  else do
    let methods ← readExact earlyEof count.toNat
    if !methods.1.contains 0 then do
      writeAll brokenPipe [5, 255]
      fail ⟨.permissionDenied, "SOCKS requires no-auth method"⟩
    else writeAll brokenPipe [5, 0]

def isHostByte (b : UInt8) : Bool :=
  (48 ≤ b && b ≤ 57) || (65 ≤ b && b ≤ 90) || (97 ≤ b && b ≤ 122) || [45, 46, 95].contains b

/-- The address of the request, of the form its fourth byte names. -/
def readTarget (kind : UInt8) : Dialogue IoError Target :=
  if kind = 1 then do
    let octets ← readExact earlyEof 4
    return .ip (.v4 ⟨octets.1, octets.2⟩)
  else if kind = 4 then do
    let octets ← readExact earlyEof 16
    return .ip (.v6 ⟨octets.1, octets.2⟩)
  else if kind = 3 then do
    let length ← readU8
    let name ← readExact earlyEof length.toNat
    if name.1.isEmpty || !name.1.all isHostByte then reject 4 (invalid "invalid SOCKS hostname")
    else
      match String.fromUTF8? name.1.toByteArray with
      | some name => return .domain name
      | none => fail (invalid "invalid hostname")
  else reject 8 (invalid "unsupported address type")

/-- `handshake` from the request on. -/
def readRequest : Dialogue IoError (Target × ℕ) := do
  let request ← readExact earlyEof 4
  if request.1.getD 0 0 != 5 || request.1.getD 2 0 != 0 then
    reject 1 (invalid "invalid SOCKS request")
  else if request.1.getD 1 0 != 1 then reject 7 (invalid "only SOCKS CONNECT is supported")
  else do
    let target ← readTarget (request.1.getD 3 0)
    let port ← readU16
    if port = 0 then reject 1 (invalid "destination port is zero")
    else return (target, port)

def handshake : Dialogue IoError (Target × ℕ) := do
  greet
  readRequest

/-! ## One client -/

/-- The reply code of a failed `Tunnel::connect`. -/
def replyCode : ErrorKind → UInt8
  | .networkUnreachable | .notConnected => 3
  | .notFound | .hostUnreachable | .timedOut => 4
  | .connectionRefused => 5
  | _ => 1

/-- `handle`, up to `copy_bidirectional`. -/
def handle {Stream : Type} (connect : Target → ℕ → Except IoError (Connected Stream)) :
    Dialogue IoError (Connected Stream) := do
  let (target, port) ← timeout ⟨.timedOut, "SOCKS handshake timeout"⟩ handshake
  match connect target port with
  | .error error => reject (replyCode error.kind) error
  | .ok connection => do
    reply 0 (some connection.localAddr)
    return connection

/-! ## The server -/

/-- The state of `serve` with the worker below it: the free permits of the semaphore, and the live
handlers, each with the reply of the request it has issued. -/
structure Proxy (B : Backend) where
  stack : Stack B
  permits : ℕ
  handlers : List (Option Reply)

/-- Whether an action of the stack is a request. -/
def isRequest {B : Backend} : StackAct B → Bool
  | .send command => command.reply.isSome
  | _ => false

inductive ProxyAct (B : Backend)
  /-- `listener.accept()` and `try_acquire_owned()`: a handler, or no free permit. -/
  | accept
  | request (handler : ℕ) (target : Target) (port : ℕ) (reply : Reply)
  | finish (handler : ℕ)
  /-- The worker acts, or the other threads and the handlers' streams do. -/
  | stack (action : StackAct B)

variable {B : Backend}

/-- One action; requests come from handlers only. -/
def Proxy.act (p : Proxy B) : ProxyAct B → Option (Proxy B)
  | .accept =>
    if 0 < p.permits then
      some { p with permits := p.permits - 1, handlers := p.handlers ++ [none] }
    else some p
  | .request handler target port reply =>
    if p.handlers[handler]? = some none then
      (p.stack.act (.send (.connect target port reply))).map fun stack =>
        { p with stack := stack, handlers := p.handlers.set handler (some reply) }
    else none
  | .finish handler =>
    if handler < p.handlers.length then
      some { p with permits := p.permits + 1, handlers := p.handlers.eraseIdx handler }
    else none
  | .stack action =>
    if isRequest action then none
    else (p.stack.act action).map fun stack => { p with stack := stack }

/-- A proxy from its start on: `main` gives the worker and `serve` the same limit. -/
def proxySystem (B : Backend) : System (Proxy B) (ProxyAct B) :=
  .ofFun (fun p => ∃ config world, config.maxConnections ≤ 4096 ∧
    p = ⟨⟨Worker.spawn config world, []⟩, config.maxConnections, []⟩) Proxy.act

end Socks

end Ovpnlane
