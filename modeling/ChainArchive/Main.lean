import ChainArchive.Application
import ChainArchive.Http.Wire
import Std.Async.DNS
import Std.Async.Signal
import Std.Async.TCP
import Std.Async.Timer
import Std.Time

open Std.Async

namespace ChainArchive

/-! The command. It supplies the world of an extraction: files, a connection for each
request, the clock, the signals that ask for a stop, and lines on the standard output. -/

structure Station where
  style : Log.Style
  /-- In milliseconds. -/
  timeout : Std.Time.Millisecond.Offset
  calls : IO.Ref Nat
  stopped : IO.Ref Bool
  archive : IO.Ref (Option IO.FS.Handle)

namespace Station

def start (options : Options) (style : Log.Style) : IO Station := do
  return ⟨style, .ofNat (options.timeout * 1000), ← IO.mkRef 0, ← IO.mkRef false,
    ← IO.mkRef none⟩

/-! The log. -/

def timeText : IO String := do
  let now := Std.Time.DateTime.ofTimestamp (← Std.Time.Timestamp.now) .UTC
  return now.format "uuuu-MM-dd'T'HH:mm:ss.SSSSSS'Z'"

def log (station : Station) (event : Event) : IO Unit := do
  match station.style.line? (← timeText) event with
  | none => return ()
  | some line =>
      let out ← IO.getStdout
      out.write ⟨(line ++ [byte '\n']).toArray⟩
      out.flush

def stop (station : Station) : IO Unit := do
  if !(← station.stopped.modifyGet fun stopped => (stopped, true)) then
    station.log .stopRequested

def watch (station : Station) (signal : Signal) : IO Unit := do
  let waiter ← Signal.Waiter.mk signal false
  discard (IO.mapTask (fun _ => station.stop) (← waiter.wait))

/-! Files. -/

/-- The system's number of an error, which some operations give negated. -/
def plainCode (code : UInt32) : Nat :=
  if code < 0x80000000 then code.toNat else (0 - code).toNat

def codeOf : IO.Error → Nat
  | .alreadyExists _ code _ | .otherError code _ | .resourceBusy code _
  | .resourceVanished code _ | .unsupportedOperation code _ | .hardwareFault code _
  | .unsatisfiedConstraints code _ | .illegalOperation code _ | .protocolError code _
  | .timeExpired code _ | .interrupted _ code _ | .noFileOrDirectory _ code _
  | .invalidArgument _ code _ | .permissionDenied _ code _ | .resourceExhausted _ code _
  | .inappropriateType _ code _ | .noSuchThing _ code _ => plainCode code
  | .unexpectedEof | .userError _ => 0

def attempt (action : IO α) : IO (Except SystemFault α) := do
  try return .ok (← action)
  catch error => return .error (.ofCode (codeOf error) (toString error))

def create (station : Station) (path : String) : IO (Except Trouble Writer) := do
  match ← attempt (IO.FS.Handle.mk path .write) with
  | .error fault => return .error (Writer.fileTrouble .create path (.system fault))
  | .ok handle =>
      station.archive.set (some handle)
      return .ok ⟨path, [], 0, 0⟩

def append (station : Station) (writer : Writer) (tx : Transaction) :
    IO (Except Trouble Writer) := do
  let line := Archive.record tx
  let written ← attempt do
    if let some handle ← station.archive.get then
      handle.write ⟨line.toArray⟩
      handle.flush
  match written with
  | .ok () => return .ok (writer.advance line)
  | .error fault => return .error (Writer.fileTrouble .append writer.path (.system fault))

/-- The working directory is only ever missing because it was removed. -/
def directory : IO (Except SystemFault String) := do
  try return .ok (toString (← IO.currentDir))
  catch _ => return .error .notFound

/-! Connections. Those that cannot be made count as refused, those that break or stay
silent too long as closed. -/

def port (url : Url) : Nat := (url.port <|> Url.defaultPort? url.scheme).getD 80

def hostName (host : Host) : String :=
  match host with
  | .ipv6 pieces => Host.ipv6Text pieces
  | host => host.render

def hostAndPort (url : Url) : String :=
  ((url.host.map Host.render).getD "") ++
    (url.port.map fun port => ":" ++ toString port).getD ""

def connect (station : Station) (url : Url) : IO (Option TCP.Socket.Client) := do
  let port := port url
  let name := (url.host.map hostName).getD ""
  let addresses ← (DNS.getAddrInfo name (toString port)).block
  let some address := addresses[0]? | return none
  let goal : Std.Net.SocketAddress := match address with
    | .v4 address => .v4 ⟨address, port.toUInt16⟩
    | .v6 address => .v6 ⟨address, port.toUInt16⟩
  let socket ← TCP.Socket.Client.mk
  let connected ← (Async.race
    (do socket.connect goal; return true)
    (do sleep station.timeout; return false)).block
  return if connected then some socket else none

def receive (station : Station) (socket : TCP.Socket.Client) : IO Bytes := do
  let mut received := ByteArray.empty
  repeat
    let piece : Option ByteArray ← (do
      let late ← Selector.sleep station.timeout
      Selectable.one #[
        .case (socket.recvSelector 65536) fun piece => return piece,
        .case late fun _ => return none]).block
    match piece with
    | some piece => received := received ++ piece
    | none => break
  return received.data.toList

def exchange (station : Station) (url : Url) (request : Http.Request) :
    IO Http.Outcome := do
  if url.scheme != "http" then return .refused
  let connected ← attempt (station.connect url)
  match connected with
  | .error _ | .ok none => return .refused
  | .ok (some socket) =>
      let received ← attempt do
        (socket.send ⟨(request.encode (hostAndPort url)).toArray⟩).block
        station.receive socket
      match received with
      | .error _ => return .closed
      | .ok bytes => return .read bytes

/-- A call is announced before its request is sent, and the rest is logged after it. -/
def call (station : Station) (client : Rpc.Client) (call : Rpc.Call α) :
    IO (Except Trouble α) := do
  let id ← station.calls.modifyGet fun calls => (calls + 1, calls + 1)
  station.log (client.announcement call id)
  let exchange : Except Layer Http.Exchange ←
    match client.barrier? with
    | none => do
        let outcome ← station.exchange client.url (client.request call id)
        pure (.ok ⟨outcome, false, 0⟩)
    | some barrier => pure (.error barrier)
  let reply := client.reply call id false exchange
  (reply.events.drop 1).forM station.log
  return reply.result

def world (station : Station) (client : Rpc.Client) : World IO where
  height := station.call client .height
  block number := station.call client (.block number)
  transaction hash := station.call client (.transaction hash)
  stopped := station.stopped.get
  now := IO.monoNanosNow
  log := station.log
  remove path := attempt (IO.FS.removeFile path)
  create := station.create
  append := station.append

end Station

end ChainArchive

open ChainArchive in
def main (arguments : List String) : IO UInt32 := do
  let environment : Application.Environment :=
    ⟨← IO.getEnv "CHAINLOG_RPC_URL", ← IO.getEnv "RUST_LOG"⟩
  match Application.plan arguments environment with
  | .say text =>
      IO.print text
      return Application.successCode
  | .refuse refusal =>
      IO.eprint refusal.text
      return Application.usageCode
  | .extract options style complaints =>
      complaints.forM fun complaint => IO.eprintln complaint
      let directory ← Station.directory
      let station ← Station.start options style
      station.watch .sigint
      station.watch .sigterm
      match ← (Application.run options directory station.world).run with
      | .ok _ => return Application.successCode
      | .error trouble =>
          IO.eprint (Application.lastWords trouble)
          return Application.failureCode
