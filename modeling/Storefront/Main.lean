import Std.Async.DNS
import Std.Async.TCP
import Storefront.Console.Run
import Storefront.Http.Message

/-!
# The storefront on a terminal

Commands come from standard input, and what the console shows goes to standard output. The backend is asked over
plain connections.
-/

namespace Storefront

open Storefront.Http

namespace Terminal

/-! ## Settings -/

/-- The variables that settings depend on. -/
def variableNames : List String :=
  ["NEXUS_SETTINGS_PATH", "NEXUS_BACKEND_URL", "NEXUS_DEBOUNCE_MS", "NEXUS_REQUEST_TIMEOUT",
    "XDG_CONFIG_HOME", "HOME"]

def environment : IO Environment := do
  let values ← variableNames.mapM fun name => do
    return (name, ← IO.getEnv name)
  return fun name => (values.lookup name).join

/-- What a path leads to, if it leads anywhere. -/
def node? (path : String) : IO (Option FileNode) := do
  try
    let bytes ← IO.FS.readBinFile path
    return some (.file bytes.toList)
  catch
    | .noFileOrDirectory .. => return none
    | .inappropriateType _ code _ => return if code == 21 then some .directory else none
    | .permissionDenied .. =>
      let found := (← IO.currentDir) / path
      if ← found.isDir then return some .lockedDirectory
      return if ← found.pathExists then some .lockedFile else none
    | e => throw e

/-- The files that settings can come from. -/
def files (env : Environment) : IO Files := do
  let paths := Settings.candidates env (Settings.userDirectory? env)
  let here := (← IO.currentDir).toString
  (paths.filter fun path => !path.isEmpty).foldlM (fun fs path => do
    match ← node? path with
    | some node => return fs.put path node
    | none => return fs) { workingDirectory := (Files.namesOf here).filter fun name => !name.isEmpty }

/-! ## Requests -/

def socketAddress (port : UInt16) : Std.Net.IPAddr → Std.Net.SocketAddress
  | .v4 address => .v4 ⟨address, port⟩
  | .v6 address => .v6 ⟨address, port⟩

/-- Connects to the first address of a host. -/
def connect (t : Target) : IO Std.Async.TCP.Socket.Client := do
  let host := String.ofList (t.host.toList.filter fun c => c ≠ '[' && c ≠ ']')
  let addresses ← (Std.Async.DNS.getAddrInfo host (Nat.repr t.port)).block
  let some address := addresses[0]? | throw (IO.userError "no address for the host")
  let socket ← Std.Async.TCP.Socket.Client.mk
  (socket.connect (socketAddress (UInt16.ofNat t.port) address)).block
  return socket

/-- Reads from a connection until there is a reply, or no more bytes. -/
partial def receive (socket : Std.Async.TCP.Socket.Client) (bytes : List UInt8) :
    IO (Except ExchangeFailure HttpReply) := do
  let more ← (socket.recv? 65536).block
  let bytes := bytes ++ (more.elim [] ByteArray.toList)
  match HttpReply.read bytes more.isNone with
  | .error f => return .error f
  | .ok (some reply) => return .ok reply
  | .ok none => receive socket bytes

/-- Sends a request and waits for the reply. -/
def exchange (r : HttpRequest) : IO (Except ExchangeFailure HttpReply) := do
  if r.target.secure then return .error (.connection "connections are not encrypted")
  try
    let socket ← connect r.target
    (socket.send ⟨r.bytes.toArray⟩).block
    receive socket []
  catch e => return .error (.connection (toString e))

/-! ## The console in real time -/

/-- A request on its way, and when it is given up. -/
structure Exchange where
  question : Console.Question
  deadline : Nat
  reply : Task (Except IO.Error (Except ExchangeFailure HttpReply))

end Terminal

/-- The console, the next line of the input, and the requests on their way. Times are in milliseconds. -/
structure Terminal where
  console : Console
  line : Task (Except IO.Error (Option String))
  exchanges : List Terminal.Exchange
  /-- How many requests have been sent. -/
  sent : Nat
  now : Nat

namespace Terminal

def display (lines : List String) : IO Unit := do
  let output ← IO.getStdout
  lines.forM output.putStrLn
  output.flush

/-- What an exchange has come to by now, if it is over. -/
def Exchange.result? (e : Exchange) (now : Nat) : BaseIO (Option (Except FetchError HttpReply)) := do
  let request := e.question.request
  if ← IO.hasFinished e.reply then
    match e.reply.get with
    | .ok result => return some (result.mapError request.failure)
    | .error error => return some (.error (request.failure (.connection (toString error))))
  else if e.deadline ≤ now then return some (.error (request.failure .timeout))
  else return none

/-- Lets the time that has passed reach the console. -/
def tick (t : Terminal) : IO Terminal := do
  let now ← IO.monoMsNow
  let (lines, console) := t.console.wait (now - t.now)
  display lines
  return { t with console, now }

/-- Sends the requests that have been made. -/
def send (t : Terminal) : IO Terminal := do
  let patience := t.console.backend.client.timeout.nanoseconds / 1000000
  let exchanges ← (t.console.questions.drop t.sent).mapM fun question => do
    let reply ← IO.asTask (exchange question.request) .dedicated
    return { question, deadline := t.now + patience, reply : Exchange }
  return { t with exchanges := t.exchanges ++ exchanges, sent := t.console.questions.length }

/-- Hands out the replies that have come. -/
def collect (t : Terminal) : IO Terminal := do
  t.exchanges.foldlM (fun t e => do
    match ← e.result? t.now with
    | none => return { t with exchanges := t.exchanges ++ [e] }
    | some result => do
      let (lines, console) := t.console.answer e.question result
      display lines
      return { t with console }) { t with exchanges := [] }

/-- The bytes of a line behind those that are read already. -/
partial def lineBytes (input : IO.FS.Stream) (bytes : List UInt8) : IO (List UInt8) := do
  match (← input.read 1).toList with
  | [] => return bytes
  | b :: _ => if b == 0x0A then return bytes ++ [b] else lineBytes input (bytes ++ [b])

/-- The next line of the input, or nothing at its end. -/
def nextLine : IO (Option String) := do
  match ← lineBytes (← IO.getStdin) [] with
  | [] => return none
  | bytes =>
    match Text.decodeStrict? bytes with
    | some text => return some (String.ofList text)
    | none => throw (IO.userError FileError.notText.message)

def readLine : IO (Task (Except IO.Error (Option String))) :=
  IO.asTask nextLine .dedicated

/-- Goes on until the input ends or a command ends the console. -/
partial def run (t : Terminal) : IO Unit := do
  let t ← t.tick
  let t ← t.collect
  let t ← t.send
  if ← IO.hasFinished t.line then
    let some line ← IO.ofExcept t.line.get | return
    let (lines, console) := t.console.obey line
    display lines
    if console.finished then return
    run { t with console, line := ← readLine }
  else
    IO.sleep 2
    run t

def startError : Console.StartError → String
  | .client e => e.message
  | .location e => e.message

def fail (text : String) : IO UInt32 := do
  IO.eprintln ("Error: " ++ text)
  return 1

def start : IO UInt32 := do
  let env ← environment
  match Settings.load (← files env) env (Settings.userDirectory? env) with
  | .error e => fail e.message
  | .ok settings =>
    match Console.start settings with
    | .error e => fail (startError e)
    | .ok (lines, console) =>
      display lines
      try
        run { console, line := ← readLine, exchanges := [], sent := 0, now := ← IO.monoMsNow }
        return 0
      catch e => fail (toString e)

end Terminal

end Storefront

def main : IO UInt32 :=
  Storefront.Terminal.start
