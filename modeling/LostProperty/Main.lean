import LostProperty.Http.Message
import LostProperty.Log.Line
import LostProperty.Program
import Std.Async.DNS
import Std.Async.TCP
import Std.Async.Timer

/-
  The command line program.

  It reads the environment and a file of variables, runs
  once over the network and writes down what was told: lines
  for the reader to the output, alerts and the log to the
  errors. The network is spoken to without encryption; a
  host that asks for a secure connection is not reached.

  Key definitions include:
    * `Transport.network`
    * `Desk.write`
    * `main`
-/

------------------------------------------------------------
-- The Network
------------------------------------------------------------

namespace LostProperty

namespace Transport

open Std.Async
open Std.Net

/- The greatest number of octets that are read at once. -/
def readSize : UInt64 :=
  65536

/- Read octets until the connection ends. -/
partial def receive
    (client : TCP.Socket.Client)
    (read : List UInt8) : Async (List UInt8) := do
  match ← client.recv? readSize with
  | some octets => receive client (read ++ octets.toList)
  | none => pure read

/- The host and the port of a request. -/
def hostAndPort?
    (request : Request) : Option (String × Nat) := do
  let a ← request.url.authority
  let port ← a.port <|> defaultPort? request.url.scheme
  let host :=
    match a.host with
    | .address6 pieces => address6Text pieces
    | host => host.text
  some (String.ofList host, port)

/- The address of a connection. -/
def socketAddress
    (address : IPAddr)
    (port : Nat) : SocketAddress :=
  match address with
  | .v4 address => .v4 ⟨address, port.toUInt16⟩
  | .v6 address => .v6 ⟨address, port.toUInt16⟩

/- Connect to the first address that answers. -/
def connect : (port : Nat) → List IPAddr →
    Async (Except SendFault TCP.Socket.Client)
  | _, [] => pure (.error .unreachable)
  | port, address :: rest => do
      try
        let client ← TCP.Socket.Client.mk
        client.connect (socketAddress address port)
        pure (.ok client)
      catch _ =>
        match rest with
        | [] => pure (.error .refused)
        | rest => connect port rest

/- Send a request and read its reply. -/
def exchange
    (request : Request) : Async (Except SendFault Reply) := do
  match hostAndPort? request with
  | none => pure (.error .unreachable)
  | some (host, port) =>
      let addresses ←
        try DNS.getAddrInfo host (toString port)
        catch _ => pure #[]
      match ← connect port addresses.toList with
      | .error fault => pure (.error fault)
      | .ok client =>
          let octets ←
            try
              client.send ⟨request.octets.toArray⟩
              receive client []
            catch _ => pure []
          match Reply.ofOctets? octets with
          | some reply => pure (.ok reply)
          | none => pure (.error .closed)

/- The wire from this computer, without secure connections. -/
def wire : Wire Async where
  exchange request :=
    if request.url.schemeName = "http" then
      exchange request
    else
      pure (.error .unreachable)

/- The greatest number of seconds that a timer is set to. -/
def greatestTimer : Nat :=
  86400

/- The answer to a request, given up when its time has passed. -/
def timedAnswer
    (request : Request) : Async (Except HttpFault Response) :=
  let answer := (Network.following wire).answer request
  match request.timeout with
  | none => answer
  | some seconds =>
      let url := request.url
      let alarm := do
        sleep (.ofNat (min seconds greatestTimer * 1000))
        pure (.error (.unsent .timedOut url url.address))
      Async.race answer alarm

/- The network of this computer. -/
def network : Network IO where
  answer request := (timedAnswer request).block

end Transport

end LostProperty

------------------------------------------------------------
-- Surroundings
------------------------------------------------------------

namespace LostProperty

namespace Desk

/- The present instant. -/
def now : IO Instant := do
  let t ← Std.Time.Timestamp.now
  let n := t.toNanosecondsSinceUnixEpoch.val
  pure ⟨Int.fdiv n 1000000000, (Int.fmod n 1000000000).toNat⟩

/- A random identifier, marked as one of version four. -/
def newRunId : IO RunId := do
  let octets ← IO.getRandomBytes 16
  let marked :=
    (octets.set! 6 (octets.get! 6 &&& 0x0F ||| 0x40)).set! 8
      (octets.get! 8 &&& 0x3F ||| 0x80)
  pure ⟨marked.toList.foldl (fun n o => n * 256 + o.toNat) 0⟩

/-
  The file of variables here or in the next directory above
  that has one.
-/
def envFile : (heights : Nat) → (path : String) →
    IO (Option String)
  | 0, _ => pure none
  | heights + 1, path => do
      try
        let octets ← IO.FS.readBinFile (path ++ ".env")
        let cs := EnvFile.readableText [] octets.toList
        pure (some (String.ofList cs))
      catch
        | .noFileOrDirectory .. | .inappropriateType .. =>
            envFile heights (path ++ "../")
        | _ => pure none

/- The names that a file of variables may ask for. -/
def namesIn
    (text : String) : List String :=
  (text.splitToList fun c => !EnvFile.continuesName c).eraseDups

/- The values of variables that are set. -/
def environment
    (names : List String) : IO Environment := do
  let entries ← names.mapM fun name => do
    let value ← IO.getEnv name
    pure (value.map fun value => (name, value))
  pure (entries.filterMap id)

/- All that the program finds when it is started. -/
def surroundings : IO Surroundings := do
  let here := toString (← IO.currentDir)
  let heights := (here.splitToList (· == '/')).length
  let file ← envFile heights ""
  let names :=
    ["API_BASE_URL", "API_TIMEOUT_SECS", "RUST_LOG"]
      ++ namesIn (file.getD "")
  pure
    { environment := ← environment names
      envFile := file
      runId := ← newRunId
      startedAt := ← now }

end Desk

end LostProperty

------------------------------------------------------------
-- Writing
------------------------------------------------------------

namespace LostProperty

namespace Desk

/- Write one thing that was told. -/
def write
    (filter : LogFilter)
    (entry : Entry) : IO Unit := do
  match entry with
  | .print text => IO.print text
  | .alert text => IO.eprint text
  | .event e =>
      if filter.shows e then
        IO.eprint ((← now).text ++ " " ++ e.line filter)

end Desk

end LostProperty

/- Run once; the exit code tells how the run ended. -/
def main : IO UInt32 := do
  let s ← LostProperty.Desk.surroundings
  let conclusion ←
    LostProperty.Program.run LostProperty.Transport.network
      LostProperty.Desk.now s
  let filter := LostProperty.Program.logFilter s.environment
  conclusion.journal.forM (LostProperty.Desk.write filter)
  pure conclusion.outcome.code.toUInt32
