import ResourceEditor.Command.Grammar
import ResourceEditor.Command.Run
import ResourceEditor.Controller.Message
import Std.Async.DNS
import Std.Async.System
import Std.Async.TCP
/-
This file runs the editor for the arguments of a process. Controllers are reached without
encryption, and there is no keyring.
-/

namespace ResourceEditor.Main

open Std.Async

/-- What a failed look at a file means. -/
def faultOf : IO.Error → FileFault
  | .noFileOrDirectory _ _ _ => .missing
  | .inappropriateType _ 20 _ => .notDirectory
  | .inappropriateType _ 21 _ => .directory
  | error => .unreadable error.toString

def contentOf (path : String) : IO (Except FileFault String) := do
  try return .ok (← IO.FS.readFile path)
  catch error => return .error (faultOf error)

/-- Everything that comes over a connection until it is closed. -/
partial def receiveAll (socket : TCP.Socket.Client) (received : ByteArray) : Async ByteArray := do
  match ← socket.recv? 65536 with
  | some bytes => receiveAll socket (received ++ bytes)
  | none => return received

def socketAddress (port : UInt16) : Std.Net.IPAddr → Std.Net.SocketAddress
  | .v4 address => .v4 ⟨address, port⟩
  | .v6 address => .v6 ⟨address, port⟩

/-- Connects to the first address of a host that takes the connection. -/
def connectTo (host : String) (port : Nat) : IO (Option TCP.Socket.Client) := do
  let addresses ← try (DNS.getAddrInfo host (toString port)).block catch _ => pure #[]
  for address in addresses do
    try
      let socket ← TCP.Socket.Client.mk
      (socket.connect (socketAddress port.toUInt16 address)).block
      return some socket
    catch _ => continue
  return none

/-- Takes a request to the controller. -/
def carry : Carrier IO := fun request => do
  match request.url.scheme, request.url.authority with
  | "http", some authority =>
      let host := authority.host.toList.filter fun c => c != '[' && c != ']'
      match ← connectTo (String.ofList host) (authority.port.getD 80) with
      | none => return .refused
      | some socket =>
          try
            (socket.send (Message.ofRequest request).toUTF8).block
            let bytes ← (receiveAll socket ByteArray.empty).block
            return (Message.readReply bytes.toList).getD .dropped
          catch _ => return .dropped
  | _, _ => return .refused

/-- The directory for the settings of a user. -/
def settingsDirectory (environment : Environment) : String :=
  match (environment.get? "XDG_CONFIG_HOME").filter (·.startsWith "/") with
  | some directory => directory
  | none => (environment.get? "HOME").getD "." ++ "/.config"

def environment : IO Environment := do
  return (← Std.Internal.UV.System.osEnviron).toList

def report (error : CommandError) : IO Unit := do
  IO.eprintln ("Error: " ++ error.message)
  match error.help? with
  | some help => IO.eprintln help
  | none => return

/-- Runs a command and keeps what it changed. -/
def run (environment : Environment) (invocation : Invocation) : IO UInt32 := do
  let directory := settingsDirectory environment ++ "/edgeform"
  let configPath := directory ++ "/config.toml"
  let document := (← contentOf configPath).toOption
  let setting : Setting IO :=
    { options := invocation.options, environment, configPath, contentOf, carrier := carry }
  let outcome ← invocation.command.run setting { document }
  if outcome.progress.document != document then
    IO.FS.createDirAll directory
    IO.FS.writeFile configPath (outcome.progress.document.getD "")
  IO.print outcome.progress.output
  IO.eprint outcome.progress.messages
  match outcome.result with
  | .ok () => pure ()
  | .error error => report error
  return outcome.exitCode.toUInt32

end ResourceEditor.Main

def main (arguments : List String) : IO UInt32 := do
  let environment ← ResourceEditor.Main.environment
  match ResourceEditor.Invocation.read environment arguments with
  | .ok invocation => ResourceEditor.Main.run environment invocation
  | .error error =>
      if error.exitCode == 0 then IO.println error.message else IO.eprintln error.message
      return error.exitCode.toUInt32
