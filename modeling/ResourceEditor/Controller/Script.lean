import ResourceEditor.Controller.Exchange
/-
This file holds controllers whose replies are known beforehand.
-/

namespace ResourceEditor

/-- A controller at an address, with the replies that it has left and the requests that reached
it. -/
structure Script where
  server : Url
  replies : List Reply
  received : List Request := []

namespace Script

/-- Gives the next reply. A request that is refused does not reach the controller, nor does one to
somewhere else or one when no reply is left. -/
def carrier : Carrier (StateM Script) := fun request => do
  let script ← get
  if !script.server.sameOrigin request.url then return .refused
  else
    match script.replies with
    | [] => return .refused
    | .refused :: replies => do
        set { script with replies }
        return .refused
    | reply :: replies => do
        set { script with replies, received := script.received ++ [request] }
        return reply

end Script

end ResourceEditor
