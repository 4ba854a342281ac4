/-
This file writes the lines that tell how a command went.
-/

namespace ResourceEditor

/-- A sign and the message; the sign is green or red when colors are wanted. -/
def statusLine (succeeded : Bool) (message : String) (color : Bool) : String :=
  let sign := if succeeded then "✓" else "✗"
  let painted :=
    if color then (if succeeded then "\x1b[32m" else "\x1b[31m") ++ sign ++ "\x1b[39m" else sign
  painted ++ " " ++ message

end ResourceEditor
