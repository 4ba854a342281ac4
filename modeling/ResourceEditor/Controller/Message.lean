import ResourceEditor.Controller.Exchange
import ResourceEditor.Json.Writer
import ResourceEditor.Text.Encoding
/-
This file writes requests as messages of HTTP and reads replies from such messages. Every connection
carries one request, so a message ends where the connection does.
-/

namespace ResourceEditor

namespace Message

def lineEnd : String := "\r\n"

/-- The name of a host with its port, unless the port goes without saying. -/
def hostText (authority : Authority) : String :=
  authority.host ++ (authority.port.elim "" fun port => ":" ++ toString port)

def headers (request : Request) : List (String × String) :=
  [("host", (request.url.authority.map hostText).getD ""), ("accept", "*/*"),
      ("connection", "close")] ++
    request.authorization.toList.map (("authorization", ·)) ++
    (match request.body with
    | some body =>
        [("content-type", "application/json"),
          ("content-length", toString body.compact.utf8ByteSize)]
    | none => [])

/-- The text of a request. -/
def ofRequest (request : Request) : String :=
  let first := request.method.name ++ " " ++ request.url.target ++ " HTTP/1.1" ++ lineEnd
  let lines := (headers request).map fun (name, value) => name ++ ": " ++ value ++ lineEnd
  first ++ String.join lines ++ lineEnd ++ (request.body.elim "" Json.compact)

abbrev Bytes := List UInt8

def text (bytes : Bytes) : String := (String.fromUTF8? ⟨bytes.toArray⟩).getD ""

/-- The bytes before the first line end and those after it. -/
def splitLine : Bytes → Option (Bytes × Bytes)
  | 13 :: 10 :: rest => some ([], rest)
  | byte :: rest => (splitLine rest).map fun (before, after) => (byte :: before, after)
  | [] => none

/-- The lines before the first empty one, and what follows it. -/
def splitHead : Nat → Bytes → Option (List String × Bytes)
  | 0, _ => none
  | lines + 1, bytes => do
      let (line, rest) ← splitLine bytes
      if line.isEmpty then return ([], rest)
      else
        let (more, body) ← splitHead lines rest
        return (text line :: more, body)

/-- The status in the first line of a reply. -/
def readStatus (line : String) : Option Nat := do
  let (_, rest) ← Text.splitOnce ' ' line
  Decimal.readDigits (rest.toList.take 3)

def readHeader (line : String) : Option (String × String) :=
  (Text.splitOnce ':' line).map fun (name, value) =>
    (Text.asciiLower (Text.trim name), Text.trim value)

/-- Puts the parts of a body together, each of which comes after a line with its length. -/
def joinChunks : Nat → Bytes → Bytes
  | 0, _ => []
  | parts + 1, bytes =>
      match splitLine bytes with
      | none => []
      | some (line, rest) =>
          let digits := (text line).toList.takeWhile fun c => (Text.hexValue? c).isSome
          match Text.ofHex? digits with
          | none => []
          | some 0 => []
          | some length => rest.take length ++ joinChunks parts (rest.drop (length + 2))

/-- Reads the reply in all bytes that came back, if there is a whole one. -/
def readReply (bytes : Bytes) : Option Reply := do
  let (lines, rest) ← splitHead (bytes.length + 1) bytes
  match lines with
  | [] => none
  | first :: fields =>
      let status ← readStatus first
      let headers := fields.filterMap readHeader
      let isChunked := (headers.lookup "transfer-encoding").any (Text.asciiLower · == "chunked")
      let length := (headers.lookup "content-length").bind fun digits =>
        Decimal.readDigits digits.toList
      let body :=
        if isChunked then joinChunks rest.length rest else rest.take (length.getD rest.length)
      return .answered status (text body)

end Message

end ResourceEditor
