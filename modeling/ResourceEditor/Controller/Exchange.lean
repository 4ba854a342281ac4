import ResourceEditor.Controller.Error
import ResourceEditor.Controller.Url
import ResourceEditor.Json.Reader
/-
This file holds requests to the controller, what the status numbers of its answers mean, and what is
made of the answers.
-/

namespace ResourceEditor.Status

def isSuccess (status : Nat) : Bool := 200 ≤ status && status < 300

/-- An answer of these kinds has no body, whatever follows it. -/
def hasNoBody (status : Nat) : Bool := status == 204 || status == 304

/-- The registered reason of a status. -/
def reasons : List (Nat × String) :=
  [(100, "Continue"), (101, "Switching Protocols"), (102, "Processing"), (103, "Early Hints"),
    (200, "OK"), (201, "Created"), (202, "Accepted"), (203, "Non Authoritative Information"),
    (204, "No Content"), (205, "Reset Content"), (206, "Partial Content"), (207, "Multi-Status"),
    (208, "Already Reported"), (226, "IM Used"), (300, "Multiple Choices"),
    (301, "Moved Permanently"), (302, "Found"), (303, "See Other"), (304, "Not Modified"),
    (305, "Use Proxy"), (307, "Temporary Redirect"), (308, "Permanent Redirect"),
    (400, "Bad Request"), (401, "Unauthorized"), (402, "Payment Required"), (403, "Forbidden"),
    (404, "Not Found"), (405, "Method Not Allowed"), (406, "Not Acceptable"),
    (407, "Proxy Authentication Required"), (408, "Request Timeout"), (409, "Conflict"),
    (410, "Gone"), (411, "Length Required"), (412, "Precondition Failed"),
    (413, "Payload Too Large"), (414, "URI Too Long"), (415, "Unsupported Media Type"),
    (416, "Range Not Satisfiable"), (417, "Expectation Failed"), (418, "I'm a teapot"),
    (421, "Misdirected Request"), (422, "Unprocessable Entity"), (423, "Locked"),
    (424, "Failed Dependency"), (425, "Too Early"), (426, "Upgrade Required"),
    (428, "Precondition Required"), (429, "Too Many Requests"),
    (431, "Request Header Fields Too Large"), (451, "Unavailable For Legal Reasons"),
    (500, "Internal Server Error"), (501, "Not Implemented"), (502, "Bad Gateway"),
    (503, "Service Unavailable"), (504, "Gateway Timeout"), (505, "HTTP Version Not Supported"),
    (506, "Variant Also Negotiates"), (507, "Insufficient Storage"), (508, "Loop Detected"),
    (510, "Not Extended"), (511, "Network Authentication Required")]

/-- The status with its reason. -/
def describe (status : Nat) : String :=
  toString status ++ " " ++ (reasons.lookup status).getD "<unknown status code>"

end ResourceEditor.Status

namespace ResourceEditor

inductive Method where
  | get
  | post
  | patch
deriving Repr, DecidableEq

def Method.name : Method → String
  | .get => "GET"
  | .post => "POST"
  | .patch => "PATCH"

structure Request where
  method : Method
  url : Url
  authorization : Option String
  body : Option Json

/-- What comes back for a request, if anything does. -/
inductive Reply where
  | answered (status : Nat) (body : String)
  | dropped
  | refused
deriving Repr, DecidableEq

/-- A way to the controller: it takes a request and gives what comes back. -/
abbrev Carrier (m : Type → Type) := Request → m Reply

namespace Reply

/-- The body as text: some answers have none, and a mark of the byte order is no part of it. -/
def textOf (status : Nat) (body : String) : String :=
  if Status.hasNoBody status then ""
  else
    match body.toList with
    | '\uFEFF' :: rest => String.ofList rest
    | _ => body

/-- The document that a request is answered with. A blank body stands for null. -/
def decode : Reply → Except RequestError Json
  | .dropped => .error (.transport .dropped)
  | .refused => .error (.transport .refused)
  | .answered status body =>
      let text := textOf status body
      if status == 401 then
        .error (.authentication
          (if Text.isBlankText text then "session expired or invalid token" else Text.trim text))
      else if !Status.isSuccess status then .error (.rejected status (Text.trim text))
      else if Text.isBlankText text then .ok .null
      else
        match Json.parse? text with
        | some json => .ok json
        | none => .error (.unreadable "malformed document" text)

end Reply

end ResourceEditor
