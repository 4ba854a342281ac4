import ResourceEditor.Json.Number
import ResourceEditor.Text.Encoding
/-
This file reads JSON texts. Two folds with a small state take a text apart: characters become
tokens, and tokens become a tree on a stack of unfinished arrays and objects. The tree has the text
as it is written, so that only what is read of it has to be a number or a text that can be held.
-/

namespace ResourceEditor.Json

/-- A character of a text as it is written: as itself or by its name, or as a unit of 16 bits. -/
inductive Letter where
  | char (c : Char)
  | unit (value : Nat)
deriving Repr, DecidableEq

/-- A document as it is written. -/
inductive Tree where
  | null
  | bool (value : Bool)
  | number (written : JsonNumber.Written)
  | text (letters : List Letter)
  | array (elements : List Tree)
  | object (members : List (List Letter × Tree))
deriving Repr, Inhabited

/-! Tokens. -/

inductive Token where
  | beginArray
  | endArray
  | beginObject
  | endObject
  | comma
  | colon
  | scalar (value : Tree)
deriving Repr

/-- Where the scanner stands; texts and words are held in reverse. -/
inductive Scan where
  | plain (word : List Char)
  | text (letters : List Letter)
  | escape (letters : List Letter)
  | hex (letters : List Letter) (missing value : Nat)

structure Scanner where
  tokens : List Token
  place : Scan

def isSpace (c : Char) : Bool := c == ' ' || c == '\n' || c == '\t' || c == '\r'

def isWordChar (c : Char) : Bool := c.isAlphanum || c == '+' || c == '-' || c == '.'

/-- A word outside of texts is a literal or a number. -/
def ofWord (word : List Char) : Option Tree :=
  match String.ofList word with
  | "null" => some .null
  | "true" => some (.bool true)
  | "false" => some (.bool false)
  | _ => (JsonNumber.Written.ofChars? word).map .number

/-- The tokens with the pending word, if there is one. -/
def Scanner.flush (tokens : List Token) (word : List Char) : Option (List Token) :=
  if word.isEmpty then some tokens
  else (ofWord word.reverse).map fun value => .scalar value :: tokens

def Token.ofMark (c : Char) : Option Token :=
  match c with
  | '[' => some .beginArray
  | ']' => some .endArray
  | '\x7b' => some .beginObject
  | '\x7d' => some .endObject
  | ',' => some .comma
  | ':' => some .colon
  | _ => none

/-- A character named by its escape letter. -/
def ofEscape (c : Char) : Option Char :=
  match c with
  | '"' => some '"'
  | '\\' => some '\\'
  | '/' => some '/'
  | 'b' => some '\x08'
  | 'f' => some '\x0c'
  | 'n' => some '\n'
  | 'r' => some '\r'
  | 't' => some '\t'
  | _ => none

def Scanner.step (scanner : Scanner) (c : Char) : Option Scanner :=
  let tokens := scanner.tokens
  match scanner.place with
  | .plain word =>
      if isWordChar c then some ⟨tokens, .plain (c :: word)⟩
      else
        (flush tokens word).bind fun tokens =>
          if isSpace c then some ⟨tokens, .plain []⟩
          else if c == '"' then some ⟨tokens, .text []⟩
          else (Token.ofMark c).map fun token => ⟨token :: tokens, .plain []⟩
  | .text letters =>
      if c == '"' then some ⟨.scalar (.text letters.reverse) :: tokens, .plain []⟩
      else if c == '\\' then some ⟨tokens, .escape letters⟩
      else if c.toNat < 0x20 then none
      else some ⟨tokens, .text (.char c :: letters)⟩
  | .escape letters =>
      if c == 'u' then some ⟨tokens, .hex letters 4 0⟩
      else (ofEscape c).map fun plain => ⟨tokens, .text (.char plain :: letters)⟩
  | .hex letters missing value =>
      (Text.hexValue? c).map fun digit =>
        let value := 16 * value + digit
        if 1 < missing then ⟨tokens, .hex letters (missing - 1) value⟩
        else ⟨tokens, .text (.unit value :: letters)⟩

def scan (text : List Char) : Option (List Token) := do
  let scanner ← text.foldlM Scanner.step ⟨[], .plain []⟩
  match scanner.place with
  | .plain word => (Scanner.flush scanner.tokens word).map List.reverse
  | _ => none

/-! Trees. -/

/-- An array or object whose end has not come yet, in reverse. -/
inductive Frame where
  | array (elements : List Tree)
  | object (members : List (List Letter × Tree)) (name : List Letter)

inductive Expectation where
  | value
  | elementOrEnd
  | nameOrEnd
  | name
  | colon (name : List Letter)
  | separator
  | finished (tree : Tree)

structure Builder where
  frames : List Frame
  expects : Expectation

/-- Puts a complete value where one was expected. -/
def Builder.put (frames : List Frame) (value : Tree) : Builder :=
  match frames with
  | [] => ⟨[], .finished value⟩
  | .array elements :: outer => ⟨.array (value :: elements) :: outer, .separator⟩
  | .object members name :: outer => ⟨.object ((name, value) :: members) name :: outer, .separator⟩

def Builder.beginValue (frames : List Frame) : Token → Option Builder
  | .beginArray => some ⟨.array [] :: frames, .elementOrEnd⟩
  | .beginObject => some ⟨.object [] [] :: frames, .nameOrEnd⟩
  | .scalar value => some (put frames value)
  | _ => none

def Builder.endFrame (frames : List Frame) (token : Token) : Option Builder :=
  match token, frames with
  | .endArray, .array elements :: outer => some (put outer (.array elements.reverse))
  | .endObject, .object members _ :: outer => some (put outer (.object members.reverse))
  | _, _ => none

def Builder.step (builder : Builder) (token : Token) : Option Builder :=
  let frames := builder.frames
  match builder.expects, token with
  | .value, token => beginValue frames token
  | .elementOrEnd, .endArray => endFrame frames .endArray
  | .elementOrEnd, token => beginValue frames token
  | .nameOrEnd, .endObject => endFrame frames .endObject
  | .nameOrEnd, .scalar (.text name) => some ⟨frames, .colon name⟩
  | .name, .scalar (.text name) => some ⟨frames, .colon name⟩
  | .colon name, .colon =>
      match frames with
      | .object members _ :: outer => some ⟨.object members name :: outer, .value⟩
      | _ => none
  | .separator, .comma =>
      match frames with
      | .array _ :: _ => some ⟨frames, .value⟩
      | .object _ _ :: _ => some ⟨frames, .name⟩
      | [] => none
  | .separator, token => endFrame frames token
  | _, _ => none

/-- Takes a text apart that holds one document; none when the text is malformed. -/
def tree? (text : String) : Option Tree := do
  let tokens ← scan text.toList
  let builder ← tokens.foldlM Builder.step ⟨[], .value⟩
  match builder.expects with
  | .finished tree => some tree
  | _ => none

/-! Documents. -/

/-- The text that is written. A unit is a character, or the first of two that make up one. -/
def Letter.readAll? : List Letter → Option (List Char)
  | [] => some []
  | .char c :: rest => (readAll? rest).map (c :: ·)
  | .unit value :: rest =>
      if 0xDC00 ≤ value && value ≤ 0xDFFF then none
      else if 0xD800 ≤ value && value ≤ 0xDBFF then
        match rest with
        | .unit low :: rest =>
            if 0xDC00 ≤ low && low ≤ 0xDFFF then
              (readAll? rest).map
                (Char.ofNat (0x10000 + (value - 0xD800) * 0x400 + (low - 0xDC00)) :: ·)
            else none
        | _ => none
      else (readAll? rest).map (Char.ofNat value :: ·)

def readText? (letters : List Letter) : Option String := (Letter.readAll? letters).map String.ofList

mutual

/-- Reads a tree in which arrays and objects nest so deep at most. Of two members of one name the
later stays. -/
def Tree.read? : Tree → Nat → Option Json
  | .null, _ => some .null
  | .bool value, _ => some (.bool value)
  | .number written, _ => written.number?.map .number
  | .text letters, _ => (readText? letters).map .string
  | .array elements, depth =>
      if depth = 0 then none else (readElements? elements (depth - 1)).map .array
  | .object members, depth =>
      if depth = 0 then none
      else (readMembers? members (depth - 1)).map fun pairs => .object (Members.collect pairs)

def readElements? : List Tree → Nat → Option (List Json)
  | [], _ => some []
  | element :: rest, depth =>
      (element.read? depth).bind fun first => (readElements? rest depth).map (first :: ·)

def readMembers? : List (List Letter × Tree) → Nat → Option (List (String × Json))
  | [], _ => some []
  | (letters, value) :: rest, depth =>
      (readText? letters).bind fun name =>
        (value.read? depth).bind fun first => (readMembers? rest depth).map ((name, first) :: ·)

end

/-- Arrays and objects of a document nest so deep at most. -/
def depthLimit : Nat := 127

/-- Reads a text that holds one document; none when the text is malformed, or when there is a number
or a text in it that cannot be held. -/
def parse? (text : String) : Option Json := (tree? text).bind (·.read? depthLimit)

end ResourceEditor.Json
