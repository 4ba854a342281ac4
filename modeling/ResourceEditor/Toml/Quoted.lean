import ResourceEditor.Text.Blank
import ResourceEditor.Text.Encoding
/-
This file reads the strings of TOML documents. Single quotes hold a text as it is, double quotes
hold escapes, and three quotes hold line ends.
-/

namespace ResourceEditor.Toml

/-- Every character but controls; a tab is no control here. -/
def isPlain (c : Char) : Bool := c == '\t' || (0x20 ≤ c.toNat && c.toNat != 0x7F)

/-- A character named by its escape letter. -/
def ofEscape? (c : Char) : Option Char :=
  match c with
  | 'b' => some '\x08'
  | 't' => some '\t'
  | 'n' => some '\n'
  | 'f' => some '\x0c'
  | 'r' => some '\r'
  | '"' => some '"'
  | '\\' => some '\\'
  | _ => none

/-- The character of a code point; surrogates and numbers beyond the last code point have none. -/
def ofCode? (digits : List Char) : Option Char :=
  (Text.ofHex? digits).bind fun code =>
    if code.isValidChar then some (Char.ofNat code) else none

/-- Puts a character before a text that was read together with what is left. -/
def put (c : Option Char) (read : Option (List Char × List Char)) :
    Option (List Char × List Char) := do
  let (text, rest) ← read
  return ((← c) :: text, rest)

/-- The text up to a quote on the same line, and what comes after the quote. -/
def readLine (mark : Char) (escapes : Bool) : List Char → Option (List Char × List Char)
  | [] => none
  | c :: rest =>
      if c == mark then some ([], rest)
      else if escapes && c == '\\' then
        match rest with
        | 'u' :: x :: y :: z :: w :: rest =>
            put (ofCode? [x, y, z, w]) (readLine mark escapes rest)
        | 'U' :: x :: y :: z :: w :: p :: q :: r :: s :: rest =>
            put (ofCode? [x, y, z, w, p, q, r, s]) (readLine mark escapes rest)
        | letter :: rest => put (ofEscape? letter) (readLine mark escapes rest)
        | [] => none
      else if isPlain c then put (some c) (readLine mark escapes rest)
      else none

def isGap (c : Char) : Bool := c == ' ' || c == '\t'

/-- Whether the line ends here, spaces and tabs aside. -/
def endsLine (text : List Char) : Bool :=
  match text.dropWhile isGap with
  | '\n' :: _ => true
  | '\r' :: '\n' :: _ => true
  | _ => false

/-- How many of five quotes stand at the beginning. -/
def countQuotes (mark : Char) (text : List Char) : Nat :=
  ((text.take 5).takeWhile (· == mark)).length

/-- The text up to three quotes, and what comes after them; one or two more quotes still belong to
the text. A backslash at the end of a line leaves out everything up to the next text. -/
def readLines (mark : Char) (escapes skipping : Bool) :
    List Char → Option (List Char × List Char)
  | [] => none
  | c :: rest =>
      if skipping && (isGap c || c == '\n') then readLines mark escapes true rest
      else if c == '\r' then
        match rest with
        | '\n' :: rest =>
            if skipping then readLines mark escapes true rest
            else put (some '\n') (readLines mark escapes false rest)
        | _ => none
      else if c == mark then
        let count := countQuotes mark (c :: rest)
        if 3 ≤ count then
          some (List.replicate (count - 3) mark, rest.drop (count - 1))
        else put (some c) (readLines mark escapes false rest)
      else if escapes && c == '\\' then
        match rest with
        | 'u' :: x :: y :: z :: w :: rest =>
            put (ofCode? [x, y, z, w]) (readLines mark escapes false rest)
        | 'U' :: x :: y :: z :: w :: p :: q :: r :: s :: rest =>
            put (ofCode? [x, y, z, w, p, q, r, s]) (readLines mark escapes false rest)
        | letter :: after =>
            if endsLine (letter :: after) then readLines mark escapes true (letter :: after)
            else put (ofEscape? letter) (readLines mark escapes false after)
        | [] => none
      else if c == '\n' || isPlain c then put (some c) (readLines mark escapes false rest)
      else none

/-- The first line end after three quotes is left out. -/
def dropFirstBreak : List Char → List Char
  | '\n' :: rest => rest
  | '\r' :: '\n' :: rest => rest
  | rest => rest

/-- A string of one line, with its opening quote. -/
def readShortString : List Char → Option (String × List Char)
  | c :: rest =>
      if c == '"' || c == '\x27' then
        (readLine c (c == '"') rest).map fun (text, rest) => (String.ofList text, rest)
      else none
  | [] => none

/-- A string of any kind, with its opening quotes. -/
def readString : List Char → Option (String × List Char)
  | c :: d :: e :: rest =>
      if c == d && d == e && (c == '"' || c == '\x27') then
        (readLines c (c == '"') false (dropFirstBreak rest)).map fun (text, rest) =>
          (String.ofList text, rest)
      else readShortString (c :: d :: e :: rest)
  | text => readShortString text

end ResourceEditor.Toml
