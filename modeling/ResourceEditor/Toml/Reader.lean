import ResourceEditor.Toml.Quoted
import ResourceEditor.Toml.Table
import ResourceEditor.Toml.Word
/-
This file reads TOML documents, line by line into statements, and from statements into a table.
-/

namespace ResourceEditor.Toml

/-- Reads something at the beginning of a text and leaves the rest. -/
abbrev Reader := StateT (List Char) Option

namespace Reader

def peek : Reader (Option Char) := do return (← get).head?

def expect (c : Char) : Reader Unit := fun text =>
  match text with
  | d :: rest => if d == c then some ((), rest) else none
  | [] => none

/-- Takes a character if it comes next. -/
def accept (c : Char) : Reader Bool := fun text =>
  match text with
  | d :: rest => if d == c then some (true, rest) else some (false, text)
  | [] => some (false, [])

def skipGap : Reader Unit := modify (·.dropWhile isGap)

def lineEnd : Reader Unit := fun text =>
  match text with
  | [] => some ((), [])
  | '\n' :: rest => some ((), rest)
  | '\r' :: '\n' :: rest => some ((), rest)
  | _ => none

/-- The rest of a line may hold a comment. -/
def skipComment : Reader Unit := do
  if (← peek) == some '#' then modify (·.dropWhile isPlain)

def finishLine : Reader Unit := do
  skipGap
  skipComment
  lineEnd

/-- Skips gaps, comments and line ends, at most as many as the first argument says. -/
def skipLines : Nat → Reader Unit
  | 0 => pure ()
  | rounds + 1 => do
      skipGap
      skipComment
      match ← get with
      | '\n' :: _ => do lineEnd; skipLines rounds
      | '\r' :: _ => do lineEnd; skipLines rounds
      | _ => pure ()

def skipBlank : Reader Unit := do skipLines ((← get).length + 1)

/-- A name: letters, digits and a few signs, or a string on one line. -/
def name : Reader String := do
  let text ← get
  match text with
  | '"' :: _ => fun text => readShortString text
  | '\x27' :: _ => fun text => readShortString text
  | _ =>
      let (bare, rest) := text.span isBareChar
      if bare.isEmpty then failure
      else do
        set rest
        return String.ofList bare

/-- Names with dots between them. -/
def names : Nat → Reader (List String)
  | 0 => failure
  | rounds + 1 => do
      skipGap
      let first ← name
      skipGap
      if ← accept '.' then return first :: (← names rounds) else return [first]

/-- Arrays, inline tables and keys with dots nest less deep than this. -/
def depthLimit : Nat := 80

def path : Reader (List String) := names (depthLimit - 1)

/-- The elements of an array after the opening bracket; a comma may follow the last one. -/
def elements (value : Reader Toml) : Nat → Reader (List Toml)
  | 0 => failure
  | rounds + 1 => do
      skipBlank
      if ← accept ']' then return []
      else
        let first ← value
        skipBlank
        if ← accept ',' then return first :: (← elements value rounds)
        else
          expect ']'
          return [first]

def pairs (value : Reader Toml) : Nat → Reader (List (List String × Toml))
  | 0 => failure
  | rounds + 1 => do
      let key ← path
      expect '='
      skipGap
      let first ← value
      skipGap
      if ← accept ',' then return (key, first) :: (← pairs value rounds)
      else return [(key, first)]

def array (value : Reader Toml) : Reader Toml := do
  return .array (← elements value ((← get).length + 1))

/-- A table in braces after the opening brace, all on one line. -/
def inlineTable (value : Reader Toml) : Reader Toml := do
  skipGap
  if ← accept '\x7d' then return .table []
  else
    let pairs ← pairs value ((← get).length + 1)
    expect '\x7d'
    ofPairs? pairs

def string : Reader Toml := do
  return .string (← fun text => readString text)

/-- A value whose brackets nest at most as deep as the first argument says. -/
def value : Nat → Reader Toml
  | 0 => scalar
  | depth + 1 => do
      if ← accept '[' then array (value depth)
      else if ← accept '\x7b' then inlineTable (value depth)
      else scalar
where
  scalar : Reader Toml := do
    match ← peek with
    | some '"' => string
    | some '\x27' => string
    | _ => fun text => readWord text

def pair : Reader Statement := do
  let key ← path
  expect '='
  skipGap
  let value ← value (depthLimit - 1)
  return .pair key value

def header : Reader Statement := do
  expect '['
  if ← accept '[' then
    let path ← path
    expect ']'
    expect ']'
    return .element path
  else
    let path ← path
    expect ']'
    return .table path

def statement : Reader Statement := do
  if (← peek) == some '[' then header else pair

/-- The statements up to the end of the text. -/
def statements : Nat → Reader (List Statement)
  | 0 => failure
  | rounds + 1 => do
      skipBlank
      if (← get).isEmpty then return []
      else
        let first ← statement
        finishLine
        return first :: (← statements rounds)

end Reader

/-- A mark of the byte order may come first. -/
def dropOrderMark : List Char → List Char
  | '\uFEFF' :: rest => rest
  | text => text

/-- The statements of a document; none when it is malformed. -/
def readStatements (text : String) : Option (List Statement) :=
  let text := dropOrderMark text.toList
  ((Reader.statements (text.length + 1)).run text).map Prod.fst

/-- The table that a document defines; none when the document is malformed. -/
def parse? (text : String) : Option Toml := (readStatements text).bind ofStatements?

end ResourceEditor.Toml
