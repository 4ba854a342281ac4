import ResourceEditor.Toml.Reader
/-
This file reads settings from environment variables. The name of a variable tells the place of the
setting, and its value is a truth value, a number, a list, a table or a text.
-/

namespace ResourceEditor

open Toml (Reader)

/-- Variables with their values. -/
abbrev Environment := Members String

namespace Variable

def namePrefix : String := "edgeform_"

/-- Two underscores stand for a dot. -/
def dotted : List Char → List Char
  | '_' :: '_' :: rest => '.' :: dotted rest
  | c :: rest => c :: dotted rest
  | [] => []

/-- The place of the setting that a variable stands for; case does not count in its name. -/
def path? (name : String) : Option (List String) :=
  let letters := (Text.asciiLower (Text.trim name)).toList
  if !namePrefix.toList.isPrefixOf letters then none
  else
    let parts := Text.splitAll '.' (dotted (letters.drop namePrefix.length))
    let path := (parts.takeWhile (!·.isEmpty)).map String.ofList
    if path.isEmpty then none else some path

def isSpace (c : Char) : Bool :=
  c == ' ' || c == '\t' || c == '\n' || c == '\r' || c == '\x0c'

def isSeparator (c : Char) : Bool :=
  c == ',' || c == '[' || c == ']' || c == '\x7b' || c == '\x7d'

/-- A number if it reads as one, else a text. -/
def ofWord (text : List Char) : Toml :=
  let text := Text.trimChars text
  let isSmall (value : Int) : Bool := -Decimal.signedLimit ≤ value && value < Decimal.wordLimit
  if text.contains '.' && (Decimal.readNumeral text).isSome then .float (String.ofList text)
  else
    match (Decimal.readInt text).filter isSmall with
    | some value => .integer value
    | none => .string (String.ofList text)

namespace Reader

def skipSpace : Reader Unit := modify (·.dropWhile isSpace)

/-- Items after an opening bracket up to a closing one; a comma may follow the last one. -/
def items {α : Type} (last : Char) (item : Reader α) : Nat → Reader (List α)
  | 0 => failure
  | rounds + 1 => do
      if ← Toml.Reader.accept last then return []
      else
        let first ← item
        if ← Toml.Reader.accept ',' then return first :: (← items last item rounds)
        else
          Toml.Reader.expect last
          return [first]

def quoted : Reader String := fun text => Toml.readShortString text

def key : Reader String := do
  match ← Toml.Reader.peek with
  | some '"' => quoted
  | _ =>
      let (name, rest) := (← get).span Toml.isBareChar
      if name.isEmpty then failure
      else
        set rest
        return String.ofList name

def pair (value : Reader Toml) : Reader (String × Toml) := do
  skipSpace
  let name ← key
  skipSpace
  Toml.Reader.expect '='
  return (name, ← value)

/-- A value whose brackets nest at most as deep as the first argument says. -/
def value (depth : Nat) : Reader Toml := do
  skipSpace
  let read ← plain depth (← get)
  skipSpace
  return read
where
  plain (depth : Nat) (text : List Char) : Reader Toml :=
    match depth, text with
    | _, 't' :: 'r' :: 'u' :: 'e' :: rest => do
        set rest
        return .bool true
    | _, 'f' :: 'a' :: 'l' :: 's' :: 'e' :: rest => do
        set rest
        return .bool false
    | _, '"' :: _ => do return .string (← quoted)
    | _, '\x27' :: c :: '\x27' :: rest => do
        set rest
        return .string (String.singleton c)
    | _, '\x27' :: _ => failure
    | 0, _ => failure
    | depth + 1, '[' :: rest => do
        set rest
        return .array (← items ']' (value depth) (rest.length + 1))
    | depth + 1, '\x7b' :: rest => do
        set rest
        return .table (Members.collect (← items '\x7d' (pair (value depth)) (rest.length + 1)))
    | _, text => do
        let (word, rest) := text.span (!isSeparator ·)
        set rest
        return ofWord word

end Reader

/-- The value of a variable; what reads as nothing else is a text as it stands. -/
def value (text : String) : Toml :=
  match (Reader.value (text.length + 1)).run text.toList with
  | some (value, []) => value
  | _ => .string text

/-- The settings that the variables make, the later ones over the earlier ones. -/
def settings (environment : Environment) : Toml :=
  environment.foldl (fun settings (name, text) =>
    match path? name with
    | some path => settings.overlay (Toml.nest path (value text))
    | none => settings) (.table [])

end Variable

end ResourceEditor
