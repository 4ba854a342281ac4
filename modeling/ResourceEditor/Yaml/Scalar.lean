import ResourceEditor.Decimal.Numeral
import ResourceEditor.Text.Encoding
/-
This file writes the texts of YAML documents. A text stands plain unless it would be read as
something else; otherwise it is quoted, and one with line ends becomes a block.
-/

namespace ResourceEditor.Yaml

open Decimal

def isBreak (c : Char) : Bool :=
  c == '\n' || c == '\r' || c == '\x85' || c == '\u2028' || c == '\u2029'

/-- Blanks, line ends, and the end of a text, which reads as a null character. -/
def isGap (c : Char) : Bool := c == ' ' || c == '\t' || c == '\x00' || isBreak c

/-- Characters that can stand in a document as they are. -/
def isPrintable (c : Char) : Bool :=
  let code := c.toNat
  c == '\n' || (0x20 ≤ code && code ≤ 0x7E) ||
    (0xA0 ≤ code && code != 0xFEFF && code != 0xFFFE && code != 0xFFFF)

/-- Digits that start with a needless zero; a sign may come first. -/
def isPadded (text : List Char) : Bool :=
  match (splitSign text).2 with
  | '0' :: digit :: rest => (digit :: rest).all isDigit
  | _ => false

def dropPlus : List Char → List Char
  | '+' :: rest => rest
  | text => text

/-- The digits of a number after the mark of its base, with the base. -/
def basedDigits? : List Char → Option (Nat × List Char)
  | '0' :: 'x' :: digits => some (16, digits)
  | '0' :: 'o' :: digits => some (8, digits)
  | '0' :: 'b' :: digits => some (2, digits)
  | _ => none

/-- One above the largest integer of 128 bits, of which one is its sign. -/
def longLimit : Nat := 0x80000000000000000000000000000000

/-- Whether digits of a base denote a number up to a limit. -/
def fitsBase (base limit : Nat) (digits : List Char) : Bool :=
  !digits.isEmpty && digits.all (fun c => (Text.hexValue? c).any (· < base)) &&
    digits.foldl (fun value c => base * value + (Text.hexValue? c).getD 0) 0 ≤ limit

def isBased (text : List Char) : Bool :=
  match text with
  | '-' :: rest => (basedDigits? rest).any fun (base, digits) => fitsBase base longLimit digits
  | text =>
      (basedDigits? (dropPlus text)).any fun (base, digits) =>
        fitsBase base (2 * longLimit - 1) digits

def isInteger (text : List Char) : Bool :=
  isBased text ||
    (!isPadded text &&
      (readInt text).any fun value => -(longLimit : Int) ≤ value && value < 2 * longLimit)

def isFloat (text : List Char) : Bool :=
  let unsigned := dropPlus text
  let special := [".inf", ".Inf", ".INF"].map String.toList
  let notNumbers := [".nan", ".NaN", ".NAN"].map String.toList
  special.contains unsigned || special.any (fun name => '-' :: name == text) ||
    notNumbers.contains text ||
    (!isPadded text && ((readNumeral text).bind Numeral.nearest).isSome)

/-- Whether a plain text would be read as null, a truth value or a number. -/
def isAmbiguous (text : List Char) : Bool :=
  ["", "null", "Null", "NULL", "~", "true", "True", "TRUE", "false", "False", "FALSE"].contains
      (String.ofList text) ||
    isInteger text || isPadded text || isFloat text

/-- Characters that a plain text cannot begin with. -/
def isIndicator (c : Char) : Bool := "#,[]&*!|>'\"%@`\x7b\x7d".toList.contains c

/-- Whether signs inside a text would be read as marks; the character before is given first. -/
def hasMarks : Char → List Char → Bool
  | _, [] => false
  | before, c :: rest =>
      (c == ':' && isGap (rest.headD '\x00')) || (c == '#' && isGap before) || hasMarks c rest

/-- Whether the text would be read as a mark of the document. -/
def beginsAsMark : List Char → Bool
  | [] => false
  | c :: rest =>
      isIndicator c ||
        ((c == '?' || c == ':' || c == '-') && isGap (rest.headD '\x00')) ||
        ['-', '-', '-'].isPrefixOf (c :: rest) || ['.', '.', '.'].isPrefixOf (c :: rest) ||
        hasMarks c rest

/-- Whether a character of one kind is followed by one of another kind. -/
def hasPair (first second : Char → Bool) : List Char → Bool
  | c :: d :: rest => (first c && second d) || hasPair first second (d :: rest)
  | _ => false

def isBlank (c : Char) : Bool := c == ' '

/-- Texts of which a reader would not get back every blank. -/
def needsEscapes (text : List Char) : Bool :=
  hasPair isBlank isBreak text || text.any (!isPrintable ·)

def endsWith (kind : Char → Bool) (text : List Char) : Bool := text.getLast?.any kind

def allowsPlain (text : List Char) : Bool :=
  !text.isEmpty && !beginsAsMark text && !text.any isBreak && !needsEscapes text &&
    !(text.head?.any isBlank) && !endsWith isBlank text

def allowsQuotes (text : List Char) : Bool := !hasPair isBreak isBlank text && !needsEscapes text

def allowsBlock (text : List Char) : Bool := !endsWith isBlank text && !needsEscapes text

inductive Style where
  | plain
  | quoted
  | escaped
  | block
deriving Repr, DecidableEq

def styleOf (text : List Char) : Style :=
  if text.contains '\n' then if allowsBlock text then .block else .escaped
  else if !isAmbiguous text && allowsPlain text then .plain
  else if allowsQuotes text then .quoted
  else .escaped

/-- The letters after a backslash that name a character. -/
def escapeLetter? (c : Char) : Option Char :=
  match c with
  | '\x00' => some '0'
  | '\x07' => some 'a'
  | '\x08' => some 'b'
  | '\t' => some 't'
  | '\n' => some 'n'
  | '\x0b' => some 'v'
  | '\x0c' => some 'f'
  | '\r' => some 'r'
  | '\x1b' => some 'e'
  | '"' => some '"'
  | '\\' => some '\\'
  | '\x85' => some 'N'
  | '\u2028' => some 'L'
  | '\u2029' => some 'P'
  | _ => none

/-- The last digits of a number in base 16. -/
def hexText : Nat → Nat → List Char
  | 0, _ => []
  | width + 1, n => hexText width (n / 16) ++ [Text.upperHexDigit (n % 16)]

def escapeChar (c : Char) : List Char :=
  match escapeLetter? c with
  | some letter => ['\\', letter]
  | none =>
      if isPrintable c then [c]
      else if c.toNat ≤ 0xFF then ['\\', 'x'] ++ hexText 2 c.toNat
      else ['\\', 'u'] ++ hexText 4 c.toNat

def margin (indent : Nat) : List Char := List.replicate indent ' '

/-- Sets the text of every line in by a margin; a line without text has none. -/
def setIn (indent : Nat) : Bool → List Char → List Char
  | _, [] => []
  | fresh, c :: rest =>
      if isBreak c then c :: setIn indent true rest
      else (if fresh then margin indent else []) ++ c :: setIn indent false rest

def quotedText (indent : Nat) (text : List Char) : List Char :=
  let doubled := text.flatMap fun c => if c == '\x27' then [c, c] else [c]
  let last := if endsWith isBreak text then margin indent else []
  ['\x27'] ++ setIn indent false doubled ++ last ++ ['\x27', '\n']

def escapedText (text : List Char) : List Char :=
  ['"'] ++ text.flatMap escapeChar ++ ['"', '\n']

/-- What follows the bar of a block: a number if the text does not tell its own margin, and a sign
that says which line ends at its end belong to it. -/
def blockHints (text : List Char) : List Char :=
  let margin := if text.head?.any fun c => c == ' ' || isBreak c then ['2'] else []
  let keep :=
    match text.reverse with
    | [] => ['-']
    | [last] => if isBreak last then ['+'] else ['-']
    | last :: before :: _ =>
        if !isBreak last then ['-'] else if isBreak before then ['+'] else []
  margin ++ keep

def blockText (indent : Nat) (text : List Char) : List Char :=
  ['|'] ++ blockHints text ++ ['\n'] ++ setIn indent true text ++
    if endsWith isBreak text then [] else ['\n']

/-- The text with the line end after it; lines but the first are set in by a margin. -/
def scalarText (indent : Nat) (text : String) : List Char :=
  let text := text.toList
  match styleOf text with
  | .plain => text ++ ['\n']
  | .quoted => quotedText indent text
  | .escaped => escapedText text
  | .block => blockText indent text

/-- The name of a member on one line. -/
def nameText (name : String) : List Char :=
  let text := name.toList
  let written :=
    match styleOf text with
    | .plain => text ++ ['\n']
    | .quoted => quotedText 0 text
    | _ => escapedText text
  written.dropLast

/-- Whether a name can stand before a colon on the same line. -/
def isShortName (name : String) : Bool :=
  name.utf8ByteSize ≤ 128 && !name.toList.any isBreak

end ResourceEditor.Yaml
