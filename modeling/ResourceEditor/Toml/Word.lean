import ResourceEditor.Decimal.Numeral
import ResourceEditor.Text.Blank
import ResourceEditor.Text.Encoding
import ResourceEditor.Toml.Basic
/-
This file reads the values of TOML documents that are written without quotes and brackets: truth
values, integers, numerals, dates and times.
-/

namespace ResourceEditor.Toml

open Decimal

def isWordChar (c : Char) : Bool :=
  c.isAlphanum || c == '_' || c == '+' || c == '-' || c == '.' || c == ':'

/-- The digits of a number whose groups are separated by single underscores. -/
def ungroup (digit : Char → Bool) (text : List Char) : Option (List Char) :=
  let groups := Text.splitAll '_' text
  if groups.all fun group => !group.isEmpty && group.all digit then some groups.flatten else none

/-- Decimal digits that do not begin with a zero, other than zero itself. -/
def readWhole (text : List Char) : Option (List Char) :=
  (ungroup isDigit text).filter fun digits => digits.length == 1 || digits.head? != some '0'

/-- The number that digits denote in a base. -/
def ofBase (base : Nat) (digits : List Char) : Nat :=
  digits.foldl (fun value digit => base * value + (Text.hexValue? digit).getD 0) 0

/-- Digits of a base other than ten. -/
def readBase (base : Nat) (text : List Char) : Option Int :=
  let isOfBase (c : Char) : Bool := (Text.hexValue? c).any (· < base)
  ((ungroup isOfBase text).map (ofBase base)).bind fun value =>
    if value < Decimal.signedLimit then some (value : Int) else none

def readDecimal (text : List Char) : Option Int :=
  let (negative, digits) := splitSign text
  (readWhole digits).bind fun digits =>
    let value := ofDigits digits
    if negative then if value ≤ Decimal.signedLimit then some (-(value : Int)) else none
    else if value < Decimal.signedLimit then some (value : Int)
    else none

def readInteger : List Char → Option Int
  | '0' :: 'x' :: digits => readBase 16 digits
  | '0' :: 'o' :: digits => readBase 8 digits
  | '0' :: 'b' :: digits => readBase 2 digits
  | text => readDecimal text

def isMarkOfExponent (c : Char) : Bool := c == 'e' || c == 'E'

/-- The digits after the point, if there is a point. -/
def readFraction : List Char → Option (List Char)
  | [] => some []
  | '.' :: digits => (ungroup isDigit digits).map ('.' :: ·)
  | _ => none

def readPower : List Char → Option (List Char)
  | [] => some []
  | mark :: '+' :: digits => (ungroup isDigit digits).map fun digits => mark :: '+' :: digits
  | mark :: '-' :: digits => (ungroup isDigit digits).map fun digits => mark :: '-' :: digits
  | mark :: digits => (ungroup isDigit digits).map (mark :: ·)

/-- A numeral that has a fraction or an exponent, without its underscores. One that is too large is
refused, unless it is negative. -/
def readNumeral (text : List Char) : Option (List Char) := do
  let (negative, rest) := splitSign text
  let (mantissa, power) := rest.span (!isMarkOfExponent ·)
  let (whole, fraction) := mantissa.span (· != '.')
  if fraction.isEmpty && power.isEmpty then none
  else
    let digits := (← readWhole whole) ++ (← readFraction fraction) ++ (← readPower power)
    let fits := ((Decimal.readNumeral digits).bind Numeral.nearest).isSome
    if negative then some ('-' :: digits) else if fits then some digits else none

def isSpecialNumeral (text : List Char) : Bool :=
  let (_, name) := splitSign text
  name == ['i', 'n', 'f'] || name == ['n', 'a', 'n']

def isLeapYear (year : Nat) : Bool := year % 4 == 0 && (year % 100 != 0 || year % 400 == 0)

def daysOfMonth (year month : Nat) : Nat :=
  if month = 2 then if isLeapYear year then 29 else 28
  else if [4, 6, 9, 11].contains month then 30
  else 31

/-- A number of just so many digits. -/
def readField (width : Nat) (text : List Char) : Option Nat :=
  if text.length = width then readDigits text else none

/-- A year, a month and a day of that month. -/
def isDate (text : List Char) : Bool :=
  match Text.splitAll '-' text with
  | [year, month, day] =>
      match readField 4 year, readField 2 month, readField 2 day with
      | some year, some month, some day =>
          1 ≤ month && month ≤ 12 && 1 ≤ day && day ≤ daysOfMonth year month
      | _, _, _ => false
  | _ => false

def isBelow (limit : Nat) (text : List Char) : Bool := (readField 2 text).any (· < limit)

/-- Hours, minutes and seconds, where a minute may have one second more, and parts of a second. -/
def isTime (text : List Char) : Bool :=
  let (clock, parts) := text.span (· != '.')
  let partsFit :=
    match parts with
    | [] => true
    | _ :: digits => (readDigits digits).isSome
  match Text.splitAll ':' clock with
  | [hours, minutes, seconds] =>
      partsFit && isBelow 24 hours && isBelow 60 minutes && isBelow 61 seconds
  | _ => false

/-- The difference from universal time, after its sign. -/
def isOffset (text : List Char) : Bool :=
  match Text.splitAll ':' text with
  | [hours, minutes] => isBelow 24 hours && isBelow 60 minutes
  | _ => false

/-- A time, which may have an offset. -/
def isZonedTime (text : List Char) : Bool :=
  let (clock, zone) := text.span fun c => isDigit c || c == ':' || c == '.'
  isTime clock &&
    match zone with
    | [] => true
    | [c] => c == 'Z' || c == 'z'
    | sign :: offset => (sign == '+' || sign == '-') && isOffset offset

/-- A date, a date with a time, or a time of day. -/
def isMoment (text : List Char) : Bool :=
  match text.drop 10 with
  | [] => isDate text || isTime text
  | mark :: time =>
      isTime text ||
        (isDate (text.take 10) && (mark == 'T' || mark == 't' || mark == ' ') && isZonedTime time)

/-- The value that a word stands for. -/
def ofWord (word : List Char) : Option Toml :=
  if word = ['t', 'r', 'u', 'e'] then some (.bool true)
  else if word = ['f', 'a', 'l', 's', 'e'] then some (.bool false)
  else if isMoment word then some (.date (String.ofList word))
  else if isSpecialNumeral word then some (.float (String.ofList word))
  else
    match readInteger word with
    | some value => some (.integer value)
    | none => (readNumeral word).map fun numeral => .float (String.ofList numeral)

/-- Whether a blank and a time of day follow a date. -/
def continuesDate (word rest : List Char) : Bool :=
  match rest with
  | ' ' :: c :: _ => isDate word && isDigit c
  | _ => false

/-- A value without quotes and brackets, and what comes after it. -/
def readWord (text : List Char) : Option (Toml × List Char) :=
  let (word, rest) := text.span isWordChar
  if continuesDate word rest then
    let (time, rest) := (rest.drop 1).span isWordChar
    (ofWord (word ++ ' ' :: time)).map (·, rest)
  else (ofWord word).map (·, rest)

end ResourceEditor.Toml
