import ResourceEditor.Decimal.Numeral
import ResourceEditor.Domain.Basic
import ResourceEditor.Text.Encoding
/-
This file reads the hosts of web addresses: domain names, and the two kinds of numeric addresses.
-/

namespace ResourceEditor

/-- Why a text is no web address. -/
inductive UrlFault where
  | noScheme
  | emptyHost
  | badDomain
  | badPort
  | badIpv4
  | badIpv6
deriving Repr, DecidableEq

def UrlFault.message : UrlFault → String
  | .noScheme => "relative URL without a base"
  | .emptyHost => "empty host"
  | .badDomain => "invalid international domain name"
  | .badPort => "invalid port number"
  | .badIpv4 => "invalid IPv4 address"
  | .badIpv6 => "invalid IPv6 address"

namespace Host

open Text

/-- Reads the digits of a base. -/
def readBase (base : Nat) (text : List Char) : Option Nat :=
  text.foldlM (fun value c =>
    (hexValue? c).bind fun digit => if digit < base then some (base * value + digit) else none) 0

/-- Reads one part of a numeric address: in base 16 after `0x`, in base 8 after a zero. -/
def readPart : List Char → Option Nat
  | '0' :: 'x' :: rest => readBase 16 rest
  | '0' :: 'X' :: rest => readBase 16 rest
  | '0' :: rest => readBase 8 rest
  | [] => none
  | text => readBase 10 text

def parts (text : List Char) : List (List Char) :=
  match (splitAll '.' text).reverse with
  | [] :: rest => rest.reverse
  | other => other.reverse

/-- Whether a domain must be read as a numeric address. -/
def endsInNumber (text : List Char) : Bool :=
  match (parts text).getLast? with
  | some last => (!last.isEmpty && last.all Decimal.isDigit) ||
      (match last with
      | '0' :: c :: rest => (c == 'x' || c == 'X') && (readBase 16 rest).isSome
      | _ => false)
  | none => false

/-- The number of an address from its parts: the last part fills the bytes that are left. -/
def combine : List Nat → Nat → Option Nat
  | [], _ => none
  | [last], left => if last < Nat.pow 256 left then some last else none
  | part :: rest, left =>
      if part < 256 then (combine rest (left - 1)).map (part * Nat.pow 256 (left - 1) + ·) else none

def readIpv4 (text : List Char) : Option Nat :=
  let parts := parts text
  if 4 < parts.length then none else (parts.mapM readPart).bind (combine · 4)

def renderIpv4 (number : Nat) : String :=
  String.intercalate "." ([3, 2, 1, 0].map fun place => toString (number / Nat.pow 256 place % 256))

/-- The four bytes of an address that ends another one: no part has a leading zero. -/
def readBytes (text : List Char) : Option (List Nat) :=
  let parts := splitAll '.' text
  if parts.length != 4 then none
  else
    parts.mapM fun part =>
      (Decimal.readDigits part).filter fun value =>
        value < 256 && (part.length == 1 || part.head? != some '0') && part.head? != some '+'

/-- The groups of one side of a double colon; the last may be written as four bytes. -/
def readGroups (text : List Char) : Option (List Nat) :=
  if text.isEmpty then some []
  else
    let pieces := splitAll ':' text
    let read (piece : List Char) : Option Nat :=
      if piece.isEmpty || 4 < piece.length then none else readBase 16 piece
    match pieces.reverse with
    | last :: before =>
        if last.contains '.' then do
          let groups ← before.reverse.mapM read
          match ← readBytes last with
          | [a, b, c, d] => some (groups ++ [256 * a + b, 256 * c + d])
          | _ => none
        else pieces.mapM read
    | [] => none

/-- The text around the first double colon. -/
def splitDouble : List Char → Option (List Char × List Char)
  | ':' :: ':' :: rest => some ([], rest)
  | c :: rest => (splitDouble rest).map fun (before, after) => (c :: before, after)
  | [] => none

/-- The eight groups of an address; a double colon stands for groups of zeros. -/
def readIpv6 (text : List Char) : Option (List Nat) :=
  match splitDouble text with
  | none => (readGroups text).filter (·.length == 8)
  | some (before, after) => do
      let first ← readGroups before
      let last ← readGroups after
      if before.contains '.' || 7 < first.length + last.length then none
      else some (first ++ List.replicate (8 - first.length - last.length) 0 ++ last)

/-- The first of the longest runs of zeros: where it starts and its length. -/
def longestZeros (groups : List Nat) : Nat × Nat :=
  (List.range groups.length).foldl (fun best start =>
    let length := ((groups.drop start).takeWhile (· == 0)).length
    if best.2 < length then (start, length) else best) (0, 0)

def renderGroups (groups : List Nat) : String :=
  String.intercalate ":" (groups.map fun group => String.ofList (Nat.toDigits 16 group))

def renderIpv6 (groups : List Nat) : String :=
  let (start, length) := longestZeros groups
  if length < 2 then renderGroups groups
  else renderGroups (groups.take start) ++ "::" ++ renderGroups (groups.drop (start + length))

/-- Characters that no host can have. -/
def isForbidden (c : Char) : Bool := "\x00\t\n\r #/:<>?@[\\]^|".toList.contains c

/-- Characters that no domain can have. -/
def isForbiddenInDomain (c : Char) : Bool :=
  isForbidden c || c.toNat < 0x20 || c.toNat == 0x7F || "%`\x7b\x7d".toList.contains c

/-- A domain in ASCII. One that ends in a number is an address. -/
def readDomain (text : List Char) : Except UrlFault String :=
  match (String.fromUTF8? ⟨(percentDecode text).toArray⟩).bind (Domain.toAscii? ·.toList) with
  | none => .error .badDomain
  | some name =>
      if name.any isForbiddenInDomain then .error .badDomain
      else if name.isEmpty then .error .emptyHost
      else if endsInNumber name then
        match readIpv4 name with
        | some number => .ok (renderIpv4 number)
        | none => .error .badIpv4
      else .ok (String.ofList name)

/-- Reads the host of an address of the web. -/
def read (text : List Char) : Except UrlFault String :=
  match text with
  | [] => .error .emptyHost
  | '[' :: rest =>
      match rest.reverse with
      | ']' :: inner =>
          match readIpv6 inner.reverse with
          | some groups => .ok ("[" ++ renderIpv6 groups ++ "]")
          | none => .error .badIpv6
      | _ => .error .badIpv6
  | text => readDomain text

/-- Reads the host of an address of another kind, which is kept as it is. -/
def readOpaque (text : List Char) : Except UrlFault String :=
  match text with
  | '[' :: _ => read text
  | text =>
      if text.any isForbidden then .error .badDomain
      else
        .ok (String.ofList (percentEncode (fun c => c.toNat < 0x20 || 0x7E < c.toNat) text))

end Host

end ResourceEditor
