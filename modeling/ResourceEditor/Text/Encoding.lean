/-
This file holds the digits of base 16, with which it writes characters as the percent signs and the
digits of their bytes and reads such texts back, and the digits of base 64.
-/

namespace ResourceEditor.Text

def hexDigit (n : Nat) : Char :=
  if n < 10 then Char.ofNat ('0'.toNat + n) else Char.ofNat ('a'.toNat + n - 10)

def upperHexDigit (n : Nat) : Char :=
  if n < 10 then Char.ofNat ('0'.toNat + n) else Char.ofNat ('A'.toNat + n - 10)

def hexValue? (c : Char) : Option Nat :=
  if '0' ≤ c && c ≤ '9' then some (c.toNat - '0'.toNat)
  else if 'a' ≤ c && c ≤ 'f' then some (c.toNat - 'a'.toNat + 10)
  else if 'A' ≤ c && c ≤ 'F' then some (c.toNat - 'A'.toNat + 10)
  else none

/-- The number that the digits denote. -/
def ofHex? (digits : List Char) : Option Nat :=
  digits.foldlM (fun value digit => (hexValue? digit).map (16 * value + ·)) 0

def percentByte (byte : UInt8) : List Char :=
  ['%', upperHexDigit (byte.toNat / 16), upperHexDigit (byte.toNat % 16)]

/-- The bytes of a character, each after a percent sign. -/
def percentChar (c : Char) : List Char := (String.utf8EncodeChar c).flatMap percentByte

/-- Encodes the characters of a set. -/
def percentEncode (encoded : Char → Bool) (text : List Char) : List Char :=
  text.flatMap fun c => if encoded c then percentChar c else [c]

/-- The bytes of a text; a percent sign and two hexadecimal digits are one byte. -/
def percentDecode : List Char → List UInt8
  | [] => []
  | '%' :: high :: low :: rest =>
      match hexValue? high, hexValue? low with
      | some high, some low => UInt8.ofNat (16 * high + low) :: percentDecode rest
      | _, _ => String.utf8EncodeChar '%' ++ percentDecode (high :: low :: rest)
  | c :: rest => String.utf8EncodeChar c ++ percentDecode rest

def base64Alphabet : List Char :=
  "ABCDEFGHIJKLMNOPQRSTUVWXYZabcdefghijklmnopqrstuvwxyz0123456789+/".toList

/-- The four digits of three bytes in a row. -/
def base64Digits (first second third : UInt8) : List Char :=
  let value := 65536 * first.toNat + 256 * second.toNat + third.toNat
  [value / 262144, value / 4096 % 64, value / 64 % 64, value % 64].map fun digit =>
    base64Alphabet.getD digit 'A'

/-- Equal signs stand for digits that no byte has a part in. -/
def base64 : List UInt8 → List Char
  | [] => []
  | [first] => (base64Digits first 0 0).take 2 ++ ['=', '=']
  | [first, second] => (base64Digits first second 0).take 3 ++ ['=']
  | first :: second :: third :: rest => base64Digits first second third ++ base64 rest

example : String.ofList (base64 ("lab:x".toList.flatMap String.utf8EncodeChar)) = "bGFiOng=" := by
  decide +kernel

end ResourceEditor.Text
