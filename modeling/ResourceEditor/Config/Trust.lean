import ResourceEditor.Config.Basic
import ResourceEditor.Members
import ResourceEditor.Text.Blank
/-
This file holds the files that a command can read, and checks that the certificates a client is told
to trust can be used. Those stand in a text file, each as digits of base 64 between two marked
lines; a file without such lines adds nothing.
-/

namespace ResourceEditor

/-- The files below the working directory, by their paths. -/
abbrev Files := Members String

inductive FileFault where
  | missing
  | notDirectory
  | directory
  | unreadable (reason : String)
deriving Repr, DecidableEq

def FileFault.message : FileFault → String
  | .missing => "No such file or directory (os error 2)"
  | .notDirectory => "Not a directory (os error 20)"
  | .directory => "Is a directory (os error 21)"
  | .unreadable reason => reason

namespace Files

/-- The parts of a path that lead on. -/
def steps (path : String) : List (List Char) :=
  (Text.splitAll '/' path.toList).filter fun part => !part.isEmpty && part != ['.']

/-- Whether the path can only be that of a directory. -/
def endsAsDirectory (path : String) : Bool :=
  let last := (Text.splitAll '/' path.toList).getLast?.getD []
  last.isEmpty || last == ['.'] || last == ['.', '.']

def read (files : Files) (path : String) : Except FileFault String :=
  let here := steps path
  if path.isEmpty then .error .missing
  else if here.all (· == ['.', '.']) then .error .directory
  else if path.startsWith "/" then .error .missing
  else
    match files.find? fun (name, _) => steps name == here with
    | some (_, content) => if endsAsDirectory path then .error .notDirectory else .ok content
    | none =>
        if files.any fun (name, _) => here.isPrefixOf (steps name) then .error .directory
        else if files.any fun (name, _) => (steps name).isPrefixOf here then .error .notDirectory
        else .error .missing

end Files

/-- Why the certificates cannot be used. -/
inductive TrustFault where
  | unreadable (fault : FileFault)
  | malformed
deriving Repr, DecidableEq

def TrustFault.message : TrustFault → String
  | .unreadable fault => "failed to read CA cert: " ++ fault.message
  | .malformed => "failed to build HTTP client: builder error"

namespace Trust

def beginMark : String := "-----BEGIN CERTIFICATE-----"

def endMark : String := "-----END CERTIFICATE-----"

def digit64? (c : Char) : Option Nat :=
  if 'A' ≤ c && c ≤ 'Z' then some (c.toNat - 'A'.toNat)
  else if 'a' ≤ c && c ≤ 'z' then some (c.toNat - 'a'.toNat + 26)
  else if '0' ≤ c && c ≤ '9' then some (c.toNat - '0'.toNat + 52)
  else if c == '+' then some 62
  else if c == '/' then some 63
  else none

/-- The bytes that groups of four digits stand for; equality signs fill up the last group. -/
def decode64 : List Char → Option (List Nat)
  | [] => some []
  | [a, b, '=', '='] => do
      let bits := 64 * (← digit64? a) + (← digit64? b)
      return [bits / 16]
  | [a, b, c, '='] => do
      let bits := 4096 * (← digit64? a) + 64 * (← digit64? b) + (← digit64? c)
      return [bits / 1024, bits / 4 % 256]
  | a :: b :: c :: d :: rest => do
      let bits := 262144 * (← digit64? a) + 4096 * (← digit64? b) + 64 * (← digit64? c) +
        (← digit64? d)
      return bits / 65536 :: bits / 256 % 256 :: bits % 256 :: (← decode64 rest)
  | _ => none

/-- Whether the bytes are one sequence whose length is written in two bytes, as certificates are. -/
def isSequence : List Nat → Bool
  | 0x30 :: 0x82 :: high :: low :: content => content.length == 256 * high + low
  | _ => false

def isCertificate (lines : List String) : Bool :=
  (decode64 (lines.flatMap String.toList)).any isSequence

/-- Whether every marked block holds a certificate; the lines of an open block are given first. -/
def blocksFit : Option (List String) → List String → Bool
  | none, [] => true
  | some _, [] => false
  | none, line :: rest => blocksFit (if line == beginMark then some [] else none) rest
  | some lines, line :: rest =>
      if line == endMark then isCertificate lines && blocksFit none rest
      else blocksFit (some (lines ++ [line])) rest

def linesOf (content : String) : List String :=
  (Text.splitAll '\n' content.toList).map fun line => Text.trim (String.ofList line)

/-- Whether the certificates in a file can be used. -/
def checkFile : Except FileFault String → Except TrustFault Unit
  | .error fault => .error (.unreadable fault)
  | .ok content => if blocksFit none (linesOf content) then .ok () else .error .malformed

end Trust

/-- Whether a client can be made with the settings. -/
def TransportSettings.check {m : Type → Type} [Monad m] (settings : TransportSettings)
    (contentOf : String → m (Except FileFault String)) : m (Except TrustFault Unit) :=
  match settings.trust with
  | .system => pure (.ok ())
  | .anyone => pure (.ok ())
  | .authority path => do return Trust.checkFile (← contentOf path)

end ResourceEditor
