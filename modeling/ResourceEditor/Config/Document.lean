import ResourceEditor.Config.Basic
import ResourceEditor.Config.Variable
import ResourceEditor.Toml.Writer
/-
This file relates configurations to their documents. A configuration is read from a document laid
over the built-in settings, with the variables of the environment laid over both.
-/

namespace ResourceEditor

open Toml (Statement)

/-- Counts have 64 bits, of which documents leave one to the sign. -/
def Toml.count? : Toml → Option Nat
  | .integer value => if 0 ≤ value ∧ value < Decimal.wordLimit then some value.toNat else none
  | _ => none

def Toml.flag? : Toml → Option Bool
  | .bool value => some value
  | _ => none

def Toml.text? : Toml → Option String
  | .string text => some text
  | _ => none

/-- The members of a record, or the elements of an array in the order of the record's fields. -/
def Toml.fields? (names : List String) : Toml → Option (Members Toml)
  | .array elements => some (names.zip elements)
  | toml => toml.members?

namespace Toml.Field

variable {α : Type}

/-- A field that may be missing, but not hold anything else. -/
def optional (read : Toml → Option α) : Option Toml → Option (Option α)
  | none => some none
  | some toml => (read toml).map some

def withDefault (default : α) (read : Toml → Option α) (field : Option Toml) : Option α :=
  (optional read field).map (·.getD default)

/-- What is written for a field that may be missing. -/
def entry (name : String) (value : Option Toml) : List (String × Toml) :=
  value.toList.map (name, ·)

end Toml.Field

open Toml.Field

namespace Defaults

def fieldNames : List String := ["output", "color", "insecure", "timeout"]

def ofToml? (toml : Toml) : Option Defaults := do
  let fields ← toml.fields? fieldNames
  let builtIn : Defaults := {}
  return {
    output := ← withDefault builtIn.output Toml.text? (fields.get? "output")
    color := ← withDefault builtIn.color Toml.text? (fields.get? "color")
    insecure := ← withDefault builtIn.insecure Toml.flag? (fields.get? "insecure")
    timeout := ← withDefault builtIn.timeout Toml.count? (fields.get? "timeout") }

def entries (defaults : Defaults) : List (String × Toml) :=
  [("output", .string defaults.output), ("color", .string defaults.color),
    ("insecure", .bool defaults.insecure), ("timeout", .integer defaults.timeout)]

end Defaults

namespace Profile

def fieldNames : List String :=
  ["controller", "username", "token", "token_env", "ca_cert", "insecure", "timeout"]

/-- An array has to hold every field. -/
def isComplete : Toml → Bool
  | .array elements => fieldNames.length ≤ elements.length
  | _ => true

def ofToml? (toml : Toml) : Option Profile := do
  let fields ← (toml.fields? fieldNames).filter fun _ => isComplete toml
  return {
    controller := ← (fields.get? "controller").bind Toml.text?
    username := ← optional Toml.text? (fields.get? "username")
    token := ← optional Toml.text? (fields.get? "token")
    tokenEnv := ← optional Toml.text? (fields.get? "token_env")
    caCert := ← optional Toml.text? (fields.get? "ca_cert")
    insecure := ← optional Toml.flag? (fields.get? "insecure")
    timeout := ← optional Toml.count? (fields.get? "timeout") }

def entries (profile : Profile) : List (String × Toml) :=
  [("controller", .string profile.controller)] ++
    entry "username" (profile.username.map .string) ++
    entry "token" (profile.token.map .string) ++
    entry "token_env" (profile.tokenEnv.map .string) ++
    entry "ca_cert" (profile.caCert.map .string) ++
    entry "insecure" (profile.insecure.map .bool) ++
    entry "timeout" (profile.timeout.map fun seconds => .integer seconds)

end Profile

namespace Profiles

/-- The profiles of a table, each of which has to be well formed. -/
def ofMembers? (members : Members Toml) : Option Profiles :=
  members.foldlM (fun profiles (name, toml) =>
    (Profile.ofToml? toml).map fun profile => Profiles.insert name profile profiles) []

end Profiles

namespace Config

def ofToml? (toml : Toml) : Option Config := do
  let fields ← toml.members?
  return {
    defaultProfile := ← optional Toml.text? (fields.get? "default_profile")
    defaults := ← withDefault {} Defaults.ofToml? (fields.get? "defaults")
    profiles := ← withDefault [] (fun toml => toml.members?.bind Profiles.ofMembers?)
      (fields.get? "profiles") }

/-- The table of a configuration. -/
def toToml (config : Config) : Toml :=
  .table
    (entry "default_profile" (config.defaultProfile.map .string) ++
      [("defaults", .table config.defaults.entries),
        ("profiles",
          .table (config.profiles.map fun (name, profile) => (name, .table profile.entries)))])

/-- Reads a document, if there is one, and the variables. -/
def load (document : Option String) (environment : Environment) : Except ConfigError Config :=
  let toml : Option Toml := document.elim (some (.table [])) Toml.parse?
  match toml with
  | none => .error .malformed
  | some toml =>
      let builtIn : Config := {}
      let settings := (builtIn.toToml.overlay toml).overlay (Variable.settings environment)
      match ofToml? settings with
      | some config => .ok config
      | none => .error .malformed

/-- Falls back on the built-in settings when the document or a variable is malformed. -/
def loadOrDefault (document : Option String) (environment : Environment) : Config :=
  match load document environment with
  | .ok config => config
  | .error _ => {}

def pairStatements (entries : List (String × Toml)) : List Statement :=
  entries.map fun (name, value) => .pair [name] value

/-- The lines of the document that holds a configuration. -/
def statements (config : Config) : List Statement :=
  let profiles : List Statement :=
    match config.profiles with
    | [] => [.table ["profiles"]]
    | profiles =>
        profiles.flatMap fun (name, profile) =>
          .table ["profiles", name] :: pairStatements profile.entries
  pairStatements (entry "default_profile" (config.defaultProfile.map .string)) ++
    .table ["defaults"] :: pairStatements config.defaults.entries ++ profiles

/-- The counts of a configuration. -/
def timeouts (config : Config) : List Nat :=
  config.defaults.timeout :: config.profiles.filterMap fun (_, profile) => profile.timeout

/-- The document that holds a configuration; documents hold no counts beyond 63 bits. -/
def save (config : Config) : Except ConfigError String :=
  if config.timeouts.all (· < Decimal.signedLimit) then .ok (Toml.writeStatements config.statements)
  else .error .unserializable

end Config

end ResourceEditor
