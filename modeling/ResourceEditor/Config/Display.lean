import ResourceEditor.Config.Basic
import ResourceEditor.Json.Basic
import ResourceEditor.Layout.View
/-
This file shows configurations. Tokens are kept secret: what is shown only tells which profiles have
one.
-/

namespace ResourceEditor

/-- What stands for a token. -/
def tokenMask : String := "****"

namespace Profile

def redacted (profile : Profile) : Profile :=
  { profile with token := profile.token.map fun _ => tokenMask }

def toJson (profile : Profile) : Json :=
  let text (value : Option String) : Json := value.elim .null .string
  .object
    [("controller", .string profile.controller), ("username", text profile.username),
      ("token", text profile.token), ("token_env", text profile.tokenEnv),
      ("ca_cert", text profile.caCert), ("insecure", profile.insecure.elim .null .bool),
      ("timeout", profile.timeout.elim .null fun seconds => .int seconds)]

/-- A setting with its text between quotes, just as it is. -/
def quotedLine (name text : String) : String := name ++ " = \"" ++ text ++ "\""

/-- The settings line by line. Of a token only the mask is written. -/
def lines (profile : Profile) : List String :=
  [quotedLine "controller" profile.controller] ++
    (profile.username.toList.map (quotedLine "username")) ++
    (profile.token.toList.map fun _ => quotedLine "token" tokenMask) ++
    (profile.tokenEnv.toList.map (quotedLine "token_env")) ++
    (profile.caCert.toList.map (quotedLine "ca_cert")) ++
    (profile.insecure.toList.map fun flag => "insecure = " ++ toString flag) ++
    (profile.timeout.toList.map fun seconds => "timeout = " ++ toString seconds)

end Profile

namespace Config

open Profile (quotedLine)

def redacted (config : Config) : Config :=
  { config with profiles := config.profiles.map fun (name, profile) => (name, profile.redacted) }

def toJson (config : Config) : Json :=
  let defaults := config.defaults
  .object
    [("default_profile", config.defaultProfile.elim .null .string),
      ("defaults", .object
        [("output", .string defaults.output), ("color", .string defaults.color),
          ("insecure", .bool defaults.insecure), ("timeout", .int defaults.timeout)]),
      ("profiles", .object (config.profiles.map fun (name, profile) => (name, profile.toJson)))]

/-- The configuration line by line, with a blank line before each part. -/
def lines (config : Config) : List String :=
  let defaults := config.defaults
  config.defaultProfile.toList.map (quotedLine "default_profile") ++
    ["", "[defaults]", quotedLine "output" defaults.output, quotedLine "color" defaults.color,
      "insecure = " ++ toString defaults.insecure, "timeout = " ++ toString defaults.timeout] ++
    config.profiles.flatMap fun (name, profile) =>
      "" :: ("[profiles." ++ name ++ "]") :: profile.lines

def text (config : Config) : String := String.join (config.lines.map (· ++ "\n"))

/-- The configuration without its tokens. The text is made from the configuration itself, the
document from a copy that has only masks. -/
def view (config : Config) : View where
  drawn := config.text
  document := config.redacted.toJson
  plain := config.text

end Config

end ResourceEditor
