import ResourceEditor.Config.Basic
import ResourceEditor.Config.Variable
/-
This file holds the keyring, where the tokens of profiles are kept, and finds the token to use.
-/

namespace ResourceEditor

/-- The entries of a keyring; none when no keyring can be reached. -/
abbrev Keyring := Option (Members String)

namespace Keyring

/-- The entry of a profile's token. -/
def entryName (profile : String) : String := "edgeform:" ++ profile ++ "/token"

def token? (keyring : Keyring) (profile : String) : Option String :=
  keyring.bind fun entries => entries.get? (entryName profile)

def store (keyring : Keyring) (profile token : String) : Except ConfigError Keyring :=
  match keyring with
  | some entries => .ok (some (entries.set (entryName profile) token))
  | none => .error .keyringUnavailable

/-- Removes the entry of a profile, if there is one. -/
def delete (keyring : Keyring) (profile : String) : Except ConfigError Keyring :=
  match keyring with
  | some entries => .ok (some (entries.erase (entryName profile)))
  | none => .error .keyringUnavailable

end Keyring

/-- The token of a profile: the variable that it names, the keyring, or the profile itself, in this
order. -/
def Profile.resolveToken (profile : Profile) (environment : Environment) (keyring : Keyring)
    (name : String) : Except ConfigError String :=
  let exported := profile.tokenEnv.bind environment.get?
  match exported.or ((keyring.token? name).or profile.token) with
  | some token => .ok token
  | none => .error (.noCredentials name)

end ResourceEditor
