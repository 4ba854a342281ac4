import ResourceEditor.Controller.Url
import ResourceEditor.Members
/-
This file holds the configuration of the editor: profiles of controllers, what holds for all of
them, and the ways in which a configuration can fail a user.
-/

namespace ResourceEditor

inductive ConfigError where
  | invalidUrl (text : String)
  | unknownProfile (name : String)
  | noCredentials (profile : String)
  | keyringUnavailable
  | malformed
  | unserializable
deriving Repr, DecidableEq

def ConfigError.message : ConfigError → String
  | .invalidUrl text => "invalid controller: invalid URL: " ++ text
  | .unknownProfile name => "profile '" ++ name ++ "' not found"
  | .noCredentials profile => "no token stored for profile '" ++ profile ++ "'"
  | .keyringUnavailable => "keyring error: no keyring can be reached"
  | .malformed => "config loading failed"
  | .unserializable => "failed to serialize config"

structure Defaults where
  output : String := "table"
  color : String := "auto"
  insecure : Bool := false
  timeout : Nat := 30
deriving Repr, DecidableEq

/-- How to get to one controller. -/
structure Profile where
  controller : String := ""
  username : Option String := none
  token : Option String := none
  tokenEnv : Option String := none
  caCert : Option String := none
  insecure : Option Bool := none
  timeout : Option Nat := none
deriving Repr, DecidableEq

/-- Profiles with their names, in the order of the names. -/
abbrev Profiles := Members Profile

/-- Puts a profile in its place by name, where it replaces one of the same name. -/
def Profiles.insert (name : String) (profile : Profile) : Profiles → Profiles
  | [] => [(name, profile)]
  | (other, old) :: rest =>
      if name < other then (name, profile) :: (other, old) :: rest
      else if name = other then (name, profile) :: rest
      else (other, old) :: insert name profile rest

structure Config where
  defaultProfile : Option String := some "default"
  defaults : Defaults := {}
  profiles : Profiles := []
deriving Repr, DecidableEq

/-- Whom a client trusts to be the controller. -/
inductive Trust where
  | system
  | authority (path : String)
  | anyone
deriving Repr, DecidableEq

structure TransportSettings where
  trust : Trust
  timeout : Nat
deriving Repr, DecidableEq

namespace Config

/-- The name of the profile to use: a given one, else the default. -/
def profileName (config : Config) (given : Option String) : String :=
  (given.or config.defaultProfile).getD "default"

def profile (config : Config) (name : String) : Except ConfigError Profile :=
  match config.profiles.get? name with
  | some profile => .ok profile
  | none => .error (.unknownProfile name)

end Config

namespace Profile

def url (profile : Profile) : Except ConfigError Url :=
  (Url.parse profile.controller).mapError fun _ => .invalidUrl profile.controller

/-- A profile says for itself what the defaults say for all. -/
def transport (profile : Profile) (defaults : Defaults) : TransportSettings :=
  let trust : Trust :=
    if profile.insecure.getD defaults.insecure then .anyone
    else
      match profile.caCert with
      | some path => .authority path
      | none => .system
  ⟨trust, profile.timeout.getD defaults.timeout⟩

end Profile

end ResourceEditor
