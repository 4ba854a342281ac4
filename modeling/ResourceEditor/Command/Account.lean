import ResourceEditor.Command.Connection
import ResourceEditor.Config.Display
/-
This file holds the commands for profiles and for the tokens that belong to them.
-/

namespace ResourceEditor

/-- The profile with what the command line says about it. -/
def Profile.changed (profile : Profile) (url : String) (username : Option String)
    (options : GlobalOptions) : Profile :=
  { profile with
    controller := url
    username := username.or profile.username
    insecure := if options.insecure then some true else profile.insecure
    timeout := options.timeout.or profile.timeout }

/-- The configuration after a profile is set up. A profile that is the only one becomes the default
one. -/
def Config.withProfile (config : Config) (options : GlobalOptions) (url : String)
    (username : Option String) (setDefault : Bool) : Config :=
  let name := config.profileName options.profile
  let existing := (config.profiles.get? name).getD {}
  let profiles := config.profiles.insert name (existing.changed url username options)
  { config with
    profiles
    defaultProfile :=
      if setDefault || profiles.length == 1 then some name else config.defaultProfile }

namespace Action

variable {m : Type → Type} [Monad m]

def activeName : Action m String := do
  return (← config).profileName (← options).profile

/-- Something that was not given. It could be asked for at a terminal, but there is none. -/
def given (value : Option String) : Action m String :=
  match value with
  | some text => pure text
  | none => throw (.badValue "interactive" "prompt failed: IO error: not a terminal")

/-- Asks the controller for a token and keeps it in the keyring. -/
def login (username password : Option String) : Action m Unit := do
  let profile := (← config).profiles.get? (← activeName)
  let connection ← Connection.connect
  let username ← given (username.or (profile.bind Profile.username))
  let password ← given password
  if username.isEmpty || password.isEmpty then
    throw (.badValue "credentials" "username and password cannot be empty")
  let (answer, _) ← ask fun carrier => connection.client.login carrier username password
  let token ← orFail (fun error => connection.error Login.path error.toFailure) answer
  let keyring ← orFail .config ((← get).keyring.store connection.profile token)
  modify fun progress => { progress with keyring }
  tellSuccess ("Logged in to " ++ connection.url.render ++ " as " ++ username)

def logout : Action m Unit := do
  let name ← activeName
  let keyring ← orFail .ofConfigError ((← get).keyring.delete name)
  modify fun progress => { progress with keyring }
  tellSuccess ("Removed stored token for profile '" ++ name ++ "'")

/-- Sets up a profile and saves the configuration. -/
def initConfig (url username : Option String) (setDefault : Bool) : Action m Unit := do
  let config ← config
  let options ← options
  match url with
  | none => throw (.badValue "url" "--url is required when not running interactively")
  | some url =>
      if (Url.parse url).toOption.isNone then throw (.badValue "url" ("invalid URL: " ++ url))
      let document ← orFail .ofConfigError
        (config.withProfile options url username setDefault).save
      modify fun progress => { progress with document := some document }
      let name := config.profileName options.profile
      tellSuccess ("Profile '" ++ name ++ "' saved to " ++ (← read).configPath)
      tell ("   Next: edgeform login --profile " ++ name)

def showConfig : Action m Unit := do present (← config).view

def showConfigPath : Action m Unit := do print (← read).configPath

end Action

end ResourceEditor
