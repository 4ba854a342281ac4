import ResourceEditor.Command.Action
import ResourceEditor.Controller.Login
/-
This file finds the controller that a command talks to. What is said on the command line goes before
what the profile says.
-/

namespace ResourceEditor

/-- A client of a controller, and the profile that it was made for. -/
structure Connection where
  client : Client
  profile : String
  url : Url

namespace Config

/-- The names of all profiles for users who look for one. -/
def profileNames (config : Config) : String :=
  if config.profiles.isEmpty then "(none)"
  else String.intercalate ", " (Members.names config.profiles)

/-- The profile to use. One that was not set up will do when the controller is named. -/
def activeProfile (config : Config) (options : GlobalOptions) (configPath : String) :
    Except CommandError Profile :=
  let name := config.profileName options.profile
  match config.profiles.get? name with
  | some profile => .ok profile
  | none =>
      if options.controller.isSome then .ok {}
      else if options.profile.isSome then .error (.profileNotFound name config.profileNames)
      else .error (.noConfig configPath)

end Config

namespace GlobalOptions

def transport (options : GlobalOptions) (profile : Profile) (defaults : Defaults) :
    TransportSettings :=
  let settings := profile.transport defaults
  { trust := if options.insecure then .anyone else settings.trust
    timeout := options.timeout.getD settings.timeout }

/-- Where the controller is. -/
def controllerUrl (options : GlobalOptions) (profile : Profile) (configPath : String) :
    Except CommandError Url :=
  let text := options.controller.getD profile.controller
  if Text.isBlankText text then .error (.noConfig configPath)
  else (Url.parse text).mapError fun _ => .badValue "controller" ("invalid URL: " ++ text)

end GlobalOptions

/-- The connection that the options and the configuration make, with the settings for its client.
Without a token, requests are not signed. -/
def Connection.resolve (options : GlobalOptions) (config : Config) (environment : Environment)
    (keyring : Keyring) (configPath : String) :
    Except CommandError (Connection × TransportSettings) := do
  let name := config.profileName options.profile
  let profile ← config.activeProfile options configPath
  let url ← options.controllerUrl profile configPath
  let token := options.token.or (profile.resolveToken environment keyring name).toOption
  return (⟨⟨url, token⟩, name, url⟩, options.transport profile config.defaults)

namespace Connection

variable {m : Type → Type} [Monad m]

/-- The connection of a command. -/
def connect : Action m Connection := do
  let setting ← read
  let (connection, settings) ← Action.orFail id
    (resolve setting.options (← Action.config) setting.environment (← get).keyring
      setting.configPath)
  let checked ← (settings.check setting.contentOf : m (Except TrustFault Unit))
  Action.orFail (fun fault => .connectionFailed connection.url.render
    (RequestError.tls fault.message).message) checked
  return connection

/-- The error of a request for a resource. -/
def error (connection : Connection) (path : String) (failure : Failure) : CommandError :=
  .ofFailure connection.url.render connection.profile path failure

def fetch (connection : Connection) (path : String) : Action m Record := do
  Action.orFail (connection.error path) (← Action.ask fun carrier =>
    connection.client.fetch carrier path)

/-- The document at a path as the controller has it. -/
def getDocument (connection : Connection) (path : String) : Action m Json := do
  Action.orFail (fun error => connection.error path error.toFailure) (← Action.ask fun carrier =>
    connection.client.exchange carrier .get path none)

end Connection

end ResourceEditor
