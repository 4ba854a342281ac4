import ResourceEditor.Command.Account
import ResourceEditor.Command.Inspection
/-
This file runs commands.
-/

namespace ResourceEditor

variable {m : Type → Type} [Monad m]

namespace Command

def action : Command → Action m Unit
  | .listSchemas => Action.present Resource.overview
  | .showSchema resource => Action.showSchema resource
  | .validate resource file => Action.validate resource file
  | .createApp options => Action.createApp options
  | .createPolicy edit => Action.createPolicy edit
  | .showResource resource id => Action.showResource resource id
  | .updateResource resource id edit => Action.updateResource resource id edit
  | .listNodes => Action.listNodes
  | .showInterfacePolicy node interface => Action.showInterfacePolicy node interface
  | .login username password => Action.login username password
  | .logout => Action.logout
  | .initConfig url username setDefault => Action.initConfig url username setDefault
  | .showConfig => Action.showConfig
  | .showConfigPath => Action.showConfigPath

end Command

/-- How a command ended and what it left behind. -/
structure Outcome where
  result : Except CommandError Unit
  progress : Progress

def Outcome.exitCode (outcome : Outcome) : Nat :=
  match outcome.result with
  | .ok () => 0
  | .error error => error.exitCode

/-- Runs a command from a state of the configuration and the keyring. -/
def Command.run (command : Command) (setting : Setting m) (progress : Progress) : m Outcome := do
  let (result, progress) ← ((command.action.run setting).run.run progress)
  return ⟨result, progress⟩

end ResourceEditor
