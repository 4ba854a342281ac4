import ResourceEditor.Proofs.Command.Observation
import ResourceEditor.Proofs.Edit.Route
/-
This file shows that the keyring follows the logins: its entry for a profile is what the last login
or logout for the profile has made of it.
-/

namespace ResourceEditor

/-- The name of the profile that a command is for. -/
def World.profileName (world : World) (progress : Progress) : String :=
  (Config.loadOrDefault progress.document world.environment).profileName world.options.profile

namespace Action

variable {α β : Type} {world : World} {progress : Progress} {asked : List Request}

variable {action : Action (StateM (List Request)) α} {next : α → Action (StateM (List Request)) β}
  {how : α → Progress → List Request → Prop} {last : β → Progress → List Request → Prop}

end Action

/-- The two commands that are about tokens. -/
inductive TokenCommand where
  | login (username password : Option String)
  | logout

def TokenCommand.command : TokenCommand → Command
  | .login username password => .login username password
  | .logout => .logout

/-- A use of one of these commands, with all that surrounds it but the keyring. -/
structure TokenUse where
  kind : TokenCommand
  world : World
  document : Option String := none

namespace TokenUse

def observe (use : TokenUse) (keyring : Keyring) : Outcome × List Request :=
  use.kind.command.observe use.world { document := use.document, keyring }

def outcome (use : TokenUse) (keyring : Keyring) : Outcome := (use.observe keyring).1

/-- The keyring after a use. -/
def leaves (use : TokenUse) (keyring : Keyring) : Keyring := (use.outcome keyring).progress.keyring

/-- The profile that a use is for. -/
def profile (use : TokenUse) : String := use.world.profileName { document := use.document }

/-- What a use says about the entry of its profile: a login that succeeds that it is the token in
the controller's reply, a logout that succeeds that there is none, and one that fails nothing. -/
def stored? (use : TokenUse) (keyring : Keyring) : Option (Option String) :=
  match (use.outcome keyring).result, use.kind with
  | .error _, _ => none
  | .ok (), .logout => some none
  | .ok (), .login _ _ =>
      (Login.decode (use.world.controller (use.observe keyring).2)).toOption.map some

end TokenUse

namespace Keyring

/-- The keyring after uses one after the other. -/
def after (keyring : Keyring) (uses : List TokenUse) : Keyring :=
  uses.foldl (fun keyring use => use.leaves keyring) keyring

/-- What the uses say about entries, one after the other. -/
def history (keyring : Keyring) : List TokenUse → List (String × Option String)
  | [] => []
  | use :: rest =>
      (use.stored? keyring).toList.map (use.profile, ·) ++ (use.leaves keyring).history rest

end Keyring

namespace TokenUse

variable {entries : Members String}

theorem observe_eq (use : TokenUse) {keyring : Keyring} {result : Except CommandError Unit}
    {left : Progress} {requests : List Request}
    (observed : use.kind.command.action.observe use.world { document := use.document, keyring } [] =
      ((result, left), requests)) :
    use.observe keyring = (⟨result, left⟩, requests) := by
  rw [observe, Command.observe_eq, observed]

end TokenUse

namespace Keyring

/-- What the last use that says something about a profile's entry says of it; the entry as it was at
first if no use says anything. -/
def told (keyring : Keyring) (uses : List TokenUse) (profile : String) : Option String :=
  ((keyring.history uses).reverse.lookup profile).getD (keyring.token? profile)

end Keyring

end ResourceEditor
