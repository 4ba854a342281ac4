import Mathlib.Data.List.DropRight
import ResourceEditor.Proofs.Controller.Transcript
import ResourceEditor.Proofs.Json.Reading
/-
This file says which requests of a client are signed and with what, whatever has been done with the
client before, and what its logins make of the token that it signs with.
-/

namespace ResourceEditor

/-! Tokens in replies. -/

/-- A document carries a token: it is an array of one text, or an object with one text of that name.
The names of its other members can be read, and of what they are nothing is asked. -/
inductive Login.Carries (token : String) : Json.Tree → Prop where
  | alone {letters : List Json.Letter} (spelled : Json.readText? letters = some token) :
      Carries token (.array [.text letters])
  | named {before after : List (List Json.Letter × Json.Tree)} {name letters : List Json.Letter}
      (named : Json.readText? name = some "token") (spelled : Json.readText? letters = some token)
      (others : ∀ other ∈ before ++ after,
        ∃ text, Json.readText? other.1 = some text ∧ text ≠ "token") :
      Carries token (.object (before ++ (name, .text letters) :: after))

def Login.Holds (text token : String) : Prop :=
  ∃ tree, Json.tree? text = some tree ∧ Carries token tree

namespace Login

/-- The token of a text that can be read as a whole is the one in the document. -/
theorem eq_of_holds {text token : String} {document : Json} (holds : Holds text token)
    (parsed : Json.parse? text = some document) :
    document = .array [.string token] ∨
      ∃ members, document = .object members ∧
        Members.get? members "token" = some (.string token) := by
  obtain ⟨tree, written, carries⟩ := holds
  rw [Json.parse?, written, Option.bind_some] at parsed
  cases carries with
  | alone spelled =>
      simp only [Json.Tree.read?, Json.readElements?, spelled, Option.map_some, Option.bind_some]
        at parsed
      exact .inl (Option.some.inj parsed).symm
  | named named spelled others =>
      rename_i before after name letters
      obtain ⟨pairs, read, rfl⟩ := Option.map_eq_some_iff.mp parsed
      rw [Json.readMembers?_append] at read
      obtain ⟨front, _, read⟩ := Option.bind_eq_some_iff.mp read
      obtain ⟨rest, inside, rfl⟩ := Option.map_eq_some_iff.mp read
      simp only [Json.readMembers?, Json.Tree.read?, named, spelled, Option.map_some,
        Option.bind_some] at inside
      obtain ⟨back, later, rfl⟩ := Option.map_eq_some_iff.mp inside
      refine .inr ⟨_, rfl, Members.get?_collect fun pair member same => ?_⟩
      obtain ⟨other, among, spells⟩ := Json.exists_of_mem_readMembers? later member
      obtain ⟨text, found, unlike⟩ := others other (List.mem_append_right before among)
      rw [spells] at found
      exact unlike ((Option.some.inj found).symm.trans same)

/-- A number that no double can hold does not keep a text from holding a token. -/
example : readToken "\x7b\"token\":\"t\",\"expires\":1e400\x7d" = some (some "t") := by
  decide +kernel

end Login

namespace Client

/-- One use of a client. -/
inductive Use where
  | setToken (token : String)
  | clearToken
  | login (username password : String)
  | logout
  | exchange (method : Method) (path : String) (body : Option Json)

namespace Use

/-- A client and the requests that have been made so far, after one more use. -/
def after (controller : Controller) : Client × List Request → Use → Client × List Request
  | (client, asked), .setToken token => (client.setToken token, asked)
  | (client, asked), .clearToken => (client.clearToken, asked)
  | (client, asked), .login username password =>
      let ended := (client.login controller.carrier username password).run asked
      (ended.1.2, ended.2)
  | (client, asked), .logout => (client.clearToken, asked)
  | (client, asked), .exchange method path body =>
      (client, ((client.exchange controller.carrier method path body).run asked).2)

def run (controller : Controller) (start : Client × List Request) (uses : List Use) :
    Client × List Request :=
  uses.foldl (after controller) start

/-- What a use stores in place of the token: a login stores the token that it answers, and a use
that stores nothing leaves the token as it is. -/
def stored? (controller : Controller) : Client × List Request → Use → Option (Option String)
  | _, .setToken token => some (some token)
  | _, .clearToken => some none
  | (client, asked), .login username password =>
      ((client.login controller.carrier username password).run asked).1.1.toOption.map some
  | _, .logout => some none
  | _, .exchange .. => none

/-- What the uses store, one after the other. -/
def history (controller : Controller) :
    Client × List Request → List Use → List (Option String)
  | _, [] => []
  | state, use :: rest =>
      (use.stored? controller state).toList ++ history controller (use.after controller state) rest

end Use

variable {controller : Controller}

namespace Use

variable {state : Client × List Request}

end Use

end Client
end ResourceEditor
