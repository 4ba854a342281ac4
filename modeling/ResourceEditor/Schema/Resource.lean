import ResourceEditor.Schema.Catalog
import ResourceEditor.Text.Blank
/-
This file holds the kinds of resources: their names, their schemas and where the controller keeps
them.
-/

namespace ResourceEditor

inductive Resource where
  | node
  | nodes
  | nodeInterfacePolicy
  | app
  | trafficPolicy
deriving Repr, DecidableEq, Inhabited

namespace Resource

def all : List Resource := [.node, .nodes, .nodeInterfacePolicy, .app, .trafficPolicy]

def name : Resource → String
  | .node => "node"
  | .nodes => "nodes"
  | .nodeInterfacePolicy => "node-interface-policy"
  | .app => "app"
  | .trafficPolicy => "traffic-policy"

/-- The resource of exactly this name. -/
def ofExactName? (text : String) : Option Resource :=
  all.find? fun resource => resource.name == text

/-- Reads a name as a user writes it: blanks around it and the case of ASCII letters do not count,
and an underscore stands for a hyphen. -/
def ofName? (text : String) : Option Resource :=
  let spelled := (Text.asciiLower (Text.trim text)).map fun c => if c == '_' then '-' else c
  ofExactName? spelled

def schema : Resource → Schema
  | .node => Schema.node
  | .nodes => Schema.nodes
  | .nodeInterfacePolicy => Schema.nodeInterfacePolicy
  | .app => Schema.app
  | .trafficPolicy => Schema.trafficPolicy

/-- Where the controller keeps the resources of a kind. A policy has its place at an interface. -/
def collectionPath? : Resource → Option String
  | .node => some "/nodes"
  | .nodes => some "/nodes"
  | .app => some "/apps"
  | .trafficPolicy => some "/traffic_policies"
  | .nodeInterfacePolicy => none

def path? (resource : Resource) (id : String) : Option String :=
  resource.collectionPath?.map fun collection => collection ++ "/" ++ id

end Resource

/-- Where the controller keeps the policy of an interface. -/
def interfacePolicyPath (node interface : String) : String :=
  "/nodes/" ++ node ++ "/interfaces/" ++ interface ++ "/policy"

end ResourceEditor
