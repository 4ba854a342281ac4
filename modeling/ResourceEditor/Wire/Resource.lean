import ResourceEditor.Schema.Resource
import ResourceEditor.Value.Prune
import ResourceEditor.Wire.Layout
/-
This file holds the wire layouts of the resources.
-/

namespace ResourceEditor

namespace WireField

def optional (name : String) (layout : Layout) : WireField := ⟨name, .optional, layout⟩

def required (name : String) (layout : Layout) : WireField := ⟨name, .required, layout⟩

/-- A member that is written even when the form does not have it. -/
def defaulting (name : String) (layout : Layout) (value : Value) : WireField :=
  ⟨name, .default value, layout⟩

/-- A text that is blank by default. -/
def blankText (name : String) : WireField := defaulting name .text (.text "")

/-- A number that is zero by default. -/
def zero (name : String) (bits : Nat) : WireField := defaulting name (.unsigned bits) (.int 0)

/-- A list that is empty by default. -/
def emptyList (name : String) (item : Layout) : WireField :=
  defaulting name (.list item) (.list [])

end WireField

namespace RecordLayout

open WireField

def node : RecordLayout :=
  ⟨"Node", [optional "id" .text, required "name" .text, required "location" .text,
    required "serial" .text]⟩

def nodes : RecordLayout := ⟨"Nodes", [emptyList "nodes" (.record node)]⟩

def nodeInterfacePolicy : RecordLayout := ⟨"NodeInterfacePolicy", [optional "id" .text]⟩

def appKinds : List String := ["container", "vm"]

def portProto : RecordLayout :=
  ⟨"PortProto", [zero "port" 16, optional "protocol" (.choice portProtocolNames)]⟩

def epaFeature : RecordLayout := ⟨"EpaFeature", [blankText "key", blankText "value"]⟩

def app : RecordLayout :=
  ⟨"App", [optional "id" .text, required "name" .text, required "type" (.choice appKinds),
    required "version" .text, required "vendor" .text, optional "description" .text,
    required "cores" (.unsigned 8), required "memory" (.unsigned 32), required "source" .text,
    emptyList "ports" (.record portProto), emptyList "epafeatures" (.record epaFeature)]⟩

def macFilter : RecordLayout := ⟨"MacFilter", [emptyList "mac_addresses" .text]⟩

def ipFilter : RecordLayout :=
  ⟨"IpFilter", [blankText "address", zero "mask" 8, zero "begin_port" 16, zero "end_port" 16,
    defaulting "protocol" (.choice protocolNames) (.text "all")]⟩

def gtpFilter : RecordLayout :=
  ⟨"GtpFilter", [blankText "address", zero "mask" 8, emptyList "imsis" .text]⟩

def trafficSelector : RecordLayout :=
  ⟨"TrafficSelector", [optional "description" .text, optional "mac_filter" (.record macFilter),
    optional "ip_filter" (.record ipFilter), optional "gtp_filter" (.record gtpFilter)]⟩

def macModifier : RecordLayout := ⟨"MacModifier", [blankText "mac_address"]⟩

def ipModifier : RecordLayout := ⟨"IpModifier", [blankText "address", zero "port" 16]⟩

def trafficTarget : RecordLayout :=
  ⟨"TrafficTarget", [optional "description" .text,
    defaulting "action" (.choice actionNames) (.text "accept"),
    optional "mac_modifier" (.record macModifier), optional "ip_modifier" (.record ipModifier)]⟩

def trafficRule : RecordLayout :=
  ⟨"TrafficRule", [optional "description" .text, required "priority" (.unsigned 16),
    optional "source" (.record trafficSelector), optional "destination" (.record trafficSelector),
    optional "target" (.record trafficTarget)]⟩

def trafficPolicy : RecordLayout :=
  ⟨"TrafficPolicy", [optional "id" .text, required "name" .text,
    emptyList "traffic_rules" (.record trafficRule)]⟩

end RecordLayout

def Resource.layout : Resource → RecordLayout
  | .node => .node
  | .nodes => .nodes
  | .nodeInterfacePolicy => .nodeInterfacePolicy
  | .app => .app
  | .trafficPolicy => .trafficPolicy

/-- The form of a resource as the controller takes it, without what was never filled in. -/
def Record.toWire (model : Record) (resource : Resource) : Except WireFault Record :=
  resource.layout.fit model.pruned

end ResourceEditor
