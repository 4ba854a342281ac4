import ResourceEditor.Schema.Basic
/-
This file holds the schemas of the resources and of the parts that they share.
-/

namespace ResourceEditor

def protocolNames : List String := ["all", "tcp", "udp", "icmp", "sctp"]

def portProtocolNames : List String := ["tcp", "udp", "sctp"]

def actionNames : List String := ["accept", "reject", "drop"]

namespace Field

def ipAddress (title : String) : Field := (string title).withPattern .ipv4

def macAddress : Field := (string "MAC Address").withPattern .mac

def port (title : String) : Field := (number title).withRange 0 65535

def mask : Field := (number "Mask").withRange 0 128

end Field

namespace Schema

def macFilter : Schema :=
  (empty "MAC Filter").withField "mac_addresses" (.list "MAC Addresses" .macAddress)

def ipFilter : Schema :=
  empty "IP Filter"
    |>.withField "address" (.ipAddress "IP Address")
    |>.withField "mask" .mask
    |>.withField "begin_port" (.port "Begin Port")
    |>.withField "end_port" (.port "End Port")
    |>.withField "protocol" (.oneOf "Protocol" protocolNames)
    |>.withOrder "begin_port" "end_port"

def gtpFilter : Schema :=
  empty "GTP Filter"
    |>.withField "address" (.ipAddress "Address")
    |>.withField "mask" .mask
    |>.withField "imsis" (.list "IMSIs" ((Field.string "IMSI").withPattern .imsi))

/-- Which packets a rule is for, by source or by destination; the filters may be combined. -/
def trafficSelector (title : String) : Schema :=
  empty title
    |>.withField "description" (.string "Description")
    |>.withField "mac_filter" (.composite "MAC Filter" macFilter)
    |>.withField "ip_filter" (.composite "IP Filter" ipFilter)
    |>.withField "gtp_filter" (.composite "GTP Filter" gtpFilter)

def macModifier : Schema := (empty "MAC Modifier").withField "mac_address" .macAddress

def ipModifier : Schema :=
  empty "IP Modifier"
    |>.withField "address" (.ipAddress "IP Address")
    |>.withField "port" ((Field.number "Port").withRange 1 65535)

/-- What a rule does with the packets. -/
def trafficTarget : Schema :=
  empty "Target"
    |>.withField "description" (.string "Description")
    |>.withField "action" ((Field.oneOf "Action" actionNames).withDefault "accept")
    |>.withField "mac_modifier" (.composite "MAC Modifier" macModifier)
    |>.withField "ip_modifier" (.composite "IP Modifier" ipModifier)

def trafficRule : Schema :=
  empty "Traffic Rule"
    |>.withField "description" (.string "Description")
    |>.withRequired "priority" ((Field.number "Priority").withRange 1 65535)
    |>.withField "source" (.composite "Source" (trafficSelector "Source"))
    |>.withField "destination" (.composite "Destination" (trafficSelector "Destination"))
    |>.withField "target" (.composite "Target" trafficTarget)

def portEntry : Schema :=
  empty "Port"
    |>.withField "port" (.port "Port")
    |>.withField "protocol" (.oneOf "Protocol" portProtocolNames)

def epaFeatureEntry : Schema :=
  empty "EPA Feature"
    |>.withField "key" (.string "Key")
    |>.withField "value" (.string "Value")

def node : Schema :=
  empty "Node"
    |>.withField "id" (Field.string "ID").asReadOnly
    |>.withRequired "name" (.string "Name")
    |>.withRequired "location" (.string "Location")
    |>.withRequired "serial" (.string "Serial")

def nodes : Schema := (empty "Nodes").withField "nodes" (.list "Nodes" (.composite "Node" node))

def nodeInterfacePolicy : Schema :=
  (empty "Node Interface Policy").withField "id" (Field.string "ID").asReadOnly

def app : Schema :=
  empty "App"
    |>.withField "id" (Field.string "ID").asReadOnly
    |>.withRequired "name" (.string "Name")
    |>.withRequired "type" (.oneOf "Type" ["container", "vm"])
    |>.withRequired "version" (.string "Version")
    |>.withRequired "vendor" (.string "Vendor")
    |>.withField "description" (.string "Description")
    |>.withRequired "cores" ((Field.number "Cores").withRange 1 8)
    |>.withRequired "memory" ((Field.number "Memory (MB)").withRange 1 16384)
    |>.withRequired "source" (.string "Source")
    |>.withField "ports" (.dynamicList "Ports" (.composite "Port" portEntry))
    |>.withField "epafeatures"
      (.dynamicList "EPA Features" (.composite "EPA Feature" epaFeatureEntry))

def trafficPolicy : Schema :=
  empty "Traffic Policy"
    |>.withField "id" (Field.string "ID").asReadOnly
    |>.withRequired "name" (.string "Name")
    |>.withRequired "traffic_rules"
      (.list "Traffic Rules" (.composite "Traffic Rule" trafficRule))

/-- The schemas that can be named one by one. -/
def catalog : Members Schema :=
  [("mac_filter", macFilter), ("ip_filter", ipFilter), ("gtp_filter", gtpFilter),
    ("traffic_selector", trafficSelector "Selector"), ("mac_modifier", macModifier),
    ("ip_modifier", ipModifier), ("traffic_target", trafficTarget),
    ("traffic_rule", trafficRule), ("port_entry", portEntry),
    ("epa_feature_entry", epaFeatureEntry), ("node", node)]

end Schema

end ResourceEditor
