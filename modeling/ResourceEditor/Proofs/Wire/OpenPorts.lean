import ResourceEditor.Proofs.Wire.Defaults
/-
This file says which ports a valid form may leave open so that it is no longer valid on the wire,
where zero stands for them.
-/

namespace ResourceEditor

section Policy

/-- The way to a part of one side of a rule of a policy. -/
def rulePart (position : Nat) (side part : String) : Path :=
  [.field "traffic_rules", .index position, .field side, .field part]

/-- What is wrong with a policy in which zero stands for each missing port: the port to which
packets are sent, and the end of a port range that begins above zero. -/
inductive Record.LeavesPort (model : Record) : Violation → Prop where
  | modifier {position : Nat} {part : Value}
      (there : model.at? (rulePart position "target" "ip_modifier") = some part)
      (absent : part.step? (.field "port") = none) :
      LeavesPort model ⟨(rulePart position "target" "ip_modifier").child "port",
        .outOfRange "Port" (some 1) (some 65535)⟩
  | filter {position : Nat} {side : String} {part : Value} {number : Int64}
      (known : side ∈ ["source", "destination"])
      (there : model.at? (rulePart position side "ip_filter") = some part)
      (set : part.step? (.field "begin_port") = some (.int number)) (positive : 0 < number)
      (absent : part.step? (.field "end_port") = none) :
      LeavesPort model ⟨(rulePart position side "ip_filter").child "begin_port",
        .above "Begin Port" "End Port"⟩

/-- A weak spot of a part of a rule. -/
def WeakSpot.inRule (side part : String) (spot : WeakSpot) : WeakSpot :=
  .member "traffic_rules" (.entry (.member side (.member part spot)))

theorem WeakSpot.reports_inRule_iff {model : Record} {violation : Violation} {side part : String}
    {spot : WeakSpot} :
    (inRule side part spot).Reports [] (.record model) violation ↔
      ∃ position below, model.at? (rulePart position side part) = some below ∧
        spot.Reports (rulePart position side part) below violation := by
  simp only [inRule, reports_member_iff, reports_entry_iff, rulePart, Record.at?, Value.at?_cons,
    Value.at?_nil, Option.bind_eq_some_iff, Option.some.injEq, exists_eq_right]
  constructor
  · rintro ⟨rules, first, position, rule, second, own, third, below, fourth, reports⟩
    exact ⟨position, below, ⟨rules, first, rule, second, own, third, fourth⟩, reports⟩
  · rintro ⟨position, below, ⟨rules, first, rule, second, own, third, fourth⟩, reports⟩
    exact ⟨rules, first, position, rule, second, own, third, below, fourth, reports⟩

/-- A policy has three weak spots. -/
theorem weakSpots_trafficPolicy :
    Schema.trafficPolicy.weakSpots RecordLayout.trafficPolicy =
      [.inRule "source" "ip_filter"
          (.unpaired "begin_port" "end_port" (.above "Begin Port" "End Port")),
        .inRule "destination" "ip_filter"
          (.unpaired "begin_port" "end_port" (.above "Begin Port" "End Port")),
        .inRule "target" "ip_modifier"
          (.unset "port" (.outOfRange "Port" (some 1) (some 65535)))] :=
  rfl

/-- No other resource has a weak spot. -/
theorem Resource.weakSpots_eq_nil {resource : Resource} (other : resource ≠ .trafficPolicy) :
    resource.schema.weakSpots resource.layout = [] := by
  cases resource with
  | trafficPolicy => exact absurd rfl other
  | _ => rfl

theorem leavesPort_iff {model : Record} {violation : Violation} :
    (∃ spot ∈ Schema.trafficPolicy.weakSpots RecordLayout.trafficPolicy,
      spot.Reports [] (.record model) violation) ↔ model.LeavesPort violation := by
  simp only [weakSpots_trafficPolicy, List.mem_cons, List.not_mem_nil, or_false,
    exists_eq_or_imp, exists_eq_left, WeakSpot.reports_inRule_iff, WeakSpot.reports_unset_iff,
    WeakSpot.reports_unpaired_iff]
  constructor
  · rintro (⟨_, _, there, ⟨_, set, positive, absent⟩, rfl⟩ |
      ⟨_, _, there, ⟨_, set, positive, absent⟩, rfl⟩ | ⟨_, _, there, absent, rfl⟩)
    · exact .filter (by simp) there set positive absent
    · exact .filter (by simp) there set positive absent
    · exact .modifier there absent
  · intro leaves
    cases leaves with
    | modifier there absent => exact .inr (.inr ⟨_, _, there, absent, rfl⟩)
    | filter known there set positive absent =>
        obtain rfl | rfl : _ = "source" ∨ _ = "destination" := by simpa using known
        · exact .inl ⟨_, _, there, ⟨_, set, positive, absent⟩, rfl⟩
        · exact .inr (.inl ⟨_, _, there, ⟨_, set, positive, absent⟩, rfl⟩)

end Policy

namespace Record

/-- What a valid form is on the wire is read back as it is, and all that is wrong with it then is
that zero stands for the ports that a policy leaves open. -/
theorem violations_toWire (resource : Resource) {model wire : Record}
    (maps : model.isDistinct = true) (valid : model.isValid resource.schema = true)
    (converts : model.toWire resource = .ok wire) :
    ofJson wire.toJson = .ok wire ∧ ∀ violation,
      violation ∈ wire.violations resource.schema ↔
        resource = .trafficPolicy ∧ model.pruned.LeavesPort violation := by
  refine ⟨ofJson_toWire converts, fun violation => ?_⟩
  have spots := resource.schema.reportsSpots true resource.layout [] model wire resource.meets
    resource.isLenient maps (.inl (List.isEmpty_iff.mp valid)) converts violation
  rw [Record.violations, spots]
  by_cases policy : resource = .trafficPolicy
  · subst policy
    rw [Resource.schema, Resource.layout, leavesPort_iff]
    simp [pruned]
  · rw [Resource.weakSpots_eq_nil policy]
    simp [policy]

/-- A policy that changes the address of packets and leaves their port as it is. -/
def portlessPolicy : Record :=
  [("name", .text "p"), ("traffic_rules", .list [.record [("priority", .int 1),
    ("target", .record [("ip_modifier", .record [("address", .text "10.0.0.1")])])]])]

/-- On the wire it sends packets to port zero. -/
def zeroPortPolicy : Record :=
  [("name", .text "p"), ("traffic_rules", .list [.record [("priority", .int 1),
    ("target", .record [("action", .text "accept"),
      ("ip_modifier", .record [("address", .text "10.0.0.1"), ("port", .int 0)])])]])]

theorem portlessPolicy_violations_toWire :
    portlessPolicy.isDistinct = true ∧ portlessPolicy.isValid Schema.trafficPolicy = true ∧
      portlessPolicy.toWire .trafficPolicy = .ok zeroPortPolicy ∧
      ofJson zeroPortPolicy.toJson = .ok zeroPortPolicy ∧
      ⟨(rulePart 0 "target" "ip_modifier").child "port",
        .outOfRange "Port" (some 1) (some 65535)⟩ ∈
          zeroPortPolicy.violations Schema.trafficPolicy := by
  have maps : portlessPolicy.isDistinct = true := by decide
  have valid : portlessPolicy.isValid Schema.trafficPolicy = true := by decide
  have converts : portlessPolicy.toWire .trafficPolicy = .ok zeroPortPolicy := rfl
  obtain ⟨read, reported⟩ := violations_toWire .trafficPolicy maps valid converts
  exact ⟨maps, valid, converts, read, (reported _).mpr ⟨rfl, .modifier rfl rfl⟩⟩

/-- Not every valid form is valid on the wire. -/
theorem valid_invalid_toWire :
    ¬∀ (resource : Resource) (model wire again : Record), model.isDistinct = true →
      model.isValid resource.schema = true → model.toWire resource = .ok wire →
      ofJson wire.toJson = .ok again → again.isValid resource.schema = true := by
  intro always
  have valid : zeroPortPolicy.isValid Schema.trafficPolicy = true :=
    always .trafficPolicy portlessPolicy zeroPortPolicy zeroPortPolicy (by decide) (by decide) rfl
      rfl
  revert valid
  decide

end Record

end ResourceEditor
