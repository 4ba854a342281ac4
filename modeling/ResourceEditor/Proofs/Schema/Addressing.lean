import ResourceEditor.Schema.Resource
/-
This file says which of the controller's paths are the same. A name goes into a path as it is, so a
slash in a name parts it.
-/

namespace ResourceEditor

open Text

/-- A text is split on both sides of a separator. -/
theorem Text.splitAll_around (separator : Char) (first rest : List Char) :
    splitAll separator (first ++ separator :: rest) =
      splitAll separator first ++ splitAll separator rest := by
  induction first with
  | nil =>
      rw [List.nil_append, splitAll_cons, if_pos rfl]
      rfl
  | cons c first ih =>
      rw [List.cons_append, splitAll_cons, splitAll_cons, ih]
      by_cases same : c = separator
      · rw [if_pos same, if_pos same, List.cons_append]
      · rw [if_neg same, if_neg same]
        obtain whole | ⟨before, after, _, parts⟩ := splitAll_cases separator first
        · rw [whole]
          rfl
        · rw [parts]
          rfl

/-- The parts of a path between its slashes. -/
def pathParts (path : String) : List (List Char) := splitAll '/' path.toList

theorem pathParts_below (first rest : String) :
    pathParts (first ++ "/" ++ rest) = pathParts first ++ pathParts rest := by
  rw [pathParts, String.toList_append, String.toList_append, List.append_assoc]
  exact splitAll_around '/' first.toList rest.toList

/-- A name without a slash. -/
def IsPlainName (name : String) : Prop := '/' ∉ name.toList

theorem pathParts_plain {name : String} (plain : IsPlainName name) :
    pathParts name = [name.toList] :=
  splitAll_of_not_mem plain

theorem length_pathParts_eq_one {name : String} :
    (pathParts name).length = 1 ↔ IsPlainName name := by
  constructor
  · intro single member
    obtain ⟨before, after, whole⟩ := List.append_of_mem member
    rw [pathParts, whole, splitAll_around, List.length_append] at single
    have some (text : List Char) : 0 < (splitAll '/' text).length := by
      obtain same | ⟨_, _, _, same⟩ := splitAll_cases '/' text <;> rw [same] <;> simp
    have := some before
    have := some after
    omega
  · intro plain
    rw [pathParts_plain plain, List.length_singleton]

/-- What a path stands for at the controller. -/
inductive Endpoint where
  | collection (resource : Resource)
  | single (resource : Resource) (id : String)
  | policy (node interface : String)

namespace Endpoint

def path? : Endpoint → Option String
  | .collection resource => resource.collectionPath?
  | .single resource id => resource.path? id
  | .policy node interface => some (interfacePolicyPath node interface)

/-- The names that are given for an endpoint have no slashes. -/
def IsPlain : Endpoint → Prop
  | .collection _ => True
  | .single _ id => IsPlainName id
  | .policy node interface => IsPlainName node ∧ IsPlainName interface

/-- Two endpoints are the same but for resources that share a collection. -/
def Same : Endpoint → Endpoint → Prop
  | .collection resource, .collection other => resource.collectionPath? = other.collectionPath?
  | .single resource id, .single other id' =>
      resource.collectionPath? = other.collectionPath? ∧ id = id'
  | .policy node interface, .policy node' interface' => node = node' ∧ interface = interface'
  | _, _ => False

end Endpoint

theorem Resource.path?_eq {resource : Resource} {id path : String} :
    resource.path? id = some path ↔
      ∃ collection, resource.collectionPath? = some collection ∧
        path = collection ++ "/" ++ id := by
  rw [path?, Option.map_eq_some_iff]
  exact exists_congr fun _ => and_congr_right fun _ => eq_comm

/-- A collection has a name below the root. -/
theorem Resource.pathParts_collection {resource : Resource} {collection : String}
    (keeps : resource.collectionPath? = some collection) :
    ∃ name, collection = "/" ++ name ∧ IsPlainName name := by
  cases resource <;> cases keeps
  · exact ⟨"nodes", rfl, by unfold IsPlainName; decide⟩
  · exact ⟨"nodes", rfl, by unfold IsPlainName; decide⟩
  · exact ⟨"apps", rfl, by unfold IsPlainName; decide⟩
  · exact ⟨"traffic_policies", rfl, by unfold IsPlainName; decide⟩

theorem pathParts_policy (node interface : String) :
    pathParts (interfacePolicyPath node interface) =
      ["".toList, "nodes".toList] ++ pathParts node ++ ["interfaces".toList] ++
        pathParts interface ++ ["policy".toList] := by
  have spelled : interfacePolicyPath node interface =
      "/nodes" ++ "/" ++ node ++ "/" ++ "interfaces" ++ "/" ++ interface ++ "/" ++ "policy" := by
    rw [interfacePolicyPath, (by decide : "/nodes/" = "/nodes" ++ "/"),
      (by decide : "/interfaces/" = "/" ++ "interfaces" ++ "/"),
      (by decide : "/policy" = "/" ++ "policy")]
    simp only [String.append_assoc]
  rw [spelled]
  simp only [pathParts_below]
  rfl

namespace Endpoint

/-- The parts of a plain endpoint's path are the names of what leads to it. -/
theorem path?_parts {endpoint : Endpoint} {path : String} (plain : endpoint.IsPlain)
    (leads : endpoint.path? = some path) :
    match endpoint with
    | .collection _ => ∃ name, path = "/" ++ name ∧ pathParts path = [[], name.toList]
    | .single resource id => ∃ name, resource.collectionPath? = some ("/" ++ name) ∧
        pathParts path = [[], name.toList, id.toList]
    | .policy node interface => pathParts path =
        [[], "nodes".toList, node.toList, "interfaces".toList, interface.toList, "policy".toList]
    := by
  have below {name : String} (plain : IsPlainName name) :
      pathParts ("/" ++ name) = [[], name.toList] := by
    have parts := pathParts_below "" name
    rw [pathParts_plain plain, String.empty_append] at parts
    exact parts
  cases endpoint with
  | collection resource =>
      obtain ⟨name, rfl, plain⟩ := Resource.pathParts_collection leads
      exact ⟨name, rfl, below plain⟩
  | single resource id =>
      obtain ⟨collection, keeps, rfl⟩ := Resource.path?_eq.mp leads
      obtain ⟨name, rfl, plainName⟩ := Resource.pathParts_collection keeps
      refine ⟨name, keeps, ?_⟩
      rw [pathParts_below, below plainName, pathParts_plain plain]
      rfl
  | policy node interface =>
      cases leads
      rw [pathParts_policy, pathParts_plain plain.1, pathParts_plain plain.2]
      rfl

/-- As long as no name has a slash, a path leads to one endpoint. -/
theorem same_of_path? {endpoint other : Endpoint} {path : String} (plain : endpoint.IsPlain)
    (plainOther : other.IsPlain) (leads : endpoint.path? = some path)
    (leadsOther : other.path? = some path) : endpoint.Same other := by
  have parts := path?_parts plain leads
  have others := path?_parts plainOther leadsOther
  cases endpoint <;> cases other <;> dsimp only at parts others
  case collection.collection => exact leads.trans leadsOther.symm
  case single.single resource id other id' =>
    obtain ⟨name, keeps, parts⟩ := parts
    obtain ⟨name', keeps', others⟩ := others
    simp only [parts, List.cons.injEq, true_and, and_true] at others
    rw [String.toList_inj, String.toList_inj] at others
    exact ⟨by rw [keeps, keeps', others.1], others.2⟩
  case policy.policy =>
    simp only [parts, List.cons.injEq, true_and, and_true] at others
    rw [String.toList_inj, String.toList_inj] at others
    exact others
  case collection.single =>
    obtain ⟨⟨_, _, parts⟩, ⟨_, _, others⟩⟩ := And.intro parts others
    cases (congrArg List.length (parts.symm.trans others) : 2 = 3)
  case single.collection =>
    obtain ⟨⟨_, _, parts⟩, ⟨_, _, others⟩⟩ := And.intro parts others
    cases (congrArg List.length (parts.symm.trans others) : 3 = 2)
  case collection.policy =>
    obtain ⟨_, _, parts⟩ := parts
    cases (congrArg List.length (parts.symm.trans others) : 2 = 6)
  case policy.collection =>
    obtain ⟨_, _, others⟩ := others
    cases (congrArg List.length (parts.symm.trans others) : 6 = 2)
  case single.policy =>
    obtain ⟨_, _, parts⟩ := parts
    cases (congrArg List.length (parts.symm.trans others) : 3 = 6)
  case policy.single =>
    obtain ⟨_, _, others⟩ := others
    cases (congrArg List.length (parts.symm.trans others) : 6 = 3)

end Endpoint

/-- A node and an interface that give the same path as others whose node is shorter: what leads from
a node to its interfaces stands twice in the path. -/
def Shifted (node interface node' interface' : String) : Prop :=
  (node' = node ++ "/interfaces" ∧ interface = "interfaces/" ++ interface') ∨
    ∃ between, node' = node ++ "/interfaces/" ++ between ∧
      interface = between ++ "/interfaces/" ++ interface'

/-- Between equal texts on both sides of an inner text, that text stands in one of three ways. -/
theorem shifted_of_eq {first rest rest' : List Char}
    (same : "/interfaces/".toList ++ rest = first ++ ("/interfaces/".toList ++ rest')) :
    (first = [] ∧ rest = rest') ∨
      (first = "/interfaces".toList ∧ rest = "interfaces/".toList ++ rest') ∨
      ∃ between, first = "/interfaces/".toList ++ between ∧
        rest = between ++ ("/interfaces/".toList ++ rest') := by
  obtain ⟨between, longer, same⟩ | ⟨overlap, inner, same⟩ := List.append_eq_append_iff.mp same
  · exact .inr (.inr ⟨between, longer, same⟩)
  · cases overlap with
    | nil => exact .inr (.inr ⟨[], by rw [inner, List.append_nil, List.append_nil], same.symm⟩)
    | cons c overlap =>
        obtain rfl : '/' = c := (List.cons.inj same).1
        -- The inner text has two slashes, so the other one starts at the first or at the last.
        have starts : "/interfaces/".toList[first.length]? = some '/' := by
          rw [inner, List.getElem?_append_right (Nat.le_refl _), Nat.sub_self]
          rfl
        have taken : first = "/interfaces/".toList.take first.length := by
          rw [inner, List.take_left']
          rfl
        have dropped : '/' :: overlap = "/interfaces/".toList.drop first.length := by
          rw [inner, List.drop_left']
          rfl
        have short : first.length < "/interfaces/".toList.length :=
          (List.getElem?_eq_some_iff.mp starts).1
        have places : ∀ place < "/interfaces/".toList.length,
            "/interfaces/".toList[place]? = some '/' → place = 0 ∨ place = 11 := by decide
        obtain none | last := places first.length short starts
        · refine .inl ⟨List.eq_nil_of_length_eq_zero none, ?_⟩
          rw [dropped, none] at same
          exact (List.append_cancel_left same).symm
        · refine .inr (.inl ⟨by rw [taken, last]; rfl, ?_⟩)
          rw [dropped, last] at same
          exact (List.cons.inj same).2.symm

theorem toList_interfacePolicyPath (node interface : String) :
    (interfacePolicyPath node interface).toList = "/nodes/".toList ++ (node.toList ++
      ("/interfaces/".toList ++ interface.toList)) ++ "/policy".toList := by
  simp only [interfacePolicyPath, String.toList_append, List.append_assoc]

/-- The path of an interface's policy tells the node and the interface, unless what leads from a
node to its interfaces stands in one of the two. -/
theorem interfacePolicyPath_eq_iff (node interface node' interface' : String) :
    interfacePolicyPath node interface = interfacePolicyPath node' interface' ↔
      (node = node' ∧ interface = interface') ∨ Shifted node interface node' interface' ∨
        Shifted node' interface' node interface := by
  constructor
  · have longer {node interface node' interface' : String} {first : List Char}
        (more : node'.toList = node.toList ++ first)
        (same : "/interfaces/".toList ++ interface.toList =
          first ++ ("/interfaces/".toList ++ interface'.toList)) :
        (node = node' ∧ interface = interface') ∨ Shifted node interface node' interface' := by
      obtain ⟨rfl, rest⟩ | ⟨rfl, rest⟩ | ⟨between, rfl, rest⟩ := shifted_of_eq same
      · rw [List.append_nil, String.toList_inj] at more
        rw [String.toList_inj] at rest
        exact .inl ⟨more.symm, rest⟩
      · rw [← String.toList_append, String.toList_inj] at more rest
        exact .inr (.inl ⟨more, rest⟩)
      · refine .inr (.inr ⟨String.ofList between, ?_, ?_⟩)
        · rw [← String.toList_inj, more]
          simp only [String.toList_append, String.toList_ofList, List.append_assoc]
        · rw [← String.toList_inj, rest]
          simp only [String.toList_append, String.toList_ofList, List.append_assoc]
    intro same
    rw [← String.toList_inj, toList_interfacePolicyPath, toList_interfacePolicyPath] at same
    replace same := List.append_cancel_left (List.append_cancel_right same)
    obtain ⟨first, more, same⟩ | ⟨first, more, same⟩ := List.append_eq_append_iff.mp same
    · obtain equal | shifted := longer more same
      · exact .inl equal
      · exact .inr (.inl shifted)
    · obtain ⟨rfl, rfl⟩ | shifted := longer more same
      · exact .inl ⟨rfl, rfl⟩
      · exact .inr (.inr shifted)
  · have path_of_shifted {node interface node' interface' : String}
        (shifted : Shifted node interface node' interface') :
        interfacePolicyPath node interface = interfacePolicyPath node' interface' := by
      rw [← String.toList_inj, toList_interfacePolicyPath, toList_interfacePolicyPath]
      obtain ⟨rfl, rfl⟩ | ⟨between, rfl, rfl⟩ := shifted <;>
        simp only [String.toList_append, List.append_assoc]
      rfl
    rintro (⟨rfl, rfl⟩ | shifted | shifted)
    · rfl
    · exact path_of_shifted shifted
    · exact (path_of_shifted shifted).symm

/-- A name goes into a path as it is, where its slashes part it. Names without a slash are parts of
their own, so that no two endpoints share a path. -/
theorem Resource.path_addresses :
    (∀ (resource : Resource) (collection id : String),
      resource.collectionPath? = some collection → ∃ path, resource.path? id = some path ∧
        pathParts path = pathParts collection ++ pathParts id ∧
        ((pathParts path).length = (pathParts collection).length + 1 ↔ IsPlainName id) ∧
        (IsPlainName id → pathParts path = pathParts collection ++ [id.toList]) ∧
        ∀ other, resource.path? other = some path → other = id) ∧
    (∀ (endpoint other : Endpoint) (path : String), endpoint.IsPlain → other.IsPlain →
      endpoint.path? = some path → other.path? = some path → endpoint.Same other) ∧
    ∀ node interface node' interface' : String,
      interfacePolicyPath node interface = interfacePolicyPath node' interface' ↔
        (node = node' ∧ interface = interface') ∨ Shifted node interface node' interface' ∨
          Shifted node' interface' node interface := by
  refine ⟨fun resource collection id keeps => ?_, fun endpoint other path plain plainOther leads =>
    Endpoint.same_of_path? plain plainOther leads, interfacePolicyPath_eq_iff⟩
  have parts := pathParts_below collection id
  refine ⟨collection ++ "/" ++ id, path?_eq.mpr ⟨collection, keeps, rfl⟩, parts, ?_, ?_, ?_⟩
  · rw [parts, List.length_append, Nat.add_left_cancel_iff, length_pathParts_eq_one]
  · intro plain
    rw [parts, pathParts_plain plain]
  · intro other leads
    obtain ⟨_, found, same⟩ := path?_eq.mp leads
    cases keeps.symm.trans found
    simp only [← String.toList_inj, String.toList_append] at same
    exact (String.toList_inj.mp (List.append_cancel_left same)).symm

/-- An app has a path of its own. A node and a list of nodes share one, and so do the policies of
two interfaces. -/
theorem endpoints_addressed :
    (∃ path, Resource.app.path? "a1" = some path ∧
      pathParts path = pathParts "/apps" ++ ["a1".toList]) ∧
    (Endpoint.single .app "a1").path? ≠ (Endpoint.single .app "a2").path? ∧
    (Endpoint.single .node "a1").Same (.single .nodes "a1") ∧
    interfacePolicyPath "a" "b/interfaces/c" = interfacePolicyPath "a/interfaces/b" "c" := by
  have plain : IsPlainName "a1" := by
    unfold IsPlainName
    decide
  have plainOther : IsPlainName "a2" := by
    unfold IsPlainName
    decide
  obtain ⟨single, endpoints, policies⟩ := Resource.path_addresses
  obtain ⟨path, leads, _, _, whole, _⟩ := single .app "/apps" "a1" rfl
  refine ⟨⟨path, leads, whole plain⟩, ?_, ?_, ?_⟩
  · intro shared
    have same := endpoints (.single .app "a1") (.single .app "a2") path plain plainOther leads
      (shared.symm.trans leads)
    exact absurd same.2 (by decide)
  · exact endpoints (.single .node "a1") (.single .nodes "a1") "/nodes/a1" plain plain (by decide)
      (by decide)
  · exact (policies "a" "b/interfaces/c" "a/interfaces/b" "c").mpr
      (.inr (.inl (.inr ⟨"b", rfl, rfl⟩)))

/-- With a slash a name is more than one part, and it leads to what belongs to another name. -/
theorem slashes_part_names :
    Resource.app.path? "a/b" = some "/apps/a/b" ∧
      pathParts "/apps/a/b" = pathParts "/apps" ++ ["a".toList, "b".toList] ∧
      Resource.node.path? "n/interfaces/e/policy" = some (interfacePolicyPath "n" "e") ∧
      interfacePolicyPath "a" "b/interfaces/c" = interfacePolicyPath "a/interfaces/b" "c" := by
  decide +kernel

end ResourceEditor
