import Mathlib.Data.String.Basic
import ResourceEditor.Config.Document
import ResourceEditor.Proofs.Toml.Distinct
/-
This file says what documents say about profiles and defaults, setting by setting, and that a
configuration that is read from a document says the same, as far as it knows the settings.
-/

namespace ResourceEditor

namespace Profiles

theorem get?_insert (name : String) (profile : Profile) (profiles : Profiles) (other : String) :
    Members.get? (insert name profile profiles) other =
      if name = other then some profile else Members.get? profiles other := by
  induction profiles with
  | nil => exact Members.get?_cons name profile [] other
  | cons pair rest ih =>
      obtain ⟨first, old⟩ := pair
      rw [insert]
      split
      next => exact Members.get?_cons name profile _ other
      next =>
        split
        next same =>
          subst same
          rw [Members.get?_cons, Members.get?_cons]
          split <;> rfl
        next different =>
          rw [Members.get?_cons, Members.get?_cons, ih]
          split
          next here => rw [if_neg fun same => different (same.trans here.symm)]
          next => rfl

/-- The names stand in their order, so that none comes twice. -/
def IsSorted (profiles : Profiles) : Prop := (Members.names profiles).Pairwise (· < ·)

theorem mem_names_insert {name other : String} {profile : Profile} {profiles : Profiles} :
    other ∈ Members.names (insert name profile profiles) ↔
      other = name ∨ other ∈ Members.names profiles := by
  simp only [← Members.has_iff_mem_names, Members.has, get?_insert]
  split
  next same => simp [same]
  next different => simp [Ne.symm different]

theorem IsSorted.insert {profiles : Profiles} (sorted : profiles.IsSorted) (name : String)
    (profile : Profile) : (profiles.insert name profile).IsSorted := by
  induction profiles with
  | nil => exact List.pairwise_singleton _ _
  | cons pair rest ih =>
      obtain ⟨first, old⟩ := pair
      obtain ⟨before, sortedRest⟩ := List.pairwise_cons.mp sorted
      rw [Profiles.insert]
      split
      next earlier =>
        refine List.pairwise_cons.mpr ⟨fun other listed => ?_, sorted⟩
        obtain rfl | inRest := List.mem_cons.mp listed
        · exact earlier
        · exact lt_trans earlier (before other inRest)
      next notEarlier =>
        split
        next same =>
          subst same
          exact sorted
        next different =>
          refine List.pairwise_cons.mpr ⟨fun other listed => ?_, ih sortedRest⟩
          obtain rfl | inRest := mem_names_insert.mp listed
          · exact lt_of_le_of_ne (not_lt.mp notEarlier) fun same => different same.symm
          · exact before other inRest

theorem IsSorted.nodup {profiles : Profiles} (sorted : profiles.IsSorted) :
    (Members.names profiles).Nodup :=
  sorted.imp fun before => ne_of_lt before

/-- Profiles that are read from a table are sorted. -/
theorem isSorted_of_ofMembers? {members : Members Toml} {profiles : Profiles}
    (read : ofMembers? members = some profiles) : profiles.IsSorted := by
  have empty : IsSorted [] := List.Pairwise.nil
  refine Toml.foldlM_keeps IsSorted (fun pair _ profiles next sorted stepped => ?_) empty read
  obtain ⟨profile, _, rfl⟩ := Option.map_eq_some_iff.mp stepped
  exact sorted.insert _ profile

/-- Of a name there are the same profiles before and after reading. -/
theorem get?_of_fold {members : Members Toml} (distinct : (Members.names members).Nodup)
    {first profiles : Profiles}
    (read : members.foldlM (fun profiles (name, toml) =>
      (Profile.ofToml? toml).map fun profile => insert name profile profiles) first =
        some profiles) (name : String) :
    (∃ toml profile, members.get? name = some toml ∧ Profile.ofToml? toml = some profile ∧
      Members.get? profiles name = some profile) ∨
      members.get? name = none ∧ Members.get? profiles name = Members.get? first name := by
  induction members generalizing first with
  | nil =>
      cases read
      exact .inr ⟨rfl, rfl⟩
  | cons pair rest ih =>
      obtain ⟨other, toml⟩ := pair
      obtain ⟨fresh, distinct⟩ := List.nodup_cons.mp distinct
      rw [List.foldlM_cons] at read
      obtain ⟨next, stepped, read⟩ := Option.bind_eq_some_iff.mp read
      obtain ⟨profile, decoded, rfl⟩ := Option.map_eq_some_iff.mp stepped
      rw [Members.get?_cons]
      obtain ⟨value, decodedValue, found, rest⟩ | ⟨missing, same⟩ := ih distinct read
      · have different : other ≠ name := by
          rintro rfl
          exact fresh (List.mem_map.mpr ⟨_, Members.mem_of_get? found, rfl⟩)
        rw [if_neg different]
        exact .inl ⟨value, decodedValue, found, rest⟩
      · rw [same, get?_insert]
        split
        next => exact .inl ⟨toml, profile, rfl, decoded, rfl⟩
        next => exact .inr ⟨missing, rfl⟩

end Profiles

/-! What a record says under each of its names. -/

namespace Toml

/-- A record that is read exactly is written as what it was read from. -/
def IsExact {α : Type} (read : Toml → Option α) (write : α → Toml) : Prop :=
  ∀ toml value, read toml = some value → write value = toml

theorem isExact_text? : IsExact text? .string := by
  intro toml value read
  cases toml <;> cases read
  rfl

theorem isExact_flag? : IsExact flag? .bool := by
  intro toml value read
  cases toml <;> cases read
  rfl

theorem isExact_count? : IsExact count? fun n : Nat => .integer n := by
  intro toml value read
  cases toml with
  | integer number =>
      rw [count?] at read
      split at read
      next fits =>
        cases read
        exact congrArg Toml.integer (Int.toNat_of_nonneg fits.1)
      next => cases read
  | _ => cases read

theorem Field.optional_eq_some {α : Type} {read : Toml → Option α} {write : α → Toml}
    (exact : IsExact read write) {field : Option Toml} {value : Option α}
    (ok : Field.optional read field = some value) : value.map write = field := by
  cases field with
  | none =>
      cases ok
      rfl
  | some toml =>
      obtain ⟨value, decoded, rfl⟩ := Option.map_eq_some_iff.mp ok
      exact congrArg some (exact toml value decoded)

theorem Field.withDefault_eq_some {α : Type} {read : Toml → Option α} {write : α → Toml}
    (exact : IsExact read write) {default value : α} {field : Option Toml}
    (ok : Field.withDefault default read field = some value) :
    write value = field.getD (write default) := by
  obtain ⟨found, decoded, rfl⟩ := Option.map_eq_some_iff.mp ok
  rw [← optional_eq_some exact decoded]
  cases found <;> rfl

theorem Field.map_count (value : Option Nat) :
    ((do let seconds ← value; pure (seconds : Int)).map fun seconds => integer seconds) =
      value.map fun seconds : Nat => integer seconds := by
  cases value <;> rfl

theorem Field.get?_entry (name other : String) (value : Option Toml) :
    Members.get? (Field.entry name value) other = if name = other then value else none := by
  cases value with
  | none => simp [Field.entry]
  | some value => exact Members.get?_cons name value [] other

end Toml

theorem Members.get?_append {α : Type} (first second : Members α) (name : String) :
    get? (first ++ second) name = (get? first name).or (get? second name) :=
  List.lookup_append

theorem Members.get?_map {α β : Type} (members : Members α) (change : α → β) (name : String) :
    get? (members.map fun (name, value) => (name, change value)) name =
      (get? members name).map change := by
  induction members with
  | nil => rfl
  | cons pair rest ih =>
      obtain ⟨other, value⟩ := pair
      rw [List.map_cons, get?_cons, get?_cons, ih]
      split <;> rfl

/-- Settings by name, as far as the names are listed. -/
def Toml.among (names : List String) (settings : String → Option Toml) (name : String) :
    Option Toml :=
  if name ∈ names then settings name else none

/-- A record that is written name by name has the settings that it is written from. -/
theorem Toml.get?_flatMap_entry (names : List String) (settings : String → Option Toml)
    (name : String) :
    Members.get? (names.flatMap fun name => Field.entry name (settings name)) name =
      among names settings name := by
  induction names with
  | nil => rfl
  | cons first rest ih =>
      rw [List.flatMap_cons, Members.get?_append, Field.get?_entry, ih, among, among]
      by_cases same : first = name
      · subst same
        rw [if_pos rfl, if_pos List.mem_cons_self]
        cases settings first <;> simp
      · simp [same, Ne.symm same]

/-- A profile has the settings of the record that it is read from, as far as it knows the names. -/
theorem Profile.get?_entries_of_ofToml? {toml : Toml} {profile : Profile}
    (read : ofToml? toml = some profile) :
    ∃ fields, toml.fields? fieldNames = some fields ∧
      Members.get? profile.entries = Toml.among fieldNames fields.get? := by
  simp only [ofToml?, Option.bind_eq_bind, Option.bind_eq_some_iff, Option.filter_eq_some_iff,
    Option.pure_def, Option.some.injEq] at read
  obtain ⟨fields, ⟨found, _⟩, controller, ⟨toml, atController, decoded⟩, username, atUsername,
    token, atToken, tokenEnv, atTokenEnv, caCert, atCaCert, insecure, atInsecure, timeout,
    atTimeout, rfl⟩ := read
  refine ⟨fields, found, funext fun name => ?_⟩
  rw [← Toml.isExact_text? _ _ decoded] at atController
  rw [← Toml.get?_flatMap_entry]
  simp only [fieldNames, entries, List.flatMap_cons, List.flatMap_nil, atController,
    Toml.Field.map_count,
    Toml.Field.optional_eq_some Toml.isExact_text? atUsername,
    Toml.Field.optional_eq_some Toml.isExact_text? atToken,
    Toml.Field.optional_eq_some Toml.isExact_text? atTokenEnv,
    Toml.Field.optional_eq_some Toml.isExact_text? atCaCert,
    Toml.Field.optional_eq_some Toml.isExact_flag? atInsecure,
    Toml.Field.optional_eq_some Toml.isExact_count? atTimeout, List.append_assoc, List.append_nil]
  rfl

/-- The defaults have the settings of the record that they are read from, and for the others those
that are built in. -/
theorem Defaults.get?_entries_of_ofToml? {toml : Toml} {defaults : Defaults}
    (read : ofToml? toml = some defaults) :
    ∃ fields, toml.fields? fieldNames = some fields ∧
      Members.get? defaults.entries = Toml.among fieldNames fun name =>
        (fields.get? name).or (Members.get? ({} : Defaults).entries name) := by
  simp only [ofToml?, Option.bind_eq_bind, Option.bind_eq_some_iff, Option.pure_def,
    Option.some.injEq] at read
  obtain ⟨fields, found, output, atOutput, color, atColor, insecure, atInsecure, timeout, atTimeout,
    rfl⟩ := read
  refine ⟨fields, found, funext fun name => ?_⟩
  rw [← Toml.get?_flatMap_entry]
  simp only [fieldNames, entries, List.flatMap_cons, List.flatMap_nil,
    Toml.Field.withDefault_eq_some Toml.isExact_text? atOutput,
    Toml.Field.withDefault_eq_some Toml.isExact_text? atColor,
    Toml.Field.withDefault_eq_some Toml.isExact_flag? atInsecure,
    Toml.Field.withDefault_eq_some Toml.isExact_count? atTimeout]
  simp [Members.get?_cons, Toml.Field.entry]

namespace Toml

/-- The settings of a profile by name, if a document has the profile. -/
def profile? (document : Toml) (name : String) : Option (String → Option Toml) :=
  (((document.member? "profiles").bind (·.member? name)).bind (·.fields? Profile.fieldNames)).map
    Members.get?

/-- A setting that a document has for all profiles. -/
def default? (document : Toml) (name : String) : Option Toml :=
  ((document.member? "defaults").bind (·.fields? Defaults.fieldNames)).bind (·.get? name)

end Toml

namespace Config

theorem member?_toToml (config : Config) :
    config.toToml.member? "defaults" = some (.table config.defaults.entries) ∧
      config.toToml.member? "profiles" = some (.table
        (config.profiles.map fun (name, profile) => (name, .table profile.entries))) := by
  simp only [toToml, Toml.member?, Toml.members?, Option.bind_some, Members.get?_append,
    Toml.Field.get?_entry]
  exact ⟨rfl, rfl⟩

theorem default?_toToml (config : Config) (name : String) :
    config.toToml.default? name = Members.get? config.defaults.entries name := by
  rw [Toml.default?, (member?_toToml config).1]
  rfl

theorem profile?_toToml (config : Config) (name : String) :
    config.toToml.profile? name =
      (Members.get? config.profiles name).map fun profile => Members.get? profile.entries := by
  rw [Toml.profile?, (member?_toToml config).2]
  have found := Members.get?_map config.profiles (fun profile => Toml.table profile.entries) name
  simp only [Option.bind_some, Toml.member?, Toml.members?, found]
  cases Members.get? config.profiles name <;> rfl

/-- How a configuration is read: its profiles from a table of profiles, if there is one. -/
theorem profiles_of_ofToml? {settings : Toml} {config : Config}
    (read : ofToml? settings = some config) :
    (settings.member? "profiles" = none ∧ config.profiles = []) ∨
      ∃ toml members, settings.member? "profiles" = some toml ∧ toml.members? = some members ∧
        Profiles.ofMembers? members = some config.profiles := by
  simp only [ofToml?, Option.bind_eq_bind, Option.bind_eq_some_iff, Option.pure_def,
    Option.some.injEq] at read
  obtain ⟨fields, table, _, _, _, _, profiles, atProfiles, rfl⟩ := read
  obtain ⟨found, decoded, rfl⟩ := Option.map_eq_some_iff.mp atProfiles
  rw [Toml.member?, table, Option.bind_some]
  cases place : fields.get? "profiles" with
  | none =>
      rw [place] at decoded
      cases decoded
      exact .inl ⟨rfl, rfl⟩
  | some toml =>
      rw [place] at decoded
      obtain ⟨profiles, made, rfl⟩ := Option.map_eq_some_iff.mp decoded
      obtain ⟨members, table, made⟩ := Option.bind_eq_some_iff.mp made
      exact .inr ⟨toml, members, rfl, table, made⟩

theorem isSorted_of_ofToml? {settings : Toml} {config : Config}
    (read : ofToml? settings = some config) : config.profiles.IsSorted := by
  obtain ⟨_, none⟩ | ⟨_, _, _, _, made⟩ := profiles_of_ofToml? read
  · rw [none]
    exact List.Pairwise.nil
  · exact Profiles.isSorted_of_ofMembers? made

/-- A configuration has the profiles that it is read from, each with the settings that it knows. -/
theorem profile?_of_ofToml? {settings : Toml} {config : Config} (tidy : settings.IsTidy)
    (read : ofToml? settings = some config) (name : String) :
    config.toToml.profile? name =
      (settings.profile? name).map (Toml.among Profile.fieldNames) := by
  rw [profile?_toToml, Toml.profile?]
  obtain ⟨missing, none⟩ | ⟨toml, members, place, table, made⟩ := profiles_of_ofToml? read
  · rw [none, missing]
    rfl
  · have distinct : (Members.names members).Nodup := by
      obtain ⟨fields, all, found⟩ := Option.bind_eq_some_iff.mp place
      exact tidy.2 fields all _ (Members.mem_of_get? found) members table
    rw [place, Option.bind_some, Toml.member?, table, Option.bind_some]
    obtain ⟨record, profile, found, decoded, kept⟩ | ⟨missing, none⟩ :=
      Profiles.get?_of_fold distinct made name
    · obtain ⟨fields, shape, settings⟩ := Profile.get?_entries_of_ofToml? decoded
      rw [found, kept, Option.bind_some, shape, Option.map_some, Option.map_some, Option.map_some,
        settings]
    · rw [missing, none]
      rfl

/-- A configuration has the defaults that it is read from, and otherwise those that are built in. -/
theorem default?_of_ofToml? {settings : Toml} {config : Config}
    (read : ofToml? settings = some config) :
    config.toToml.default? = Toml.among Defaults.fieldNames fun name =>
      (settings.default? name).or (({} : Config).toToml.default? name) := by
  funext name
  simp only [ofToml?, Option.bind_eq_bind, Option.bind_eq_some_iff, Option.pure_def,
    Option.some.injEq] at read
  obtain ⟨fields, table, _, _, defaults, atDefaults, _, _, rfl⟩ := read
  obtain ⟨found, decoded, rfl⟩ := Option.map_eq_some_iff.mp atDefaults
  simp only [default?_toToml, Toml.among]
  rw [Toml.default?, Toml.member?, table, Option.bind_some]
  cases place : fields.get? "defaults" with
  | none =>
      rw [place] at decoded
      cases decoded
      split
      next => rfl
      next unknown => exact Members.get?_of_not_mem unknown
  | some toml =>
      rw [place] at decoded
      obtain ⟨defaults, made, rfl⟩ := Option.map_eq_some_iff.mp decoded
      obtain ⟨fields, shape, settings⟩ := Defaults.get?_entries_of_ofToml? made
      rw [Option.bind_some, shape]
      exact congrFun settings name

/-! Documents over the built-in settings. -/

theorem member?_overlay_toToml (config : Config) {added : Members Toml}
    (distinct : (Members.names added).Nodup) (name : String) :
    (config.toToml.overlay (.table added)).member? name =
      Toml.joined (config.toToml.member? name) (added.get? name) :=
  Toml.get?_overlayMembers distinct name

/-- The built-in settings have no profiles. -/
theorem profile?_overlay_builtIn {added : Members Toml} (tidy : (Toml.table added).IsTidy)
    (name : String) :
    ((({} : Config).toToml.overlay (.table added)).profile? name) =
      (Toml.table added).profile? name := by
  obtain ⟨distinct, inside⟩ := Toml.isTidy_table.mp tidy
  rw [Toml.profile?, member?_overlay_toToml _ distinct, (member?_toToml _).2, Toml.profile?,
    Toml.member?, Toml.members?, Option.bind_some]
  cases place : added.get? "profiles" with
  | none => rfl
  | some profiles =>
      have found := Toml.member?_overlay_empty (inside _ (Members.mem_of_get? place)) name
      change ((Toml.member? _ name).bind _).map _ = ((profiles.member? name).bind _).map _
      rw [← found]
      rfl

/-- The built-in defaults are no tables, so that they are replaced. -/
theorem overlay_builtIn_default (name : String) (value : Toml) :
    ((Members.get? ({} : Defaults).entries name).map (·.overlay value)).getD value = value := by
  cases found : Members.get? ({} : Defaults).entries name with
  | none => rfl
  | some old =>
      have noTable : old.members? = none := by
        have listed := Members.mem_of_get? found
        simp only [Defaults.entries, List.mem_cons, List.not_mem_nil, or_false, Prod.mk.injEq]
          at listed
        rcases listed with ⟨_, rfl⟩ | ⟨_, rfl⟩ | ⟨_, rfl⟩ | ⟨_, rfl⟩ <;> rfl
      exact Toml.overlay_of_members?_eq_none noTable value

/-- A default that a document does not give is the built-in one. -/
theorem default?_overlay_builtIn {added : Members Toml} (tidy : (Toml.table added).IsTidy)
    (name : String) :
    ((({} : Config).toToml.overlay (.table added)).default? name).or
        (({} : Config).toToml.default? name) =
      ((Toml.table added).default? name).or (({} : Config).toToml.default? name) := by
  obtain ⟨distinct, inside⟩ := Toml.isTidy_table.mp tidy
  rw [default?_toToml, Toml.default?, member?_overlay_toToml _ distinct, (member?_toToml _).1,
    Toml.default?, Toml.member?, Toml.members?, Option.bind_some]
  cases place : added.get? "defaults" with
  | none =>
      change (Members.get? _ name).or _ = _
      rw [Option.or_self]
      rfl
  | some defaults =>
      have distinct := inside _ (Members.mem_of_get? place)
      cases defaults with
      | table given =>
          change (Members.get? (Toml.overlayMembers _ given) name).or _ =
            (Members.get? given name).or _
          rw [Toml.get?_overlayMembers (Toml.isDistinct_table.mp distinct)]
          cases Members.get? given name with
          | none => exact Option.or_self
          | some value => exact congrArg some (overlay_builtIn_default name value)
      | date text =>
          change (Members.get? (Members.set _ "Date" (Toml.string text)) name).or _ =
            (Members.get? [("Date", Toml.string text)] name).or _
          rw [Members.get?_set, Members.get?_cons]
          split
          next => rfl
          next => exact Option.or_self
      | _ => rfl

end Config

end ResourceEditor
