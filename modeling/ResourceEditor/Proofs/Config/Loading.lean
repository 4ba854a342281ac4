import ResourceEditor.Proofs.Config.Saving
/-
This file shows that a configuration that is saved is loaded again as it was: the built-in settings
that the document is laid over show only where the configuration names no default profile.
-/

namespace ResourceEditor

namespace Toml

/-- New names come last, in their order. -/
theorem overlayMembers_of_fresh {members : Members Toml} {added : List (String × Toml)}
    (distinct : (Members.names members ++ Members.names added).Nodup) :
    overlayMembers members added = members ++ added := by
  induction added generalizing members with
  | nil => rw [overlayMembers, List.append_nil]
  | cons pair rest ih =>
      obtain ⟨name, value⟩ := pair
      have fresh : name ∉ Members.names members := fun listed =>
        (List.nodup_append.mp distinct).2.2 name listed name List.mem_cons_self rfl
      have later : (Members.names (members ++ [(name, value)]) ++ Members.names rest).Nodup := by
        simpa [Members.names] using distinct
      rw [overlayMembers, Members.get?_of_not_mem fresh, Members.set_of_not_mem fresh, ih later,
        List.append_assoc]
      rfl

/-- A table over an empty one is itself. -/
theorem overlay_empty {added : List (String × Toml)} (distinct : (Members.names added).Nodup) :
    (table []).overlay (table added) = table added :=
  congrArg table (overlayMembers_of_fresh distinct)

/-- A field that is written is read. -/
theorem Field.optional_map {α : Type} {read : Toml → Option α} {write : α → Toml}
    {value : Option α}
    (reads : ∀ content, value = some content → read (write content) = some content) :
    Field.optional read (value.map write) = some value := by
  cases value with
  | none => rfl
  | some content => rw [Option.map_some, Field.optional, reads content rfl, Option.map_some]

theorem Field.withDefault_of_read {α : Type} {read : Toml → Option α} {toml : Toml} {value : α}
    (reads : read toml = some value) (default : α) :
    Field.withDefault default read (some toml) = some value := by
  rw [Field.withDefault, Field.optional, reads]
  rfl

theorem count?_integer {count : Nat} (fits : count < Decimal.wordLimit) :
    count? (.integer count) = some count := by
  rw [count?, if_pos ⟨Int.natCast_nonneg count, Int.ofNat_lt.mpr fits⟩, Int.toNat_natCast]

end Toml

open Toml.Field

namespace Profile

/-- What the table of a profile has under the names of the fields. -/
theorem get?_entries (profile : Profile) :
    Members.get? profile.entries "controller" = some (.string profile.controller) ∧
      Members.get? profile.entries "username" = profile.username.map .string ∧
      Members.get? profile.entries "token" = profile.token.map .string ∧
      Members.get? profile.entries "token_env" = profile.tokenEnv.map .string ∧
      Members.get? profile.entries "ca_cert" = profile.caCert.map .string ∧
      Members.get? profile.entries "insecure" = profile.insecure.map .bool ∧
      Members.get? profile.entries "timeout" =
        profile.timeout.map fun seconds : Nat => .integer seconds := by
  simp only [entries, Members.get?_append, Toml.Field.get?_entry, Members.get?_cons,
    Toml.Field.map_count]
  simp

theorem ofToml?_entries {profile : Profile}
    (fits : ∀ seconds, profile.timeout = some seconds → seconds < Decimal.wordLimit) :
    ofToml? (.table profile.entries) = some profile := by
  obtain ⟨controller, username, token, tokenEnv, caCert, insecure, timeout⟩ := profile.get?_entries
  have count : optional Toml.count? (profile.timeout.map fun seconds : Nat => .integer seconds) =
      some profile.timeout :=
    optional_map fun seconds given => Toml.count?_integer (fits seconds given)
  have text (value : Option String) : optional Toml.text? (value.map .string) = some value :=
    optional_map fun _ _ => rfl
  have flag (value : Option Bool) : optional Toml.flag? (value.map .bool) = some value :=
    optional_map fun _ _ => rfl
  have table : (Toml.fields? fieldNames (.table profile.entries)).filter
      (fun _ => isComplete (.table profile.entries)) = some profile.entries := rfl
  rw [ofToml?, table]
  simp only [Option.bind_eq_bind, Option.bind_some, controller, username, token, tokenEnv, caCert,
    insecure, timeout, text, flag, count]
  rfl

end Profile

namespace Profiles

/-- A name that comes after all others comes last. -/
theorem insert_last {name : String} {profiles : Profiles}
    (last : ∀ other ∈ Members.names profiles, other < name) (profile : Profile) :
    insert name profile profiles = profiles ++ [(name, profile)] := by
  induction profiles with
  | nil => rfl
  | cons pair rest ih =>
      obtain ⟨other, old⟩ := pair
      have before := last other List.mem_cons_self
      rw [insert, if_neg (lt_asymm before), if_neg (ne_of_gt before),
        ih fun name listed => last name (List.mem_cons_of_mem _ listed)]
      rfl

/-- The tables of profiles with their names. -/
def tables (profiles : Profiles) : Members Toml :=
  profiles.map fun (name, profile) => (name, .table profile.entries)

theorem names_tables (profiles : Profiles) :
    Members.names profiles.tables = Members.names profiles := by
  rw [tables, Members.names, List.map_map]
  rfl

/-- Profiles that are written in their order are read as they are. -/
theorem foldlM_tables {done profiles : Profiles} (sorted : IsSorted (done ++ profiles))
    (fits : ∀ pair ∈ profiles, ∀ seconds, pair.2.timeout = some seconds →
      seconds < Decimal.wordLimit) :
    profiles.tables.foldlM (fun profiles (name, toml) =>
        (Profile.ofToml? toml).map fun profile => insert name profile profiles) done =
      some (done ++ profiles) := by
  induction profiles generalizing done with
  | nil => rw [List.append_nil]; rfl
  | cons pair rest ih =>
      obtain ⟨name, profile⟩ := pair
      obtain ⟨here, later⟩ := List.forall_mem_cons.mp fits
      have last : ∀ other ∈ Members.names done, other < name := by
        intro other listed
        rw [IsSorted, Members.names, List.map_append] at sorted
        exact (List.pairwise_append.mp sorted).2.2 other listed name List.mem_cons_self
      have further : done ++ (name, profile) :: rest = (done ++ [(name, profile)]) ++ rest := by
        rw [List.append_assoc, List.singleton_append]
      rw [further] at sorted ⊢
      have stepped : (Profile.ofToml? (.table profile.entries)).map
          (fun profile => insert name profile done) = some (done ++ [(name, profile)]) := by
        rw [Profile.ofToml?_entries here, Option.map_some, insert_last last]
      rw [tables, List.map_cons, List.foldlM_cons]
      exact (congrArg (Option.bind · _) stepped).trans (ih sorted later)

theorem ofMembers?_tables {profiles : Profiles} (sorted : profiles.IsSorted)
    (fits : ∀ pair ∈ profiles, ∀ seconds, pair.2.timeout = some seconds →
      seconds < Decimal.wordLimit) :
    ofMembers? profiles.tables = some profiles :=
  foldlM_tables (List.nil_append _ ▸ sorted) fits

end Profiles

namespace Defaults

theorem get?_entries (defaults : Defaults) :
    Members.get? defaults.entries "output" = some (.string defaults.output) ∧
      Members.get? defaults.entries "color" = some (.string defaults.color) ∧
      Members.get? defaults.entries "insecure" = some (.bool defaults.insecure) ∧
      Members.get? defaults.entries "timeout" = some (.integer defaults.timeout) := by
  simp only [entries, Members.get?_cons]
  simp

/-- The defaults of a configuration take the place of others. -/
theorem overlay_entries (defaults others : Defaults) :
    (Toml.table others.entries).overlay (.table defaults.entries) = .table defaults.entries := by
  simp [Toml.overlay, Toml.overlayMembers, Toml.members?, entries, Members.get?_cons, Members.set]

theorem ofToml?_entries {defaults : Defaults} (fits : defaults.timeout < Decimal.wordLimit) :
    ofToml? (.table defaults.entries) = some defaults := by
  obtain ⟨output, color, insecure, timeout⟩ := defaults.get?_entries
  have reads {α : Type} (read : Toml → Option α) {name : String} {toml : Toml} {value : α}
      (found : Members.get? defaults.entries name = some toml) (is : read toml = some value)
      (default : α) :
      withDefault default read (Members.get? defaults.entries name) = some value :=
    found ▸ withDefault_of_read is default
  simp only [ofToml?, Option.bind_eq_bind, Option.bind_eq_some_iff, Option.pure_def,
    Option.some.injEq]
  exact ⟨defaults.entries, rfl, _, reads Toml.text? output rfl _, _, reads Toml.text? color rfl _,
    _, reads Toml.flag? insecure rfl _, _, reads _ timeout (Toml.count?_integer fits) _, rfl⟩

end Defaults

/-- No variable of an environment stands for a setting. -/
def Environment.IsForeign (environment : Environment) : Prop :=
  ∀ pair ∈ environment, Variable.path? pair.1 = none

theorem Environment.IsForeign.settings_eq {environment : Environment}
    (foreign : environment.IsForeign) : Variable.settings environment = .table [] := by
  rw [Variable.settings]
  refine List.foldlRecOn (motive := (· = Toml.table [])) environment _ rfl ?_
  intro settings empty pair listed
  dsimp only
  rw [foreign pair listed]
  exact empty

namespace Config

theorem member?_toToml_defaultProfile (config : Config) :
    config.toToml.member? "default_profile" = config.defaultProfile.map .string := by
  simp only [toToml, Toml.member?, Toml.members?, Option.bind_some, Members.get?_append,
    Toml.Field.get?_entry, Members.get?_cons]
  simp

/-- What a configuration has over the built-in one. -/
theorem member?_overlay_builtIn (config : Config) (name : String) :
    (({} : Config).toToml.overlay config.toToml).member? name =
      Toml.joined (({} : Config).toToml.member? name) (config.toToml.member? name) := by
  refine member?_overlay_toToml _ ?_ name
  have names := (Toml.Field.names_entry "default_profile"
    (config.defaultProfile.map .string)).append (List.Sublist.refl ["defaults", "profiles"])
  rw [Members.names, List.map_append]
  exact names.nodup (by decide)

/-- The table of a configuration is read as the configuration, over the built-in settings too. -/
theorem ofToml?_overlay {config : Config} (sorted : config.profiles.IsSorted)
    (fits : ∀ seconds ∈ config.timeouts, seconds < Decimal.wordLimit) :
    ofToml? (({} : Config).toToml.overlay config.toToml) =
      some { config with defaultProfile := config.defaultProfile.or (some "default") } := by
  obtain ⟨general, each⟩ := List.forall_mem_cons.mp fits
  have named : (({} : Config).toToml.overlay config.toToml).member? "default_profile" =
      (config.defaultProfile.or (some "default")).map .string := by
    rw [member?_overlay_builtIn, member?_toToml_defaultProfile, member?_toToml_defaultProfile]
    cases config.defaultProfile <;> rfl
  have defaults : (({} : Config).toToml.overlay config.toToml).member? "defaults" =
      some (.table config.defaults.entries) := by
    rw [member?_overlay_builtIn, (member?_toToml _).1, (member?_toToml _).1]
    exact congrArg some (config.defaults.overlay_entries {})
  have profiles : (({} : Config).toToml.overlay config.toToml).member? "profiles" =
      some (.table config.profiles.tables) := by
    have distinct : (Members.names config.profiles.tables).Nodup := by
      rw [config.profiles.names_tables]
      exact sorted.nodup
    rw [member?_overlay_builtIn, (member?_toToml _).2, (member?_toToml _).2]
    exact congrArg some (Toml.overlay_empty distinct)
  have read := Profiles.ofMembers?_tables sorted fun pair listed seconds given =>
    each seconds (List.mem_filterMap.mpr ⟨pair, listed, given⟩)
  obtain ⟨members, table⟩ : ∃ members, ({} : Config).toToml.overlay config.toToml =
      .table members := ⟨_, rfl⟩
  rw [table] at named defaults profiles ⊢
  change Members.get? members _ = _ at named defaults profiles
  simp only [ofToml?, Option.bind_eq_bind, Option.bind_eq_some_iff, Option.pure_def,
    Option.some.injEq]
  refine ⟨members, rfl, _, ?_, _, ?_, _, ?_, rfl⟩
  · rw [named]
    exact optional_map fun _ _ => rfl
  · rw [defaults]
    exact withDefault_of_read (Defaults.ofToml?_entries general) {}
  · rw [profiles]
    refine withDefault_of_read ?_ []
    exact read

/-- A configuration that is saved is loaded again as it was, but that one without a default profile
gets the built-in one. -/
theorem load_save {config : Config} {environment : Environment} {document : String}
    (sorted : config.profiles.IsSorted) (foreign : environment.IsForeign)
    (saved : config.save = .ok document) :
    (load (some document) environment = .ok config ↔ config.defaultProfile.isSome) ∧
      load (some document) environment =
        .ok { config with defaultProfile := config.defaultProfile.or (some "default") } := by
  have fits : ∀ seconds ∈ config.timeouts, seconds < Decimal.wordLimit := by
    intro seconds listed
    rw [save] at saved
    split at saved
    next small =>
      have signed := of_decide_eq_true (List.all_eq_true.mp small seconds listed)
      exact Nat.lt_trans signed (by decide)
    next => cases saved
  have loaded : load (some document) environment =
      .ok { config with defaultProfile := config.defaultProfile.or (some "default") } := by
    have unchanged : (({} : Config).toToml.overlay config.toToml).overlay (.table []) =
        ({} : Config).toToml.overlay config.toToml := rfl
    rw [load, Option.elim_some, parse?_of_save sorted.nodup saved, foreign.settings_eq]
    simp only [unchanged, ofToml?_overlay sorted fits]
  refine ⟨?_, loaded⟩
  obtain ⟨defaultProfile, defaults, profiles⟩ := config
  rw [loaded, Except.ok.injEq, Config.mk.injEq, and_iff_left ⟨rfl, rfl⟩]
  cases defaultProfile <;> simp

/-- Names and texts that have to be quoted, settings that are there and settings that are not. -/
def quotedConfig : Config where
  defaultProfile := some "lab \"a\""
  defaults := { output := "yaml", timeout := 0 }
  profiles :=
    [("", { controller := "", insecure := some false }),
      ("lab \"a\"",
        { controller := "http://[::1]", token := some "one\ntwo", caCert := some "C:\\ca" }),
      ("store.b", { controller := "https://store", username := some "ü", timeout := some 5 })]

theorem quotedConfig_load :
    quotedConfig.profiles.IsSorted ∧ Environment.IsForeign [("HOME", "/"), ("EDGEFORM", "one")] ∧
      ∃ document, quotedConfig.save = .ok document ∧
        load (some document) [("HOME", "/"), ("EDGEFORM", "one")] = .ok quotedConfig := by
  have sorted : quotedConfig.profiles.IsSorted := by
    rw [Profiles.IsSorted]
    decide +kernel
  have foreign : Environment.IsForeign [("HOME", "/"), ("EDGEFORM", "one")] := by
    rw [Environment.IsForeign]
    decide +kernel
  have saved : quotedConfig.save = .ok (Toml.writeStatements quotedConfig.statements) := by
    rw [save, if_pos (by decide)]
  exact ⟨sorted, foreign, _, saved, (load_save sorted foreign saved).1.mpr rfl⟩

end Config

end ResourceEditor
