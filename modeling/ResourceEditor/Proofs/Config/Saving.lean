import ResourceEditor.Proofs.Config.Settings
import ResourceEditor.Proofs.Toml.Table
import ResourceEditor.Proofs.Toml.Writing
/-
This file shows that the document of a configuration is read as the table of the configuration, for
all names and all texts in it.
-/

namespace ResourceEditor

open Toml (Statement IsScalar)

theorem Toml.Field.names_entry (name : String) (value : Option Toml) :
    (Members.names (entry name value)).Sublist [name] := by
  cases value with
  | none => exact List.nil_sublist _
  | some value => exact List.Sublist.refl _

/-- The settings of a profile stand in the order of its fields. -/
theorem Profile.names_entries (profile : Profile) :
    (Members.names profile.entries).Sublist fieldNames := by
  simp only [entries, Members.names, List.map_append]
  exact (((((((List.Sublist.refl ["controller"]).append
    (Toml.Field.names_entry "username" _)).append
    (Toml.Field.names_entry "token" _)).append
    (Toml.Field.names_entry "token_env" _)).append
    (Toml.Field.names_entry "ca_cert" _)).append
    (Toml.Field.names_entry "insecure" _)).append
    (Toml.Field.names_entry "timeout" _))

theorem Profile.nodup_names_entries (profile : Profile) : (Members.names profile.entries).Nodup :=
  profile.names_entries.nodup (by decide)

theorem Defaults.nodup_names_entries (defaults : Defaults) :
    (Members.names defaults.entries).Nodup := by
  change fieldNames.Nodup
  decide

namespace Toml.Draft

theorem names_leaves (entries : List (String × Toml)) :
    Members.names (leaves entries) = Members.names entries := by
  simp [Members.names, leaves]

/-- The first table below a name makes the table of this name too. -/
theorem step_fresh {before : Members Draft} {outer : String}
    (fresh : outer ∉ Members.names before) (current : List String) (name : String) :
    Sheet.step ⟨current, before⟩ (.table [outer, name]) =
      Sheet.step ⟨current, before ++ [(outer, .table .passing [])]⟩ (.table [outer, name]) := by
  have focus := Focus.last fresh .header (Focus.here .passing)
  change (descend false (insertTable name) [outer] .header before).map _ =
    (descend false (insertTable name) [outer] .header
      (before ++ [(outer, .table .passing (id []))])).map _
  rw [descend_fresh fresh, focus]
  rfl

end Toml.Draft

namespace Config

open Toml.Draft (leaves names_leaves Focus Sheet)

/-- The lines that name a profile and say its settings. -/
def profileLines (profiles : Profiles) : List Statement :=
  profiles.flatMap fun (name, profile) =>
    .table ["profiles", name] :: pairStatements profile.entries

def profileDrafts (profiles : Profiles) : Members Toml.Draft :=
  profiles.map fun (name, profile) => (name, .table .header (leaves profile.entries))

/-- The lines of each profile add the profile to those before it. -/
theorem foldlM_profileLines {before : Members Toml.Draft}
    (fresh : "profiles" ∉ Members.names before) (profiles : Profiles) (done : Members Toml.Draft)
    (distinct : (Members.names done ++ Members.names profiles).Nodup) (current : List String) :
    ∃ last, (profileLines profiles).foldlM Sheet.step
        ⟨current, before ++ [("profiles", .table .passing done)]⟩ =
      some ⟨last, before ++ [("profiles", .table .passing (done ++ profileDrafts profiles))]⟩ := by
  induction profiles generalizing done current with
  | nil =>
      refine ⟨current, ?_⟩
      rw [profileDrafts, List.map_nil, List.append_nil]
      rfl
  | cons pair rest ih =>
      obtain ⟨name, profile⟩ := pair
      have later : (Members.names (done ++ [(name, Toml.Draft.table .header
          (leaves profile.entries))]) ++ Members.names rest).Nodup := by
        simpa [Members.names] using distinct
      have unknown : name ∉ Members.names done := fun listed =>
        (List.nodup_append.mp distinct).2.2 name listed name List.mem_cons_self rfl
      have here := Toml.Draft.foldlM_section
        (Focus.last fresh .header (Focus.here .passing)) unknown profile.entries
        profile.nodup_names_entries current
      obtain ⟨last, read⟩ := ih _ later ["profiles", name]
      refine ⟨last, ?_⟩
      rw [List.append_assoc] at read
      rw [profileLines, List.flatMap_cons, List.foldlM_append]
      change (List.foldlM Sheet.step _ (.table (["profiles"] ++ [name]) :: _)).bind _ = _
      rw [pairStatements]
      exact (congrArg (Option.bind · _) here).trans read

theorem finishMembers_profileDrafts (profiles : Profiles) :
    Toml.Draft.finishMembers (profileDrafts profiles) =
      profiles.map fun (name, profile) => (name, .table profile.entries) := by
  induction profiles with
  | nil => rfl
  | cons pair rest ih =>
      obtain ⟨name, profile⟩ := pair
      rw [profileDrafts] at ih
      rw [profileDrafts, List.map_cons, Toml.Draft.finishMembers, Toml.Draft.finish,
        Toml.Draft.finishMembers_leaves, ih, List.map_cons]

/-- What holds for all profiles comes before them. -/
def generalDrafts (config : Config) : Members Toml.Draft :=
  leaves (Toml.Field.entry "default_profile" (config.defaultProfile.map .string)) ++
    [("defaults", .table .header (leaves config.defaults.entries))]

theorem names_defaultProfile (config : Config) :
    (Members.names (leaves (Toml.Field.entry "default_profile"
      (config.defaultProfile.map .string)))).Sublist ["default_profile"] := by
  rw [names_leaves]
  exact Toml.Field.names_entry _ _

theorem profiles_not_mem_generalDrafts (config : Config) :
    "profiles" ∉ Members.names (generalDrafts config) := by
  rw [generalDrafts, Members.names, List.map_append, List.mem_append]
  rintro (listed | listed)
  · exact absurd ((names_defaultProfile config).subset listed) (by decide)
  · simp at listed

theorem foldlM_general (config : Config) :
    (pairStatements (Toml.Field.entry "default_profile" (config.defaultProfile.map .string)) ++
        .table ["defaults"] :: pairStatements config.defaults.entries).foldlM Sheet.step ⟨[], []⟩ =
      some ⟨["defaults"], generalDrafts config⟩ := by
  have noDefaults : "defaults" ∉ Members.names (leaves (Toml.Field.entry "default_profile"
      (config.defaultProfile.map .string))) :=
    fun listed => absurd ((names_defaultProfile config).subset listed) (by decide)
  have filled := Toml.Draft.foldlM_pairs (Focus.here .header)
    (Toml.Field.entry "default_profile" (config.defaultProfile.map .string)) []
    ((Toml.Field.names_entry _ _).nodup (by decide))
  have defaults := Toml.Draft.foldlM_section (Focus.here .header) noDefaults
    config.defaults.entries config.defaults.nodup_names_entries []
  rw [List.foldlM_append]
  exact (congrArg (Option.bind · _) filled).trans defaults

/-- With no profiles there is an empty table of profiles. -/
theorem foldlM_allProfiles {before : Members Toml.Draft}
    (fresh : "profiles" ∉ Members.names before) (profiles : Profiles)
    (distinct : (Members.names profiles).Nodup) (current : List String) :
    ∃ origin last, List.foldlM Sheet.step ⟨current, before⟩
        (match profiles with
        | [] => [.table ["profiles"]]
        | profiles => profileLines profiles) =
      some ⟨last, before ++ [("profiles", .table origin (profileDrafts profiles))]⟩ := by
  cases profiles with
  | nil =>
      refine ⟨.header, ["profiles"], ?_⟩
      change ((Toml.Draft.insertTable "profiles" .header before).map _).bind _ = _
      rw [Toml.Draft.insertTable_fresh fresh]
      rfl
  | cons pair rest =>
      obtain ⟨last, read⟩ := foldlM_profileLines fresh (pair :: rest) []
        (by simpa [Members.names] using distinct) current
      refine ⟨.passing, last, ?_⟩
      change (Sheet.step _ (.table ["profiles", pair.1])).bind _ = _
      rw [Toml.Draft.step_fresh fresh]
      exact read

/-- The lines of a configuration make its table. -/
theorem ofStatements?_statements {config : Config}
    (distinct : (Members.names config.profiles).Nodup) :
    Toml.ofStatements? config.statements = some config.toToml := by
  have finished : Toml.Draft.finishMembers (generalDrafts config) =
      Toml.Field.entry "default_profile" (config.defaultProfile.map .string) ++
        [("defaults", .table config.defaults.entries)] := by
    rw [generalDrafts, Toml.Draft.finishMembers_append, Toml.Draft.finishMembers_leaves]
    simp only [Toml.Draft.finishMembers, Toml.Draft.finish, Toml.Draft.finishMembers_leaves]
  obtain ⟨origin, last, read⟩ := foldlM_allProfiles (profiles_not_mem_generalDrafts config)
    config.profiles distinct ["defaults"]
  rw [Toml.ofStatements?, statements, List.foldlM_append, foldlM_general]
  refine (congrArg (Option.map _) read).trans ?_
  rw [Option.map_some, Toml.Draft.finishMembers_append, finished]
  simp only [Toml.Draft.finishMembers, Toml.Draft.finish, finishMembers_profileDrafts]
  rw [toToml, List.append_assoc]
  rfl

theorem isScalar_entry {name : String} {value : Option Toml}
    (scalar : ∀ toml, value = some toml → IsScalar toml) :
    ∀ pair ∈ Toml.Field.entry name value, IsScalar pair.2 := by
  intro pair member
  cases value with
  | none => cases member
  | some toml =>
      cases List.mem_singleton.mp member
      exact scalar toml rfl

theorem isScalar_text {name : String} (text : Option String) :
    ∀ pair ∈ Toml.Field.entry name (text.map .string), IsScalar pair.2 := by
  refine isScalar_entry fun toml found => ?_
  obtain ⟨text, _, rfl⟩ := Option.map_eq_some_iff.mp found
  exact .string text

theorem isScalar_entries {profile : Profile}
    (fits : ∀ seconds, profile.timeout = some seconds → seconds < Decimal.signedLimit) :
    ∀ pair ∈ profile.entries, IsScalar pair.2 := by
  intro pair member
  simp only [Profile.entries, List.mem_append] at member
  obtain (((((here | here) | here) | here) | here) | here) | here := member
  · cases List.mem_singleton.mp here
    exact .string _
  · exact isScalar_text _ pair here
  · exact isScalar_text _ pair here
  · exact isScalar_text _ pair here
  · exact isScalar_text _ pair here
  · refine isScalar_entry (fun toml found => ?_) pair here
    obtain ⟨value, _, rfl⟩ := Option.map_eq_some_iff.mp found
    exact .bool value
  · rw [Toml.Field.map_count] at here
    refine isScalar_entry (fun toml found => ?_) pair here
    obtain ⟨seconds, timeout, rfl⟩ := Option.map_eq_some_iff.mp found
    exact .count (fits seconds timeout)

theorem isScalar_defaults {defaults : Defaults} (fits : defaults.timeout < Decimal.signedLimit) :
    ∀ pair ∈ defaults.entries, IsScalar pair.2 := by
  simp only [Defaults.entries, List.forall_mem_cons]
  exact ⟨.string _, .string _, .bool _, .count fits, List.forall_mem_nil _⟩

theorem isPlain_pairStatements {entries : List (String × Toml)}
    (scalar : ∀ pair ∈ entries, IsScalar pair.2) :
    ∀ line ∈ pairStatements entries, line.IsPlain := by
  intro line member
  obtain ⟨⟨name, value⟩, inside, rfl⟩ := List.mem_map.mp member
  exact .pair (List.cons_ne_nil _ _) (by simp [Toml.Reader.depthLimit]) (scalar _ inside)

theorem isPlain_profileLines (profiles : Profiles)
    (fits : ∀ pair ∈ profiles, ∀ seconds, pair.2.timeout = some seconds →
      seconds < Decimal.signedLimit) :
    ∀ line ∈ profileLines profiles, line.IsPlain := by
  intro line member
  obtain ⟨⟨name, profile⟩, listed, inside⟩ := List.mem_flatMap.mp member
  obtain rfl | setting := List.mem_cons.mp inside
  · exact .table (List.cons_ne_nil _ _) (by simp [Toml.Reader.depthLimit])
  · exact isPlain_pairStatements (isScalar_entries (fits _ listed)) line setting

/-- The lines of a configuration hold texts, truth values and counts. -/
theorem isPlain_statements {config : Config}
    (fits : config.timeouts.all (· < Decimal.signedLimit) = true) :
    ∀ line ∈ config.statements, line.IsPlain := by
  simp only [timeouts, List.all_cons, Bool.and_eq_true, decide_eq_true_eq, List.all_eq_true,
    List.mem_filterMap] at fits
  obtain ⟨general, each⟩ := fits
  have defaults : (Statement.table ["defaults"]).IsPlain := .table (by decide) (by decide)
  have profiles : (Statement.table ["profiles"]).IsPlain := .table (by decide) (by decide)
  have all := isPlain_profileLines config.profiles
    fun pair listed seconds timeout => each seconds ⟨pair, listed, timeout⟩
  rw [statements]
  refine List.forall_mem_append.mpr ⟨List.forall_mem_append.mpr
    ⟨isPlain_pairStatements (isScalar_text _),
      List.forall_mem_cons.mpr ⟨defaults, isPlain_pairStatements (isScalar_defaults general)⟩⟩, ?_⟩
  split
  next => exact List.forall_mem_singleton.mpr profiles
  next => exact all

/-- A saved configuration is read as its own table. -/
theorem parse?_of_save {config : Config} {document : String}
    (distinct : (Members.names config.profiles).Nodup) (saved : config.save = .ok document) :
    Toml.parse? document = some config.toToml := by
  rw [save] at saved
  split at saved
  next fits =>
    cases saved
    rw [Toml.parse?, Toml.readStatements_writeStatements (isPlain_statements fits),
      Option.bind_some, ofStatements?_statements distinct]
  next => cases saved

end Config

end ResourceEditor
