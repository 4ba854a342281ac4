import ResourceEditor.Proofs.Command.Observation
import ResourceEditor.Proofs.Config.Saving
/-
This file says what becomes of the rest of a configuration when a profile is set up, and when
nothing becomes of it.
-/

namespace ResourceEditor

/-- The table of a document, which is empty when there is no document. -/
def Config.table? (document : Option String) : Option Toml :=
  document.elim (some (.table [])) Toml.parse?

/-- The settings that the command line has for a profile. -/
def Profile.given (url : String) (username : Option String) (options : GlobalOptions) :
    Members Toml :=
  (({} : Profile).changed url username options).entries

/-- A setting of a profile. -/
def Toml.setting? (document : Toml) (profile name : String) : Option Toml :=
  (document.profile? profile).bind (· name)

/-- From one document to another no other profile and no default changes, and no setting comes up
that was neither in the document nor given nor built in. -/
structure Toml.Keeps (active : String) (given : Members Toml) (old new : Toml) : Prop where
  profiles : ∀ name, name ≠ active → new.profile? name = old.profile? name
  defaults : ∀ name value, old.default? name = some value → new.default? name = some value
  builtIn : ∀ name value, new.default? name = some value →
    old.default? name = some value ∨ ({} : Config).toToml.default? name = some value
  settings : ∀ name value, new.setting? active name = some value →
    old.setting? active name = some value ∨ given.get? name = some value

/-- Outside of a profile a document has no names that configurations do not know. -/
structure Toml.IsKnown (active : String) (document : Toml) : Prop where
  profiles : ∀ name, name ≠ active →
    (document.profile? name).map (Toml.among Profile.fieldNames) = document.profile? name
  defaults : Toml.among Defaults.fieldNames document.default? = document.default?

/-- Outside of a profile the same configuration comes of two documents, and in the profile nothing
comes up that is not given. -/
structure Toml.Agrees (active : String) (given : Members Toml) (before settings : Toml) : Prop where
  profiles : ∀ name, name ≠ active →
    (settings.profile? name).map (Toml.among Profile.fieldNames) =
      (before.profile? name).map (Toml.among Profile.fieldNames)
  defaults : ∀ name ∈ Defaults.fieldNames,
    (settings.default? name).or (({} : Config).toToml.default? name) =
      (before.default? name).or (({} : Config).toToml.default? name)
  settings : ∀ name ∈ Profile.fieldNames, given.get? name = none →
    ∀ value, settings.setting? active name = some value → before.setting? active name = some value

/-- Without variables nothing changes. -/
theorem Toml.Agrees.refl (active : String) (given : Members Toml) (settings : Toml) :
    Agrees active given settings settings :=
  ⟨fun _ _ => rfl, fun _ _ => rfl, fun _ _ _ _ found => found⟩

/-- A document has no other profile and no other default than the built-in ones. -/
structure Toml.IsBare (active : String) (document : Toml) : Prop where
  profiles : ∀ name, name ≠ active → document.profile? name = none
  defaults : ∀ name value, document.default? name = some value →
    ({} : Config).toToml.default? name = some value

namespace Profile

theorem get?_entries_of_not_mem (profile : Profile) {name : String} (unknown : name ∉ fieldNames) :
    Members.get? profile.entries name = none :=
  Members.get?_of_not_mem fun listed => unknown (profile.names_entries.subset listed)

/-- What is given replaces a setting, and every other setting stays. -/
theorem get?_entries_changed (profile : Profile) (url : String) (username : Option String)
    (options : GlobalOptions) (name : String) :
    Members.get? (profile.changed url username options).entries name =
      ((given url username options).get? name).or (Members.get? profile.entries name) := by
  by_cases known : name ∈ fieldNames
  · simp only [fieldNames, List.mem_cons, List.not_mem_nil, or_false] at known
    rcases known with rfl | rfl | rfl | rfl | rfl | rfl | rfl
    all_goals
      simp [given, entries, changed, Members.get?_append, Toml.Field.get?_entry, Members.get?_cons]
    · cases username <;> rfl
    · cases options.insecure <;> rfl
    · cases options.timeout <;> rfl
  · rw [given, get?_entries_of_not_mem _ known, get?_entries_of_not_mem _ known,
      get?_entries_of_not_mem _ known, Option.or_none]

end Profile

namespace Config

section

variable (config : Config) (options : GlobalOptions) (url : String) (username : Option String)
  (setDefault : Bool)

theorem profile?_withProfile {name : String} (other : name ≠ config.profileName options.profile) :
    (config.withProfile options url username setDefault).toToml.profile? name =
      config.toToml.profile? name := by
  rw [profile?_toToml, profile?_toToml, withProfile, Profiles.get?_insert, if_neg (Ne.symm other)]

theorem default?_withProfile :
    (config.withProfile options url username setDefault).toToml.default? =
      config.toToml.default? := by
  funext name
  rw [default?_toToml, default?_toToml]
  rfl

theorem setting?_withProfile (name : String) :
    (config.withProfile options url username setDefault).toToml.setting?
        (config.profileName options.profile) name =
      ((Profile.given url username options).get? name).or
        (config.toToml.setting? (config.profileName options.profile) name) := by
  rw [Toml.setting?, Toml.setting?, profile?_toToml, profile?_toToml, withProfile,
    Profiles.get?_insert, if_pos rfl, Option.map_some, Option.bind_some,
    Profile.get?_entries_changed]
  cases found : Members.get? config.profiles (config.profileName options.profile) with
  | some profile => rfl
  | none =>
      -- a new profile is made from one without a controller, and a controller is always given
      have empty : Members.get? ({} : Profile).entries name =
          if "controller" = name then some (.string "") else none :=
        Members.get?_cons _ _ [] name
      rw [Option.getD_none, empty, Option.map_none, Option.bind_none]
      split
      next same =>
        subst same
        rfl
      next => rfl

end

theorem among_comp_among (names : List String) :
    Toml.among names ∘ Toml.among names = Toml.among names := by
  funext settings name
  rw [Function.comp, Toml.among]
  split
  next => rfl
  next unknown => rw [Toml.among, if_neg unknown]

theorem default?_builtIn_isSome {name : String} (known : name ∈ Defaults.fieldNames) :
    ∃ value, ({} : Config).toToml.default? name = some value := by
  simp only [Defaults.fieldNames, List.mem_cons, List.not_mem_nil, or_false] at known
  rcases known with rfl | rfl | rfl | rfl <;> exact ⟨_, rfl⟩

section

variable {config : Config} {added : Members Toml} {settings : Toml}
  (options : GlobalOptions) (url : String) (username : Option String) (setDefault : Bool)

section

variable (tidy : (Toml.table added).IsTidy) (tidySettings : settings.IsTidy)
  (read : ofToml? settings = some config)

include tidy tidySettings read

/-- Another profile stays when it has no unknown names and is the same with the variables. -/
theorem profile_kept_iff {name : String} (other : name ≠ config.profileName options.profile) :
    (config.withProfile options url username setDefault).toToml.profile? name =
        (Toml.table added).profile? name ↔
      ((Toml.table added).profile? name).map (Toml.among Profile.fieldNames) =
          (Toml.table added).profile? name ∧
        (settings.profile? name).map (Toml.among Profile.fieldNames) =
          ((({} : Config).toToml.overlay (.table added)).profile? name).map
            (Toml.among Profile.fieldNames) := by
  rw [profile?_withProfile config options url username setDefault other,
    profile?_of_ofToml? tidySettings read, profile?_overlay_builtIn tidy]
  constructor
  · intro kept
    rw [← kept, Option.map_map, among_comp_among]
    exact ⟨rfl, rfl⟩
  · rintro ⟨known, agrees⟩
    exact agrees.trans known

omit tidySettings in
/-- A default stays and is no new one when it has a known name and is the same with the
variables. -/
theorem default_kept_iff (name : String) :
    ((∀ value, (Toml.table added).default? name = some value →
          (config.withProfile options url username setDefault).toToml.default? name = some value) ∧
        ∀ value,
          (config.withProfile options url username setDefault).toToml.default? name = some value →
            (Toml.table added).default? name = some value ∨
              ({} : Config).toToml.default? name = some value) ↔
      Toml.among Defaults.fieldNames (Toml.table added).default? name =
          (Toml.table added).default? name ∧
        (name ∈ Defaults.fieldNames →
          (settings.default? name).or (({} : Config).toToml.default? name) =
            ((({} : Config).toToml.overlay (.table added)).default? name).or
              (({} : Config).toToml.default? name)) := by
  rw [default?_withProfile, default?_of_ofToml? read, default?_overlay_builtIn tidy, Toml.among,
    Toml.among]
  by_cases known : name ∈ Defaults.fieldNames
  · obtain ⟨builtIn, found⟩ := default?_builtIn_isSome known
    -- a known default is in the document or built in, and in the settings or built in
    cases (Toml.table added).default? name <;> cases settings.default? name <;> grind
  · cases (Toml.table added).default? name <;> simp [known]

/-- A setting of the active profile is no new one when it is given, or unknown, or not from the
variables. -/
theorem setting_kept_iff (name : String) :
    (∀ value, (config.withProfile options url username setDefault).toToml.setting?
          (config.profileName options.profile) name = some value →
        (Toml.table added).setting? (config.profileName options.profile) name = some value ∨
          (Profile.given url username options).get? name = some value) ↔
      (name ∈ Profile.fieldNames → (Profile.given url username options).get? name = none →
        ∀ value, settings.setting? (config.profileName options.profile) name = some value →
          (({} : Config).toToml.overlay (.table added)).setting?
            (config.profileName options.profile) name = some value) := by
  have active : (config.withProfile options url username setDefault).toToml.setting?
      (config.profileName options.profile) name =
        ((Profile.given url username options).get? name).or
          (Toml.among Profile.fieldNames
            (settings.setting? (config.profileName options.profile)) name) := by
    rw [setting?_withProfile, Toml.setting?, profile?_of_ofToml? tidySettings read]
    cases found : settings.profile? (config.profileName options.profile) <;>
      simp [Toml.among, Toml.setting?, found]
  have before : (({} : Config).toToml.overlay (.table added)).setting?
      (config.profileName options.profile) name =
        (Toml.table added).setting? (config.profileName options.profile) name := by
    rw [Toml.setting?, profile?_overlay_builtIn tidy, Toml.setting?]
  rw [active, before, Toml.among]
  by_cases known : name ∈ Profile.fieldNames <;>
    cases (Profile.given url username options).get? name <;> simp [known]

/-- A document whose settings make a configuration is kept just when it has no other names than
configurations, and the settings agree with the document. -/
theorem keeps_iff_of_ofToml? :
    Toml.Keeps (config.profileName options.profile) (Profile.given url username options)
        (.table added) (config.withProfile options url username setDefault).toToml ↔
      (Toml.table added).IsKnown (config.profileName options.profile) ∧
        Toml.Agrees (config.profileName options.profile) (Profile.given url username options)
          (({} : Config).toToml.overlay (.table added)) settings := by
  have profiles (name : String) (other : name ≠ config.profileName options.profile) :=
    profile_kept_iff options url username setDefault tidy tidySettings read other
  have defaults (name : String) := default_kept_iff options url username setDefault tidy read name
  have active (name : String) :=
    setting_kept_iff options url username setDefault tidy tidySettings read name
  constructor
  · intro keeps
    have kept (name : String) := (defaults name).mp ⟨keeps.defaults name, keeps.builtIn name⟩
    exact ⟨⟨fun name other => ((profiles name other).mp (keeps.profiles name other)).1,
        funext fun name => (kept name).1⟩,
      fun name other => ((profiles name other).mp (keeps.profiles name other)).2,
      fun name => (kept name).2, fun name => (active name).mp (keeps.settings name)⟩
  · rintro ⟨known, agrees⟩
    have kept (name : String) :=
      (defaults name).mpr ⟨congrFun known.defaults name, agrees.defaults name⟩
    exact ⟨fun name other =>
        (profiles name other).mpr ⟨known.profiles name other, agrees.profiles name other⟩,
      fun name => (kept name).1, fun name => (kept name).2,
      fun name => (active name).mpr (agrees.settings name)⟩

end

end

/-- A configuration knows all the names that it writes. -/
theorem isKnown_toToml (config : Config) (active : String) :
    config.toToml.IsKnown active := by
  have writes (profile : Profile) : Toml.among Profile.fieldNames (Members.get? profile.entries) =
      Members.get? profile.entries := by
    funext name
    rw [Toml.among]
    split
    next => rfl
    next unknown => exact (profile.get?_entries_of_not_mem unknown).symm
  refine ⟨fun name _ => ?_, funext fun name => ?_⟩
  · rw [profile?_toToml, Option.map_map]
    exact Option.map_congr fun profile _ => writes profile
  · rw [Toml.among]
    split
    next => rfl
    next unknown =>
      rw [default?_toToml]
      exact (Members.get?_of_not_mem unknown).symm

/-- A document whose settings make no configuration is kept just when it has nothing to keep. -/
theorem keeps_iff_of_builtIn (options : GlobalOptions) (url : String) (username : Option String)
    (setDefault : Bool) (old : Toml) :
    Toml.Keeps (({} : Config).profileName options.profile) (Profile.given url username options) old
        (({} : Config).withProfile options url username setDefault).toToml ↔
      old.IsBare (({} : Config).profileName options.profile) := by
  have none (name : String) : ({} : Config).toToml.profile? name = none := profile?_toToml {} name
  constructor
  · intro keeps
    refine ⟨fun name other => ?_, fun name value had => ?_⟩
    · rw [← keeps.profiles name other,
        profile?_withProfile {} options url username setDefault other, none]
    · rw [← default?_withProfile {} options url username setDefault]
      exact keeps.defaults name value had
  · intro bare
    refine ⟨fun name other => ?_, fun name value had => ?_, fun name value new => ?_,
      fun name value new => ?_⟩
    · rw [profile?_withProfile {} options url username setDefault other, none,
        bare.profiles name other]
    · rw [default?_withProfile]
      exact bare.defaults name value had
    · rw [default?_withProfile] at new
      exact .inr new
    · rw [setting?_withProfile, Toml.setting?, none, Option.bind_none, Option.or_none] at new
      exact .inr new

end Config

/-- A setup that succeeds leaves the document of the configuration with the profile in it. -/
theorem Command.of_initConfig {world : World} {progress : Progress} {url username : Option String}
    {setDefault : Bool}
    (succeeds : ((initConfig url username setDefault).observe world progress).1.result = .ok ()) :
    ∃ address document, url = some address ∧
      ((Config.loadOrDefault progress.document world.environment).withProfile world.options address
        username setDefault).save = .ok document ∧
      ((initConfig url username setDefault).observe world progress).1.progress.document =
        some document := by
  cases url with
  | none => cases succeeds
  | some address =>
      simp only [observe_eq, action, Action.initConfig, Action.observe_bind, Action.observe_config,
        Action.observe_options] at succeeds ⊢
      cases parsed : (Url.parse address).toOption.isNone with
      | true =>
          simp only [parsed] at succeeds
          cases succeeds
      | false =>
          simp only [parsed, Bool.false_eq_true, if_false, Action.observe_bind,
            Action.observe_orFail, Action.observe_tellSuccess, Action.observe_read,
            Action.observe_tell] at succeeds ⊢
          cases saved : ((Config.loadOrDefault progress.document world.environment).withProfile
              world.options address username setDefault).save with
          | error error =>
              rw [saved] at succeeds
              cases succeeds
          | ok document =>
              refine ⟨address, document, rfl, saved, ?_⟩
              cases world.options.quiet <;> rfl

/-- A document is a table. -/
theorem Config.table_of_table? {document : Option String} {toml : Toml}
    (read : table? document = some toml) :
    ∃ members, toml = .table members ∧ (Toml.table members).IsTidy := by
  cases document with
  | none =>
      cases read
      exact ⟨[], rfl, Toml.isTidy_table.mpr ⟨List.nodup_nil, List.forall_mem_nil _⟩⟩
  | some text =>
      have tidy := Toml.isTidy_of_parse? read
      obtain ⟨lines, _, built⟩ := Option.bind_eq_some_iff.mp read
      obtain ⟨sheet, _, rfl⟩ := Option.map_eq_some_iff.mp built
      exact ⟨_, rfl, tidy⟩

theorem Config.isTidy_builtIn : ({} : Config).toToml.IsTidy := by
  have defaults : (Members.names ({} : Defaults).entries).Nodup := by decide
  refine Toml.isTidy_table.mpr ⟨by decide, ?_⟩
  refine List.forall_mem_cons.mpr ⟨Toml.isDistinct_of_members?_eq_none rfl, ?_⟩
  refine List.forall_mem_cons.mpr ⟨Toml.isDistinct_table.mpr defaults, ?_⟩
  exact List.forall_mem_singleton.mpr (Toml.isDistinct_table.mpr List.nodup_nil)

/-- A saved configuration that has got a profile is read back. -/
theorem Config.parse?_of_save_withProfile {config : Config} {options : GlobalOptions}
    {url document : String} {username : Option String} {setDefault : Bool}
    (sorted : config.profiles.IsSorted)
    (saved : (config.withProfile options url username setDefault).save = .ok document) :
    Toml.parse? document = some (config.withProfile options url username setDefault).toToml :=
  parse?_of_save (sorted.insert (config.profileName options.profile) _).nodup saved

/-- What a well-formed document is loaded as: the configuration that it makes with the variables, or
else the built-in one. -/
theorem Config.loadOrDefault_of_table? {document : Option String} {toml : Toml}
    (wellFormed : table? document = some toml) (environment : Environment) :
    loadOrDefault document environment =
      (ofToml? ((({} : Config).toToml.overlay toml).overlay
        (Variable.settings environment))).getD {} := by
  rw [table?] at wellFormed
  rw [loadOrDefault, load, wellFormed]
  dsimp only
  cases ofToml? ((({} : Config).toToml.overlay toml).overlay (Variable.settings environment)) <;>
    rfl

/-- Setting up a profile keeps the rest of the document just in two cases. Either the document and
the variables over it make a configuration, the document has no names outside of the profile that
configurations do not know, and the variables change nothing outside of the profile and add nothing
to it. Or they make none, and the document has no other profile and no other defaults than those
that are built in. -/
theorem Command.setup_keeps_iff {world : World} {progress : Progress} {url username : Option String}
    {setDefault : Bool} {old : Toml} (wellFormed : Config.table? progress.document = some old)
    (succeeds : ((initConfig url username setDefault).observe world progress).1.result = .ok ()) :
    ∃ address document new, url = some address ∧
      ((initConfig url username setDefault).observe world progress).1.progress.document =
        some document ∧
      Toml.parse? document = some new ∧
      let active := (Config.loadOrDefault progress.document world.environment).profileName
        world.options.profile
      let given := Profile.given address username world.options
      let before := ({} : Config).toToml.overlay old
      let settings := before.overlay (Variable.settings world.environment)
      (Toml.Keeps active given old new ↔
        (Config.ofToml? settings).isSome = true ∧ old.IsKnown active ∧
            Toml.Agrees active given before settings ∨
          Config.ofToml? settings = none ∧ old.IsBare active) := by
  obtain ⟨address, document, given, saved, left⟩ := of_initConfig succeeds
  obtain ⟨members, rfl, tidy⟩ := Config.table_of_table? wellFormed
  have loaded := Config.loadOrDefault_of_table? wellFormed world.environment
  have tidySettings := Toml.isTidy_overlay (Toml.isTidy_overlay Config.isTidy_builtIn tidy)
    (Variable.isTidy_settings world.environment)
  cases read : Config.ofToml? ((({} : Config).toToml.overlay (.table members)).overlay
      (Variable.settings world.environment)) with
  | some config =>
      rw [read, Option.getD_some] at loaded
      rw [loaded] at saved ⊢
      refine ⟨address, document, _, given, left,
        Config.parse?_of_save_withProfile (Config.isSorted_of_ofToml? read) saved, ?_⟩
      have kept := Config.keeps_iff_of_ofToml? world.options address username setDefault tidy
        tidySettings read
      simpa [read] using kept
  | none =>
      rw [read, Option.getD_none] at loaded
      rw [loaded] at saved ⊢
      have sorted : ({} : Config).profiles.IsSorted := List.Pairwise.nil
      refine ⟨address, document, _, given, left,
        Config.parse?_of_save_withProfile sorted saved, ?_⟩
      have kept := Config.keeps_iff_of_builtIn world.options address username setDefault
        (.table members)
      simpa [read] using kept

namespace Command

section Lab

/-- A user who works with the profile of a lab. -/
def labUser : World where
  options := { profile := some "lab" }
  controller := fun _ => .refused

def labSetup : Command := .initConfig (some "http://[::1]") none false

/-- A configuration with a profile that is not the lab's. -/
def labConfig : Config where
  profiles := [("prod", { controller := "https://prod.example", timeout := some 5 })]

def labDocument : String := Toml.writeStatements labConfig.statements

/-- A saved configuration keeps its other profile when there are no variables. -/
theorem labSetup_keeps :
    ∃ document new, labConfig.save = .ok labDocument ∧
      Config.table? (some labDocument) = some labConfig.toToml ∧
      (labSetup.observe labUser { document := some labDocument }).1.result = .ok () ∧
      (labSetup.observe labUser { document := some labDocument }).1.progress.document =
        some document ∧
      Toml.parse? document = some new ∧
      Toml.Keeps "lab" (Profile.given "http://[::1]" none labUser.options) labConfig.toToml
        new := by
  have saved : labConfig.save = .ok labDocument := if_pos (by decide)
  have wellFormed : Config.table? (some labDocument) = some labConfig.toToml := by
    rw [Config.table?, Option.elim_some, Config.parse?_of_save (by decide) saved]
  obtain ⟨⟨⟩, succeeds⟩ := ok_of_isOk (by decide +kernel :
    (labSetup.observe labUser { document := some labDocument }).1.result.isOk = true)
  obtain ⟨address, document, new, given, left, read, keeps⟩ :=
    @setup_keeps_iff labUser { document := some labDocument } (some "http://[::1]") none false
      labConfig.toToml wellFormed succeeds
  have active (config : Config) : config.profileName labUser.options.profile = "lab" := rfl
  have same : address = "http://[::1]" := (Option.some.inj given).symm
  rw [active, same] at keeps
  have made : (Config.ofToml? ((({} : Config).toToml.overlay labConfig.toToml).overlay
      (Variable.settings []))).isSome = true := by decide +kernel
  exact ⟨document, new, saved, wellFormed, succeeds, left, read, keeps.mpr (.inl
    ⟨made, labConfig.isKnown_toToml _, Toml.Agrees.refl _ _ _⟩)⟩

/-- In this document the timeout of another profile is a text. -/
def labMisfit : String :=
  "[profiles.prod]\ncontroller = \"https://prod.example\"\ntimeout = \"5\"\n"

/-- The document is well formed and the setup succeeds, but the other profile is lost. -/
theorem labSetup_drops :
    ∃ old document new, Config.table? (some labMisfit) = some old ∧
      (labSetup.observe labUser { document := some labMisfit }).1.result = .ok () ∧
      (labSetup.observe labUser { document := some labMisfit }).1.progress.document =
        some document ∧
      Toml.parse? document = some new ∧
      ¬Toml.Keeps "lab" (Profile.given "http://[::1]" none labUser.options) old new := by
  obtain ⟨⟨⟩, succeeds⟩ := ok_of_isOk (by decide +kernel :
    (labSetup.observe labUser { document := some labMisfit }).1.result.isOk = true)
  have before : ((Config.table? (some labMisfit)).any fun old =>
      (old.profile? "prod").isSome) = true := by decide +kernel
  have after : ((labSetup.observe labUser { document := some labMisfit }).1.progress.document.any
      fun document => (Toml.parse? document).any fun new =>
        (new.profile? "prod").isNone) = true := by decide +kernel
  obtain ⟨old, wellFormed, had⟩ := (Option.any_eq_true _ _).mp before
  obtain ⟨document, left, found⟩ := (Option.any_eq_true _ _).mp after
  obtain ⟨new, read, lost⟩ := (Option.any_eq_true _ _).mp found
  refine ⟨old, document, new, wellFormed, succeeds, left, read, fun keeps => ?_⟩
  rw [← keeps.profiles "prod" (by decide), Option.isNone_iff_eq_none.mp lost] at had
  cases had

end Lab

end Command

end ResourceEditor
