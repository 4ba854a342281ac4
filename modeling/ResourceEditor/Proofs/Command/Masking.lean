import ResourceEditor.Proofs.Command.Observation
import ResourceEditor.Proofs.Config.Settings
/-
This file shows that tokens stay secret when a configuration is shown: what is printed for two
configurations is the same if they differ in nothing but what their tokens are.
-/

namespace ResourceEditor

/-- What stands for a setting that may be missing tells which setting it is. -/
theorem Json.elim_null_inj {α : Type} {write : α → Json} (some : ∀ value, write value ≠ .null)
    (apart : ∀ value another, write value = write another → value = another)
    {one other : Option α} :
    one.elim .null write = other.elim .null write ↔ one = other := by
  cases one with
  | none =>
      cases other with
      | none => exact iff_of_true rfl rfl
      | some value => exact iff_of_false (some value).symm nofun
  | some value =>
      cases other with
      | none => exact iff_of_false (some value) nofun
      | some another =>
          refine ⟨fun same => congrArg Option.some (apart value another same), fun same => ?_⟩
          rw [same]

namespace Profile

/-- Two profiles differ at most in what their tokens are. -/
def SameButToken (one other : Profile) : Prop :=
  { one with token := none } = { other with token := none } ∧
    one.token.isSome = other.token.isSome

theorem redacted_eq_iff {one other : Profile} :
    one.redacted = other.redacted ↔ one.SameButToken other := by
  have masks : (one.token.map fun _ => tokenMask) = (other.token.map fun _ => tokenMask) ↔
      one.token.isSome = other.token.isSome := by
    cases one.token <;> cases other.token <;> simp
  simp only [redacted, SameButToken, Profile.mk.injEq, masks, true_and]
  tauto

/-- The lines are those of the copy that has only a mask. -/
theorem lines_redacted (profile : Profile) : profile.redacted.lines = profile.lines := by
  rw [lines, lines, redacted]
  cases profile.token <;> rfl

/-- The document of a profile says all its settings. -/
theorem toJson_inj {one other : Profile} : one.toJson = other.toJson ↔ one = other := by
  have text (value another : Option String) :
      value.elim Json.null Json.string = another.elim .null .string ↔ value = another :=
    Json.elim_null_inj nofun fun _ _ => Json.string.inj
  have flag (value another : Option Bool) :
      value.elim Json.null Json.bool = another.elim .null .bool ↔ value = another :=
    Json.elim_null_inj nofun fun _ _ => Json.bool.inj
  have count (value another : Option Nat) :
      value.elim Json.null (fun seconds => .int seconds) =
        another.elim Json.null (fun seconds => .int seconds) ↔ value = another := by
    refine Json.elim_null_inj nofun fun seconds others same => ?_
    exact Int.ofNat.inj (JsonNumber.integer.inj (Json.number.inj same))
  cases one
  cases other
  simp only [toJson, Json.object.injEq, List.cons.injEq, Prod.mk.injEq, true_and, and_true,
    Json.string.injEq, text, flag, count, Profile.mk.injEq]

end Profile

namespace Profiles

/-- Sorted profiles with the same profile under each name are the same profiles. -/
theorem eq_of_get? {one other : Profiles} (sorted : one.IsSorted) (otherSorted : other.IsSorted)
    (same : ∀ name, Members.get? one name = Members.get? other name) : one = other := by
  have names : Members.names one = Members.names other := by
    refine List.Perm.eq_of_pairwise (fun name another _ _ before after => ?_) sorted otherSorted ?_
    · exact absurd after (lt_asymm before)
    · refine (List.perm_ext_iff_of_nodup sorted.nodup otherSorted.nodup).mpr fun name => ?_
      rw [← Members.has_iff_mem_names, ← Members.has_iff_mem_names, Members.has, Members.has, same]
  exact Members.eq_of_get? otherSorted.nodup names fun name _ => same name

/-- The profiles without their tokens. -/
def redacted (profiles : Profiles) : Profiles :=
  profiles.map fun (name, profile) => (name, profile.redacted)

theorem IsSorted.redacted {profiles : Profiles} (sorted : profiles.IsSorted) :
    profiles.redacted.IsSorted := by
  rw [IsSorted, Profiles.redacted, Members.names, List.map_map]
  exact sorted

theorem redacted_eq_iff {one other : Profiles} (sorted : one.IsSorted)
    (otherSorted : other.IsSorted) :
    one.redacted = other.redacted ↔ ∀ name,
      Option.Rel Profile.SameButToken (Members.get? one name) (Members.get? other name) := by
  have here (profiles : Profiles) (name : String) : Members.get? profiles.redacted name =
      (Members.get? profiles name).map Profile.redacted :=
    Members.get?_map profiles Profile.redacted name
  have each (value another : Option Profile) :
      value.map Profile.redacted = another.map Profile.redacted ↔
        Option.Rel Profile.SameButToken value another := by
    cases value <;> cases another <;>
      simp [Profile.redacted_eq_iff]
  constructor
  · intro same name
    rw [← each, ← here, ← here, same]
  · intro same
    refine eq_of_get? sorted.redacted otherSorted.redacted fun name => ?_
    rw [here, here, each]
    exact same name

end Profiles

namespace Config

/-- Two configurations differ at most in what the tokens of their profiles are. -/
def SameButTokens (one other : Config) : Prop :=
  one.defaultProfile = other.defaultProfile ∧ one.defaults = other.defaults ∧ ∀ name,
    Option.Rel Profile.SameButToken (Members.get? one.profiles name)
      (Members.get? other.profiles name)

theorem redacted_eq_iff {one other : Config} (sorted : one.profiles.IsSorted)
    (otherSorted : other.profiles.IsSorted) :
    one.redacted = other.redacted ↔ one.SameButTokens other := by
  rw [SameButTokens, ← Profiles.redacted_eq_iff sorted otherSorted, redacted, redacted,
    Config.mk.injEq]
  rfl

theorem text_redacted (config : Config) : config.redacted.text = config.text := by
  rw [text, text, lines, lines, redacted, List.flatMap_map]
  simp only [Profile.lines_redacted]

/-- The document of a configuration says all that is in it. -/
theorem toJson_inj {one other : Config} : one.toJson = other.toJson ↔ one = other := by
  have name (value another : Option String) :
      value.elim Json.null Json.string = another.elim .null .string ↔ value = another :=
    Json.elim_null_inj nofun fun _ _ => Json.string.inj
  have count (value another : Nat) : Json.int value = Json.int another ↔ value = another := by
    rw [Json.int, Json.int, Json.number.injEq, JsonNumber.integer.injEq, Int.ofNat_inj]
  have each : Function.Injective fun pair : String × Profile => (pair.1, pair.2.toJson) := by
    intro pair another same
    obtain ⟨names, settings⟩ := Prod.mk.inj same
    exact Prod.ext names (Profile.toJson_inj.mp settings)
  have profiles : (one.profiles.map fun (name, profile) => (name, profile.toJson)) =
      (other.profiles.map fun (name, profile) => (name, profile.toJson)) ↔
        one.profiles = other.profiles := each.list_map.eq_iff
  cases one with | mk _ defaults _ =>
  cases other with | mk _ others _ =>
  cases defaults
  cases others
  simp only [toJson, Json.object.injEq, List.cons.injEq, Prod.mk.injEq, true_and, and_true,
    Json.string.injEq, Json.bool.injEq, name, count, profiles, Config.mk.injEq, Defaults.mk.injEq]

/-- What is shown of two configurations is the same just if they differ in tokens only. -/
theorem view_eq_iff {one other : Config} (sorted : one.profiles.IsSorted)
    (otherSorted : other.profiles.IsSorted) :
    one.view = other.view ↔ one.SameButTokens other := by
  rw [← redacted_eq_iff sorted otherSorted]
  constructor
  · intro same
    exact toJson_inj.mp (congrArg View.document same)
  · intro same
    rw [view, view, ← text_redacted one, ← text_redacted other, same]

end Config

namespace Action

theorem printed_eq (text output : String) : printed text output = output ++ printed text "" := by
  rw [printed, printed]
  cases text.isEmpty with
  | true => exact (String.append_empty).symm
  | false =>
      change output ++ text ++ "\n" = output ++ ("" ++ text ++ "\n")
      rw [String.empty_append, String.append_assoc]

end Action

/-- What is printed when a configuration is shown. -/
def Config.shown (config : Config) (options : GlobalOptions) : String :=
  if options.quiet then "" else Action.printed (config.view.render options.output) ""

/-- The configuration is shown, and nothing else happens. -/
theorem Command.observe_showConfig {world : World} {progress : Progress} {config : Config}
    (loaded : Config.loadOrDefault progress.document world.environment = config) :
    showConfig.observe world progress =
      (⟨.ok (), { progress with output := progress.output ++ config.shown world.options }⟩,
        []) := by
  have shows : showConfig.action.observe world progress [] =
      ((.ok (), if world.options.quiet then progress
        else { progress with
          output := Action.printed (config.view.render world.options.output) progress.output }),
        []) := by
    rw [action, Action.showConfig, Action.observe_bind, Action.observe_config, loaded]
    exact Action.observe_present _
  rw [observe_eq, shows, Config.shown]
  cases world.options.quiet with
  | true => rw [if_pos rfl, if_pos rfl, String.append_empty]
  | false =>
      rw [Action.printed_eq]
      rfl

/-- What is shown of a configuration says nothing about what its tokens are: two configurations that
differ in nothing else are shown in the same way, in every format, and whatever else differs between
the two runs. Everything else is told by what is shown. -/
theorem Config.shows_no_tokens {one other : Config} (sorted : one.profiles.IsSorted)
    (otherSorted : other.profiles.IsSorted) :
    (one.view = other.view ↔ one.SameButTokens other) ∧
    (one.SameButTokens other →
      (∀ format, one.view.render format = other.view.render format) ∧
      ∀ (world otherWorld : World) (progress otherProgress : Progress),
        world.options = otherWorld.options →
        loadOrDefault progress.document world.environment = one →
        loadOrDefault otherProgress.document otherWorld.environment = other →
        let shown := one.shown world.options
        Command.showConfig.observe world progress =
          (⟨.ok (), { progress with output := progress.output ++ shown }⟩, []) ∧
        Command.showConfig.observe otherWorld otherProgress =
          (⟨.ok (), { otherProgress with output := otherProgress.output ++ shown }⟩, [])) := by
  refine ⟨view_eq_iff sorted otherSorted, fun same => ?_⟩
  have view := (view_eq_iff sorted otherSorted).mpr same
  refine ⟨fun format => by rw [view], fun world otherWorld progress otherProgress options => ?_⟩
  intro loaded otherLoaded
  have shown : one.shown world.options = other.shown otherWorld.options := by
    rw [Config.shown, Config.shown, view, options]
  exact ⟨Command.observe_showConfig loaded, shown ▸ Command.observe_showConfig otherLoaded⟩

/-- A configuration with one profile, which has a token. -/
def tokenConfig (token : String) : Config where
  profiles := [("lab", { controller := "http://[::1]", token := some token })]

def tokenDocument (token : String) : String :=
  "[profiles.lab]\ncontroller = \"http://[::1]\"\ntoken = \"" ++ token ++ "\"\n"

def tokenWorld : World where
  options := { output := .yaml }
  controller := fun _ => .refused

/-- What is printed when a configuration with this token is shown. -/
def tokenShown (token : String) : String :=
  let progress : Progress := { document := some (tokenDocument token) }
  (Command.showConfig.observe tokenWorld progress).1.progress.output

theorem tokenConfig_shows_no_tokens :
    (tokenConfig "one").profiles.IsSorted ∧ (tokenConfig "two").profiles.IsSorted ∧
      (tokenConfig "one").SameButTokens (tokenConfig "two") ∧
      tokenShown "one" = tokenShown "two" := by
  have sorted (token : String) : (tokenConfig token).profiles.IsSorted :=
    List.pairwise_singleton _ _
  have same : (tokenConfig "one").SameButTokens (tokenConfig "two") := by
    refine ⟨rfl, rfl, fun name => ?_⟩
    rw [tokenConfig, tokenConfig, Members.get?_cons, Members.get?_cons]
    split
    · exact .some ⟨rfl, rfl⟩
    · exact .none
  have loaded : Config.loadOrDefault (some (tokenDocument "one")) [] = tokenConfig "one" := by
    decide +kernel
  have otherLoaded : Config.loadOrDefault (some (tokenDocument "two")) [] = tokenConfig "two" := by
    decide +kernel
  have secret := (Config.shows_no_tokens (sorted "one") (sorted "two")).2 same
  obtain ⟨shown, otherShown⟩ := secret.2 tokenWorld tokenWorld
    { document := some (tokenDocument "one") } { document := some (tokenDocument "two") } rfl loaded
    otherLoaded
  refine ⟨sorted "one", sorted "two", same, ?_⟩
  rw [tokenShown, tokenShown, shown, otherShown]

end ResourceEditor
