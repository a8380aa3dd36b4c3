import Mathlib.Data.List.Induction
import Reattempt.Proofs.Settings

/-! Merging settings into a configuration, one set after another. Sets that are merged in
turn say the same as the later ones written into the earlier ones, and a set that is refused
leaves no trace. -/

namespace Reattempt

namespace Setting

def writeInto (setting : Setting) : List Setting → List Setting
  | [] => [setting]
  | other :: rest =>
      if other.name = setting.name then setting :: rest else other :: setting.writeInto rest

def updated (first second : List Setting) : List Setting :=
  second.foldl (fun settings setting => setting.writeInto settings) first

private theorem last?_cons (field : Config.Field) (first : Setting) (rest : List Setting) :
    last? field (first :: rest) =
      (last? field rest).or (if first.name = .field field then some first else none) := by
  by_cases names : first.name = .field field
  · rw [last?, List.filter_cons_of_pos (by simpa using names), List.getLast?_cons, ← last?]
    cases last? field rest <;> simp [names]
  · simp [last?, names]

private theorem last?_append (field : Config.Field) (first second : List Setting) :
    last? field (first ++ second) = (last? field second).or (last? field first) := by
  rw [last?, List.filter_append, List.getLast?_append]
  rfl

private theorem last?_eq_none {field : Config.Field} {settings : List Setting}
    (absent : .field field ∉ settings.map name) : last? field settings = none := by
  rw [last?, List.getLast?_eq_none_iff, List.filter_eq_nil_iff]
  intro setting member names
  exact absent (List.mem_map.mpr ⟨setting, member, of_decide_eq_true names⟩)

private theorem last?_writeInto (field : Config.Field) (setting : Setting) {settings : List Setting}
    (distinct : (settings.map name).Nodup) :
    last? field (setting.writeInto settings) =
      if setting.name = .field field then some setting else last? field settings := by
  induction settings with
  | nil =>
      rw [writeInto, last?_cons]
      rfl
  | cons other rest induction =>
      rw [List.map_cons, List.nodup_cons] at distinct
      rw [writeInto]
      split
      · next same =>
          by_cases names : setting.name = .field field
          · have absent : last? field rest = none := by
              apply last?_eq_none
              rw [← names, ← same]
              exact distinct.1
            simp [last?_cons, names, absent]
          · simp [last?_cons, names, same]
      · rw [last?_cons, induction distinct.2, last?_cons]
        split <;> simp

private theorem mem_names_writeInto {setting : Setting} {settings : List Setting} {called : Name} :
    called ∈ (setting.writeInto settings).map name ↔
      called = setting.name ∨ called ∈ settings.map name := by
  induction settings with
  | nil => simp [writeInto]
  | cons other rest induction =>
      rw [writeInto]
      split
      · next same => simp [same]
      · simp only [List.map_cons, List.mem_cons, induction]
        grind

private theorem nodup_writeInto {setting : Setting} {settings : List Setting}
    (distinct : (settings.map name).Nodup) :
    ((setting.writeInto settings).map name).Nodup := by
  induction settings with
  | nil => simp [writeInto]
  | cons other rest induction =>
      rw [List.map_cons, List.nodup_cons] at distinct
      rw [writeInto]
      split
      · next same => simpa [← same] using distinct
      · next different =>
          rw [List.map_cons, List.nodup_cons, mem_names_writeInto]
          refine ⟨?_, induction distinct.2⟩
          rintro (same | member)
          · exact different same
          · exact distinct.1 member

private theorem unknownKey?_eq_of_name {setting other : Setting}
    (same : setting.name = other.name) : setting.unknownKey? = other.unknownKey? := by
  cases setting <;> cases other <;> simp_all [name, unknownKey?]

private theorem findSome?_unknownKey?_writeInto (setting : Setting) (settings : List Setting) :
    (setting.writeInto settings).findSome? unknownKey? =
      (settings.findSome? unknownKey?).or setting.unknownKey? := by
  induction settings with
  | nil =>
      rw [writeInto, List.findSome?_cons]
      cases setting.unknownKey? <;> rfl
  | cons other rest induction =>
      rw [writeInto]
      split
      · next same =>
          rw [List.findSome?_cons, List.findSome?_cons, unknownKey?_eq_of_name same]
          cases setting.unknownKey? <;> simp
      · rw [List.findSome?_cons, List.findSome?_cons, induction]
        cases other.unknownKey? <;> simp

/-! The names, the last values and the first unknown key of settings that are written into
others, one after another. -/

variable {first second : List Setting}

private theorem mem_names_updated {called : Name} :
    called ∈ (updated first second).map name ↔
      called ∈ first.map name ∨ called ∈ second.map name := by
  induction second generalizing first with
  | nil => simp [updated]
  | cons setting rest induction =>
      rw [updated, List.foldl_cons, ← updated, induction, mem_names_writeInto, List.map_cons,
        List.mem_cons]
      grind

theorem last?_updated (field : Config.Field) (distinct : (first.map name).Nodup) :
    last? field (updated first second) = (last? field second).or (last? field first) := by
  induction second generalizing first with
  | nil => rfl
  | cons setting rest induction =>
      rw [updated, List.foldl_cons, ← updated, induction (nodup_writeInto distinct),
        last?_writeInto field setting distinct, last?_cons, Option.or_assoc]
      split <;> simp

private theorem findSome?_unknownKey?_updated :
    (updated first second).findSome? unknownKey? =
      (first.findSome? unknownKey?).or (second.findSome? unknownKey?) := by
  induction second generalizing first with
  | nil => simp [updated]
  | cons setting rest induction =>
      rw [updated, List.foldl_cons, ← updated, induction, findSome?_unknownKey?_writeInto,
        List.findSome?_cons, Option.or_assoc]
      cases setting.unknownKey? <;> simp

end Setting

namespace Config

variable {config merged : Config} {first second : List Setting}

theorem overridden_append (field : Field) :
    config.overridden (first ++ second) field =
      (Setting.last? field second).getD (config.overridden first field) := by
  rw [overridden, overridden, Setting.last?_append]
  cases Setting.last? field second <;> rfl

theorem owned_iff {settings : List Setting} :
    settings.any Setting.namesOwner = true ↔
      .other Keyword.owner ∈ settings.map Setting.name := by
  rw [List.any_eq_true, List.mem_map]
  refine exists_congr fun setting => and_congr_right fun _ => ?_
  cases setting <;> simp [Setting.namesOwner, Setting.name]

theorem known_of_merge (merges : config.merge first = .ok merged) :
    first.findSome? Setting.unknownKey? = none := by
  rw [List.findSome?_eq_none_iff]
  exact (merge_eq_ok_iff.mp merges).1

/-- Merging twice is merging once with the second settings written into the first ones. -/
theorem merge_updated (distinct : (first.map Setting.name).Nodup)
    (merges : config.merge first = .ok merged) :
    merged.merge second = config.merge (Setting.updated first second) := by
  have known := known_of_merge merges
  have fields := (merge_eq_ok_iff.mp merges).2.2
  have owned : (Setting.updated first second).any Setting.namesOwner =
      second.any Setting.namesOwner := by
    have unowned : .other Keyword.owner ∉ first.map Setting.name := by
      rw [← owned_iff]
      intro owned
      rw [merge, if_pos owned] at merges
      cases merges
    rw [Bool.eq_iff_iff, owned_iff, owned_iff, Setting.mem_names_updated]
    exact or_iff_right unowned
  have unknown : firstUnknown? (Setting.updated first second) = firstUnknown? second := by
    rw [firstUnknown?_eq, firstUnknown?_eq, Setting.findSome?_unknownKey?_updated, known,
      Option.none_or]
  have drafts : (Setting.updated first second).foldl Draft.put config.draft =
      second.foldl Draft.put merged.draft := by
    apply Draft.ext_setting
    intro field
    rw [Draft.setting_foldl_put, Draft.setting_foldl_put, setting_draft, setting_draft, fields,
      Setting.last?_updated field distinct, overridden]
    cases Setting.last? field second <;> rfl
  rw [merge, merge, ofDraft, ofDraft, owned, unknown, drafts]

/-- A configuration is built like one that is merged into the default. -/
theorem ofSettings_eq_ok_iff {settings : List Setting} :
    ofSettings settings = .ok merged ↔ Config.default.merge settings = .ok merged := by
  have builds : ofSettings settings = ofDraft Config.default.draft settings := rfl
  rw [builds, merge]
  split
  · next owned =>
      rcases List.any_eq_true.mp owned with ⟨setting, member, names⟩
      have unknown : ∃ key, setting.unknownKey? = some key := by
        cases setting <;> simp_all [Setting.namesOwner, Setting.unknownKey?]
      have found : settings.findSome? Setting.unknownKey? ≠ none := by
        intro none
        rcases unknown with ⟨key, isKey⟩
        rw [List.findSome?_eq_none_iff.mp none setting member] at isKey
        cases isKey
      rw [ofDraft, firstUnknown?_eq]
      cases key : settings.findSome? Setting.unknownKey? with
      | none => exact absurd key found
      | some key => simp
  · rfl

/-- Merge sets of settings one after another, each into the latest configuration. -/
def latest (config : Config) : List (List Setting) → Config
  | [] => config
  | settings :: rest =>
      match config.merge settings with
      | .ok merged => merged.latest rest
      | .error _ => config.latest rest

def accepted (config : Config) : List (List Setting) → List (List Setting)
  | [] => []
  | settings :: rest =>
      match config.merge settings with
      | .ok merged => settings :: merged.accepted rest
      | .error _ => config.accepted rest

/-- Each field has the value of the last setting for it that was not refused. -/
theorem setting_latest (config : Config) (sets : List (List Setting)) (field : Field) :
    (config.latest sets).setting field =
      config.overridden (config.accepted sets).flatten field := by
  induction sets generalizing config with
  | nil => rfl
  | cons settings rest induction =>
      rw [latest, accepted]
      split
      · next merged merges =>
          have fields := (merge_eq_ok_iff.mp merges).2.2
          rw [induction, List.flatten_cons, overridden_append, ← fields, overridden]
      · exact induction config

end Config

/-! ## Everything that is made -/

inductive Making where
  | build (settings : List Setting)
  | merge (source : Nat) (settings : List Setting)

namespace Making

def answer? (made : List Config) : Making → Option (Except ConfigError Config)
  | .build settings => some (Config.ofSettings settings)
  | .merge source settings => made[source]?.map (·.merge settings)

def added (made : List Config) (making : Making) : List Config :=
  ((making.answer? made).bind Except.toOption).toList

def madeBy (makings : List Making) : List Config :=
  makings.foldl (fun made making => made ++ making.added made) []

theorem madeBy_concat (makings : List Making) (making : Making) :
    madeBy (makings ++ [making]) = madeBy makings ++ making.added (madeBy makings) := by
  rw [madeBy, List.foldl_append]
  rfl

theorem madeBy_prefix (makings later : List Making) :
    madeBy makings <+: madeBy (makings ++ later) := by
  induction later using List.reverseRecOn with
  | nil => simp
  | append_singleton earlier last induction =>
      rw [← List.append_assoc, madeBy_concat]
      exact induction.trans (List.prefix_append _ _)

end Making

namespace Config

/-- What merging promises. The last setting of a field counts, whether it is merged at once,
in a second step or after others that were refused. -/
structure LastWins (config : Config) : Prop where
  nothing : config.merge [] = .ok config
  accepts : ∀ {settings : List Setting} {merged : Config},
    config.merge settings = .ok merged ↔ (∀ setting ∈ settings, setting.unknownKey? = none) ∧
      (∀ field, (config.overridden settings field).Fits) ∧
      ∀ field, merged.setting field = config.overridden settings field
  refuses : ∀ {settings : List Setting} {error : ConfigError},
    config.merge settings = .error error ↔ (config.complaints settings).head? = some error
  twice : ∀ {first second : List Setting} {merged : Config}, (first.map Setting.name).Nodup →
    config.merge first = .ok merged →
      merged.merge second = config.merge (Setting.updated first second)
  inTurn : ∀ (sets : List (List Setting)) (field : Field), (config.latest sets).setting field =
    config.overridden (config.accepted sets).flatten field

end Config

structure Making.Lasting (makings : List Making) : Prop where
  fits : ∀ made ∈ madeBy makings, ∀ field, (made.setting field).Fits
  stays : ∀ later, madeBy makings <+: madeBy (makings ++ later)
  refused : ∀ {making : Making} {error : ConfigError},
    making.answer? (madeBy makings) = some (.error error) →
      madeBy (makings ++ [making]) = madeBy makings
  builds : ∀ {settings : List Setting} {built : Config},
    Config.ofSettings settings = .ok built ↔ Config.default.merge settings = .ok built

/-- Merging is governed by the last setting of each field. It makes configurations whose
fields fit and changes none that was made before. -/
theorem Config.merge_lastWins (config : Config) (makings : List Making) :
    config.LastWins ∧ Making.Lasting makings := by
  refine ⟨⟨merge_nil config, merge_eq_ok_iff, merge_eq_error_iff, merge_updated,
    setting_latest config⟩, fun made _ => made.fits_setting, Making.madeBy_prefix makings, ?_,
    ofSettings_eq_ok_iff⟩
  intro making error refused
  rw [Making.madeBy_concat, Making.added, refused]
  exact List.append_nil _

/-- A second set of settings is refused for its limit, as are both sets at once, although the
first one is accepted. -/
theorem Config.merge_lastWins_refused :
    let first : List Setting := [.maxAttempts 5, .retryTypes (.listed [.system])]
    let second : List Setting := [.predicate (.value .null), .maxAttempts 0]
    (first.map Setting.name).Nodup ∧ ∃ merged, Config.default.merge first = .ok merged ∧
      merged.merge second = .error (.limitOutOfRange 0) ∧
      Config.default.merge (Setting.updated first second) = .error (.limitOutOfRange 0) := by
  intro first second
  have distinct : (first.map Setting.name).Nodup := by decide
  have merges : Config.default.merge first = .ok _ := rfl
  have contract := (merge_lastWins Config.default []).1
  have refused : Config.default.merge (Setting.updated first second) =
      .error (.limitOutOfRange 0) := contract.refuses.mpr rfl
  exact ⟨distinct, _, merges, (contract.twice distinct merges).trans refused, refused⟩

end Reattempt
