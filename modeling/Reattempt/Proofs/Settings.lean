import Mathlib.Logic.Basic
import Reattempt.Config

/-! The settings of a configuration, field by field. Every field gets the value of the last
setting that names it. What is wrong with settings is found in a fixed order; settings
without a complaint are accepted, and all others are refused with the first one. -/

namespace Reattempt

inductive Config.Field where
  | maxAttempts
  | interval
  | predicate
  | retryTypes
  | ignoreTypes
  deriving DecidableEq, Repr

def Config.Field.all : List Config.Field :=
  [.maxAttempts, .interval, .predicate, .retryTypes, .ignoreTypes]

namespace Setting

inductive Name where
  | field (field : Config.Field)
  | other (key : String)
  deriving DecidableEq, Repr

def name : Setting → Name
  | .maxAttempts _ => .field .maxAttempts
  | .interval _ => .field .interval
  | .predicate _ => .field .predicate
  | .retryTypes _ => .field .retryTypes
  | .ignoreTypes _ => .field .ignoreTypes
  | .unknown key => .other key

def unknownKey? : Setting → Option String
  | .unknown key => some key
  | _ => none

/-- A field may have the value: a limit that is none or positive, a function, or a list of
types. -/
def Fits : Setting → Prop
  | .maxAttempts code => code = AttemptLimit.unlimitedCode ∨ 1 ≤ code
  | .interval offered => ∃ function, offered = .function function
  | .predicate offered => ∃ function, offered = .function function
  | .retryTypes selection => ∃ types, selection = .listed types
  | .ignoreTypes selection => ∃ types, selection = .listed types
  | .unknown _ => False

def complaint? : Setting → Option ConfigError
  | .maxAttempts code =>
      if code = AttemptLimit.unlimitedCode ∨ 1 ≤ code then none else some (.limitOutOfRange code)
  | .interval (.value value) => some (.intervalNotCallable value)
  | .predicate (.value value) => some (.predicateNotCallable value)
  | .retryTypes (.single _) | .ignoreTypes (.single _) => some .typesNotListed
  | .unknown key => some (.unknownSetting key)
  | _ => none

theorem complaint?_eq_none_iff {setting : Setting} : setting.complaint? = none ↔ setting.Fits := by
  cases setting with
  | maxAttempts code => simp [complaint?, Fits, or_iff_not_imp_left]
  | interval offered => cases offered <;> simp [complaint?, Fits]
  | predicate offered => cases offered <;> simp [complaint?, Fits]
  | retryTypes selection => cases selection <;> simp [complaint?, Fits]
  | ignoreTypes selection => cases selection <;> simp [complaint?, Fits]
  | unknown key => simp [complaint?, Fits]

def last? (field : Config.Field) (settings : List Setting) : Option Setting :=
  (settings.filter fun setting => setting.name = .field field).getLast?

end Setting

namespace Config

def setting (config : Config) : Field → Setting
  | .maxAttempts => .maxAttempts config.limit.toInt
  | .interval => .interval (.function config.interval)
  | .predicate => .predicate (.function config.predicate)
  | .retryTypes => .retryTypes (.listed config.retryTypes)
  | .ignoreTypes => .ignoreTypes (.listed config.ignoreTypes)

/-- The value that a field should get: the last one given for it, or else the one it has. -/
def overridden (config : Config) (settings : List Setting) (field : Field) : Setting :=
  (Setting.last? field settings).getD (config.setting field)

def complaints (config : Config) (settings : List Setting) : List ConfigError :=
  (settings.filter Setting.namesOwner).map (fun _ => .ownerGivenTwice) ++
    (settings.filterMap Setting.unknownKey?).map .unknownSetting ++
    Field.all.filterMap fun field => (config.overridden settings field).complaint?

/-! ## Drafts -/

namespace Draft

def setting (draft : Draft) : Field → Setting
  | .maxAttempts => .maxAttempts draft.limit
  | .interval => .interval draft.interval
  | .predicate => .predicate draft.predicate
  | .retryTypes => .retryTypes draft.retryTypes
  | .ignoreTypes => .ignoreTypes draft.ignoreTypes

theorem ext_setting {draft other : Draft}
    (same : ∀ field, draft.setting field = other.setting field) : draft = other := by
  cases draft
  cases other
  have limit := same .maxAttempts
  have interval := same .interval
  have predicate := same .predicate
  have retryTypes := same .retryTypes
  have ignoreTypes := same .ignoreTypes
  cases limit
  cases interval
  cases predicate
  cases retryTypes
  cases ignoreTypes
  rfl

theorem setting_put (draft : Draft) (setting : Setting) (field : Field) :
    (draft.put setting).setting field =
      if setting.name = .field field then setting else draft.setting field := by
  cases setting <;> cases field <;> rfl

/-- The last setting of a field counts. -/
theorem setting_foldl_put (draft : Draft) (settings : List Setting) (field : Field) :
    (settings.foldl put draft).setting field =
      (Setting.last? field settings).getD (draft.setting field) := by
  induction settings generalizing draft with
  | nil => rfl
  | cons first rest induction =>
      rw [List.foldl_cons, induction, setting_put]
      by_cases names : first.name = .field field
      · simp [Setting.last?, names, List.getLast?_cons]
      · simp [Setting.last?, names]

end Draft

theorem setting_draft (config : Config) (field : Field) :
    config.draft.setting field = config.setting field := by
  cases field <;> rfl

theorem fits_setting (config : Config) (field : Field) : (config.setting field).Fits := by
  cases field with
  | maxAttempts =>
      cases limit : config.limit with
      | unlimited => simp [setting, Setting.Fits, limit, AttemptLimit.toInt]
      | atMost attempts positive =>
          simp only [setting, Setting.Fits, limit, AttemptLimit.toInt]
          omega
  | interval => exact ⟨_, rfl⟩
  | predicate => exact ⟨_, rfl⟩
  | retryTypes => exact ⟨_, rfl⟩
  | ignoreTypes => exact ⟨_, rfl⟩

end Config

namespace AttemptLimit

private theorem toInt_of_ofInt? {code : Int} {limit : AttemptLimit}
    (found : ofInt? code = some limit) : limit.toInt = code := by
  unfold ofInt? at found
  split at found
  · next unlimited =>
      cases found
      exact unlimited.symm
  · split at found
    · next positive =>
        cases found
        simp only [toInt]
        omega
    · cases found

theorem ofInt?_eq_none_iff {code : Int} :
    ofInt? code = none ↔ ¬ (code = unlimitedCode ∨ 1 ≤ code) := by
  unfold ofInt?
  split
  · next unlimited => simp [unlimited]
  · next limited =>
      split
      · next positive =>
          have bound : 1 ≤ code := by omega
          simp [bound]
      · next nonpositive =>
          have bound : ¬ 1 ≤ code := by omega
          simp [limited, bound]

end AttemptLimit

namespace Config

namespace Draft

/-- The check of one field accepts the value as it is or raises the complaint about it. -/
inductive Judges (setting : Setting) (valued : α → Setting) : Except ConfigError α → Prop
  | accepts {value : α} (same : valued value = setting) (fits : setting.complaint? = none) :
      Judges setting valued (.ok value)
  | refuses {error : ConfigError} (complains : setting.complaint? = some error) :
      Judges setting valued (.error error)

private theorem judges_checkLimit (code : Int) :
    Judges (.maxAttempts code) (fun limit => .maxAttempts limit.toInt) (checkLimit code) := by
  cases found : AttemptLimit.ofInt? code with
  | none =>
      have misfit := AttemptLimit.ofInt?_eq_none_iff.mp found
      rw [checkLimit, found]
      exact .refuses (by simp [Setting.complaint?, misfit])
  | some limit =>
      have fits : code = AttemptLimit.unlimitedCode ∨ 1 ≤ code := by
        apply Decidable.byContradiction
        intro misfit
        rw [AttemptLimit.ofInt?_eq_none_iff.mpr misfit] at found
        cases found
      rw [checkLimit, found]
      exact .accepts (by rw [AttemptLimit.toInt_of_ofInt? found])
        (by simp [Setting.complaint?, fits])

private theorem judges_interval (offered : Offered Backoff) :
    Judges (.interval offered) (fun interval => .interval (.function interval))
      (checkFunction .intervalNotCallable offered) := by
  cases offered with
  | function interval => exact .accepts rfl rfl
  | value value => exact .refuses rfl

private theorem judges_predicate (offered : Offered Predicate) :
    Judges (.predicate offered) (fun predicate => .predicate (.function predicate))
      (checkFunction .predicateNotCallable offered) := by
  cases offered with
  | function predicate => exact .accepts rfl rfl
  | value value => exact .refuses rfl

private theorem judges_retryTypes (selection : TypeSelection) :
    Judges (.retryTypes selection) (fun types => .retryTypes (.listed types))
      (checkTypes selection) := by
  cases selection with
  | listed types => exact .accepts rfl rfl
  | single type => exact .refuses rfl

private theorem judges_ignoreTypes (selection : TypeSelection) :
    Judges (.ignoreTypes selection) (fun types => .ignoreTypes (.listed types))
      (checkTypes selection) := by
  cases selection with
  | listed types => exact .accepts rfl rfl
  | single type => exact .refuses rfl

def complaints (draft : Draft) : List ConfigError :=
  Field.all.filterMap fun field => (draft.setting field).complaint?

theorem judges_check (draft : Draft) :
    (∃ config : Config, draft.check = .ok config ∧ config.draft = draft ∧
        draft.complaints = []) ∨
      ∃ error, draft.check = .error error ∧ draft.complaints.head? = some error := by
  rcases draft with ⟨code, interval, predicate, retryTypes, ignoreTypes⟩
  have limitJudged := judges_checkLimit code
  have intervalJudged := judges_interval interval
  have predicateJudged := judges_predicate predicate
  have retryJudged := judges_retryTypes retryTypes
  have ignoreJudged := judges_ignoreTypes ignoreTypes
  simp only [check, complaints, Field.all, setting, List.filterMap_cons, List.filterMap_nil]
  generalize checkLimit code = limitAnswer at limitJudged
  generalize checkFunction .intervalNotCallable interval = intervalAnswer at intervalJudged
  generalize checkFunction .predicateNotCallable predicate = predicateAnswer at predicateJudged
  generalize checkTypes retryTypes = retryAnswer at retryJudged
  generalize checkTypes ignoreTypes = ignoreAnswer at ignoreJudged
  -- An answer that refuses ends the check; after one that accepts the next field is checked.
  obtain @⟨limit, limitSame, limitFits⟩ | @⟨error, complains⟩ := limitJudged
  case refuses => exact .inr ⟨error, rfl, by simp [complains]⟩
  obtain @⟨interval, intervalSame, intervalFits⟩ | @⟨error, complains⟩ := intervalJudged
  case refuses => exact .inr ⟨error, rfl, by simp [limitFits, complains]⟩
  obtain @⟨predicate, predicateSame, predicateFits⟩ | @⟨error, complains⟩ := predicateJudged
  case refuses => exact .inr ⟨error, rfl, by simp [limitFits, intervalFits, complains]⟩
  obtain @⟨retryTypes, retrySame, retryFits⟩ | @⟨error, complains⟩ := retryJudged
  case refuses =>
    exact .inr ⟨error, rfl, by simp [limitFits, intervalFits, predicateFits, complains]⟩
  obtain @⟨ignoreTypes, ignoreSame, ignoreFits⟩ | @⟨error, complains⟩ := ignoreJudged
  case refuses =>
    exact .inr ⟨error, rfl, by simp [limitFits, intervalFits, predicateFits, retryFits, complains]⟩
  cases limitSame
  cases intervalSame
  cases predicateSame
  cases retrySame
  cases ignoreSame
  exact .inl ⟨⟨limit, interval, predicate, retryTypes, ignoreTypes⟩, rfl, rfl,
    by simp [limitFits, intervalFits, predicateFits, retryFits, ignoreFits]⟩

end Draft

theorem ext_setting {config other : Config}
    (same : ∀ field, config.setting field = other.setting field) : config = other := by
  have drafts : config.draft = other.draft := by
    apply Draft.ext_setting
    intro field
    rw [setting_draft, setting_draft, same]
  have merges : config.draft.check = .ok config := merge_nil config
  rw [drafts] at merges
  have others : other.draft.check = .ok other := merge_nil other
  rw [others] at merges
  cases merges
  rfl

/-! ## One set of settings -/

theorem firstUnknown?_eq (settings : List Setting) :
    firstUnknown? settings = settings.findSome? Setting.unknownKey? := by
  induction settings with
  | nil => rfl
  | cons first rest induction =>
      cases first with
      | unknown key => rfl
      | _ => exact induction

theorem complaints_foldl_put (config : Config) (settings : List Setting) :
    (settings.foldl Draft.put config.draft).complaints =
      Field.all.filterMap fun field => (config.overridden settings field).complaint? := by
  simp only [Draft.complaints, Draft.setting_foldl_put, setting_draft, overridden]

/-- Settings without a complaint give a configuration with their values, and all others are
refused with the first complaint. -/
theorem judges_merge (config : Config) (settings : List Setting) :
    (∃ merged, config.merge settings = .ok merged ∧ config.complaints settings = [] ∧
        ∀ field, merged.setting field = config.overridden settings field) ∨
      ∃ error, config.merge settings = .error error ∧
        (config.complaints settings).head? = some error := by
  cases owned : settings.any Setting.namesOwner with
  | true =>
      refine .inr ⟨.ownerGivenTwice, if_pos owned, ?_⟩
      rcases List.any_eq_true.mp owned with ⟨setting, member, names⟩
      have filtered := List.mem_filter.mpr ⟨member, names⟩
      cases equal : settings.filter Setting.namesOwner with
      | nil =>
          rw [equal] at filtered
          cases filtered
      | cons first rest => simp [complaints, equal]
  | false =>
      have unowned : settings.filter Setting.namesOwner = [] := by
        simpa [List.any_eq_false] using owned
      have merges : config.merge settings = ofDraft config.draft settings := by
        simp [merge, owned]
      rw [merges, ofDraft, firstUnknown?_eq, ← List.head?_filterMap]
      cases unknown : settings.filterMap Setting.unknownKey? with
      | cons key rest =>
          exact .inr ⟨.unknownSetting key, rfl, by simp [complaints, unowned, unknown]⟩
      | nil =>
          have fieldwise : config.complaints settings =
              (settings.foldl Draft.put config.draft).complaints := by
            simp [complaints, unowned, unknown, complaints_foldl_put]
          rw [fieldwise]
          rcases Draft.judges_check (settings.foldl Draft.put config.draft) with
            ⟨merged, checks, same, none⟩ | ⟨error, checks, first⟩
          · refine .inl ⟨merged, checks, none, ?_⟩
            intro field
            rw [← setting_draft, same, Draft.setting_foldl_put, setting_draft, overridden]
          · exact .inr ⟨error, checks, first⟩

theorem complaints_eq_nil_iff {config : Config} {settings : List Setting} :
    config.complaints settings = [] ↔ (∀ setting ∈ settings, setting.unknownKey? = none) ∧
      ∀ field, (config.overridden settings field).Fits := by
  have owned : ∀ setting : Setting, setting.unknownKey? = none → ¬ setting.namesOwner = true := by
    intro setting known
    cases setting <;> simp_all [Setting.namesOwner, Setting.unknownKey?]
  have all : ∀ field, field ∈ Field.all := by
    intro field
    cases field <;> simp [Field.all]
  simp only [complaints, List.append_eq_nil_iff, List.map_eq_nil_iff, List.filter_eq_nil_iff,
    List.filterMap_eq_nil_iff, Setting.complaint?_eq_none_iff]
  constructor
  · rintro ⟨⟨-, known⟩, fits⟩
    exact ⟨known, fun field => fits field (all field)⟩
  · rintro ⟨known, fits⟩
    exact ⟨⟨fun setting member => owned setting (known setting member), known⟩,
      fun field _ => fits field⟩

theorem merge_eq_ok_iff {config merged : Config} {settings : List Setting} :
    config.merge settings = .ok merged ↔ (∀ setting ∈ settings, setting.unknownKey? = none) ∧
      (∀ field, (config.overridden settings field).Fits) ∧
      ∀ field, merged.setting field = config.overridden settings field := by
  rw [← and_assoc, ← complaints_eq_nil_iff]
  rcases config.judges_merge settings with ⟨other, merges, none, fields⟩ | ⟨error, refuses, first⟩
  · rw [merges, Except.ok.injEq]
    constructor
    · rintro rfl
      exact ⟨none, fields⟩
    · rintro ⟨-, same⟩
      apply ext_setting
      intro field
      rw [fields, same]
  · rw [refuses]
    constructor
    · nofun
    · rintro ⟨none, -⟩
      rw [none] at first
      cases first

theorem merge_eq_error_iff {config : Config} {settings : List Setting} {error : ConfigError} :
    config.merge settings = .error error ↔ (config.complaints settings).head? = some error := by
  rcases config.judges_merge settings with ⟨merged, merges, none, -⟩ | ⟨other, refuses, first⟩
  · simp [merges, none]
  · simp [refuses, first]

end Config

end Reattempt
