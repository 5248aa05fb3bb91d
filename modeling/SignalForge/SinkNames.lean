import SignalForge.PlatformSettings

/-! The names the settings accept for the sinks, beside the names they are meant to accept. A line
feed at the end of a name is let through. -/

set_option autoImplicit false

namespace SignalForge.Config

/-- A lowercase letter, a digit or a hyphen. -/
def IsBucketChar (c : Char) : Prop := ('a' ≤ c ∧ c ≤ 'z') ∨ ('0' ≤ c ∧ c ≤ '9') ∨ c = '-'

/-- A character of `[A-Za-z0-9._-]`. -/
def IsNameChar (c : Char) : Prop :=
  ('A' ≤ c ∧ c ≤ 'Z') ∨ ('a' ≤ c ∧ c ≤ 'z') ∨ ('0' ≤ c ∧ c ≤ '9') ∨ c = '.' ∨ c = '_' ∨ c = '-'

namespace Target

/-- The names a sink is meant to accept. -/
def Conforms : Target → String → Prop
  | datasetBucket, name =>
      3 ≤ name.length ∧ name.length ≤ 63 ∧ (∀ c ∈ name.toList, IsBucketChar c) ∧
        name.toList.head? ≠ some '-' ∧ name.toList.getLast? ≠ some '-'
  | alertBus, name => 1 ≤ name.length ∧ name.length ≤ 256 ∧ ∀ c ∈ name.toList, IsNameChar c
  | projectionTable, name => 3 ≤ name.length ∧ name.length ≤ 255 ∧ ∀ c ∈ name.toList, IsNameChar c

def rule : Target → NameRule
  | datasetBucket => bucketRule
  | alertBus => busRule
  | projectionTable => tableRule

/-- The name is a text of the sink's pattern and one line feed, of a length within the bounds. -/
def EndsInBreak (target : Target) (name : String) : Prop :=
  target.rule.minLength ≤ name.length ∧ name.length ≤ target.rule.maxLength ∧
    ∃ text : Str, target.rule.pattern text = true ∧ name.toList = text ++ ['\n']

end Target

section Patterns

theorem isLowerAlnum_iff {c : Char} :
    Text.isLowerAlnum c = true ↔ IsBucketChar c ∧ c ≠ '-' := by
  have hyphen : Text.isLowerAlnum '-' = false := by decide
  constructor
  · intro accepted
    refine ⟨?_, ?_⟩
    · simp only [Text.isLowerAlnum, Bool.or_eq_true, Bool.and_eq_true, decide_eq_true_eq] at accepted
      exact accepted.imp_right Or.inl
    · rintro rfl
      rw [hyphen] at accepted
      cases accepted
  · rintro ⟨accepted, other⟩
    simp only [Text.isLowerAlnum, Bool.or_eq_true, Bool.and_eq_true, decide_eq_true_eq]
    exact accepted.imp_right fun rest => rest.resolve_right other

theorem isBucketChar_iff {c : Char} : isBucketChar c = true ↔ IsBucketChar c := by
  rw [isBucketChar, Bool.or_eq_true, isLowerAlnum_iff, decide_eq_true_eq]
  constructor
  · rintro (⟨accepted, _⟩ | rfl)
    · exact accepted
    · exact Or.inr (Or.inr rfl)
  · intro accepted
    by_cases hyphen : c = '-'
    · exact Or.inr hyphen
    · exact Or.inl ⟨accepted, hyphen⟩

/-- The optional group stands for the characters between the first and the last. -/
theorem bucketPattern_iff {text : Str} :
    bucketPattern text = true ↔ text ≠ [] ∧ (∀ c ∈ text, IsBucketChar c) ∧
      text.head? ≠ some '-' ∧ text.getLast? ≠ some '-' := by
  rcases text with _ | ⟨first, rest⟩
  · simp [bucketPattern]
  · rcases rest.eq_nil_or_concat' with rfl | ⟨inner, last, rfl⟩
    · simp [bucketPattern, isLowerAlnum_iff]
    · have shape : bucketPattern (first :: (inner ++ [last])) =
          (Text.isLowerAlnum first && (inner.all isBucketChar && Text.isLowerAlnum last)) := by
        have more : (inner ++ [last]).isEmpty = false := by simp
        simp only [bucketPattern, more, List.dropLast_concat, List.getLast?_concat, Option.any_some,
          Bool.false_or]
      have ends : (first :: (inner ++ [last])).getLast? = some last := by
        rw [← List.cons_append, List.getLast?_concat]
      simp only [shape, ends, Bool.and_eq_true, isLowerAlnum_iff, List.all_eq_true, isBucketChar_iff,
        List.head?_cons, List.forall_mem_cons, List.forall_mem_append]
      grind

theorem isNameChar_iff {c : Char} : (c.isAlphanum || Text.isSeparator c) = true ↔ IsNameChar c := by
  have alphanum : c.isAlphanum = (decide ('A' ≤ c ∧ c ≤ 'Z') ||
      (decide ('a' ≤ c) && decide (c ≤ 'z')) || (decide ('0' ≤ c) && decide (c ≤ '9'))) := rfl
  simp only [alphanum, Text.isSeparator, IsNameChar, Bool.or_eq_true, Bool.and_eq_true,
    decide_eq_true_eq]
  grind

theorem namePattern_iff {text : Str} :
    namePattern text = true ↔ text ≠ [] ∧ ∀ c ∈ text, IsNameChar c := by
  simp only [namePattern, Bool.and_eq_true, Bool.not_eq_true', List.isEmpty_eq_false_iff,
    List.all_eq_true, isNameChar_iff]

theorem NameRule.anchored_iff {pattern : Str → Bool} {name : Str} :
    NameRule.anchored pattern name = true ↔
      pattern name = true ∨ ∃ text, pattern text = true ∧ name = text ++ ['\n'] := by
  rw [NameRule.anchored, Bool.or_eq_true, Bool.and_eq_true, decide_eq_true_eq]
  apply or_congr_right
  constructor
  · rintro ⟨ends, accepted⟩
    exact ⟨name.dropLast, accepted, (List.dropLast_append_getLast? _ ends).symm⟩
  · rintro ⟨text, accepted, rfl⟩
    rw [List.getLast?_concat, List.dropLast_concat]
    exact ⟨rfl, accepted⟩

end Patterns

namespace Target

variable {target : Target} {name : String}

theorem conforms_iff : target.Conforms name ↔ target.rule.minLength ≤ name.length ∧
    name.length ≤ target.rule.maxLength ∧ target.rule.pattern name.toList = true := by
  have nonempty : 1 ≤ name.length → name.toList ≠ [] := by
    intro positive empty
    rw [← String.length_toList, empty] at positive
    cases positive
  cases target with
  | datasetBucket =>
      simp only [Conforms, rule, bucketRule, bucketPattern_iff]
      refine and_congr_right fun lower => and_congr_right fun _ => ?_
      exact (and_iff_right (nonempty (by omega))).symm
  | alertBus =>
      simp only [Conforms, rule, busRule, namePattern_iff]
      refine and_congr_right fun lower => and_congr_right fun _ => ?_
      exact (and_iff_right (nonempty lower)).symm
  | projectionTable =>
      simp only [Conforms, rule, tableRule, namePattern_iff]
      refine and_congr_right fun lower => and_congr_right fun _ => ?_
      exact (and_iff_right (nonempty (by omega))).symm

/-- No name meant to be accepted holds a line feed. -/
theorem Conforms.no_break (conforms : target.Conforms name) : '\n' ∉ name.toList := by
  intro member
  cases target with
  | datasetBucket =>
      have allowed := conforms.2.2.1 _ member
      revert allowed
      unfold IsBucketChar
      decide
  | alertBus | projectionTable =>
      have allowed := conforms.2.2 _ member
      revert allowed
      unfold IsNameChar
      decide

theorem Conforms.nonempty (conforms : target.Conforms name) : name ≠ "" := by
  rintro rfl
  cases target <;> exact absurd conforms.1 (by decide)

theorem accepts_iff : target.rule.accepts name ↔ target.Conforms name ∨ target.EndsInBreak name := by
  rw [NameRule.accepts, NameRule.anchored_iff, conforms_iff, EndsInBreak]
  constructor
  · rintro ⟨lower, upper, accepted | broken⟩
    · exact Or.inl ⟨lower, upper, accepted⟩
    · exact Or.inr ⟨lower, upper, broken⟩
  · rintro (⟨lower, upper, accepted⟩ | ⟨lower, upper, broken⟩)
    · exact ⟨lower, upper, Or.inl accepted⟩
    · exact ⟨lower, upper, Or.inr broken⟩

theorem EndsInBreak.not_conforms (broken : target.EndsInBreak name) : ¬ target.Conforms name := by
  intro conforms
  obtain ⟨_, _, text, _, ends⟩ := broken
  exact conforms.no_break (ends ▸ List.mem_append_right text (List.mem_singleton.mpr rfl))

end Target

/-- A field of the settings that names a sink, for live runs or for replays. -/
structure SinkField where
  target : Target
  replay : Bool
  deriving DecidableEq

namespace SinkField

def get (field : SinkField) (settings : PlatformSettings) : Option String :=
  if field.replay then field.target.replayName settings else field.target.name settings

/-- The settings with this field given. -/
def put (field : SinkField) (name : String) (settings : PlatformSettings) : PlatformSettings :=
  match field with
  | ⟨.datasetBucket, false⟩ => { settings with datasetBucket := some name }
  | ⟨.datasetBucket, true⟩ => { settings with replayDatasetBucket := some name }
  | ⟨.alertBus, false⟩ => { settings with alertBus := some name }
  | ⟨.alertBus, true⟩ => { settings with replayAlertBus := some name }
  | ⟨.projectionTable, false⟩ => { settings with projectionTable := some name }
  | ⟨.projectionTable, true⟩ => { settings with replayProjectionTable := some name }

/-- The variable of the environment the field is read from. -/
def variableName (field : SinkField) : String :=
  if field.replay then field.target.replayVariable else field.target.liveVariable

/-- Construction and reading accept the name for the field exactly where it is meant to be. -/
structure ValidatesExactly (field : SinkField) (name : String) : Prop where
  constructed : ∀ repr settings, PlatformSettings.Valid settings →
    ((∃ accepted, PlatformSettings.create repr (field.put name settings) = .ok accepted) ↔
      field.target.Conforms name)
  read : ∀ rules env settings, PlatformSettings.fromEnv rules env = .ok settings →
    ((∃ accepted, PlatformSettings.fromEnv rules (env.set field.variableName name) = .ok accepted ∧
        field.get accepted = some name) ↔ field.target.Conforms name)

variable {field : SinkField} {name : String} {settings : PlatformSettings}

@[simp] theorem get_put : field.get (field.put name settings) = some name := by
  obtain ⟨target, replay⟩ := field
  cases target <;> cases replay <;> rfl

/-- Settings are checked field by field. -/
theorem valid_put (valid : settings.Valid) :
    (field.put name settings).Valid ↔ field.target.rule.accepts name := by
  have here : ∀ {rule : NameRule}, rule.accepts name → ∀ given ∈ some name, rule.accepts given :=
    fun accepted _ given => Option.some.inj given ▸ accepted
  obtain ⟨target, replay⟩ := field
  cases target <;> cases replay
  · exact ⟨fun after => after.datasetBucket name rfl,
      fun accepted => { valid with datasetBucket := here accepted }⟩
  · exact ⟨fun after => after.replayDatasetBucket name rfl,
      fun accepted => { valid with replayDatasetBucket := here accepted }⟩
  · exact ⟨fun after => after.alertBus name rfl,
      fun accepted => { valid with alertBus := here accepted }⟩
  · exact ⟨fun after => after.replayAlertBus name rfl,
      fun accepted => { valid with replayAlertBus := here accepted }⟩
  · exact ⟨fun after => after.projectionTable name rfl,
      fun accepted => { valid with projectionTable := here accepted }⟩
  · exact ⟨fun after => after.replayProjectionTable name rfl,
      fun accepted => { valid with replayProjectionTable := here accepted }⟩

theorem create_put_returns (valid : settings.Valid) {repr : String → String} :
    (∃ accepted, PlatformSettings.create repr (field.put name settings) = .ok accepted) ↔
      field.target.rule.accepts name := by
  rw [← valid_put valid]
  constructor
  · rintro ⟨accepted, created⟩
    exact (PlatformSettings.create_eq_ok.mp created).1
  · exact fun after => ⟨_, PlatformSettings.create_eq_ok.mpr ⟨after, rfl⟩⟩

section Environment

variable {rules : EnvRules} {env : OrderedDict String String}

theorem converted_set {α : Type} {read : String → Option α} {kind key other : String} {default : α}
    (apart : key ≠ other) :
    rules.converted read kind (env.set other name) key default =
      rules.converted read kind env key default := by
  rw [EnvRules.converted, OrderedDict.get?_set_of_ne env name apart, EnvRules.converted]

theorem configured_set {key other : String} (apart : key ≠ other) :
    configured (env.set other name) key = configured env key := by
  rw [configured, OrderedDict.get?_set_of_ne env name apart, configured]

theorem configured_set_self {key : String} (given : name ≠ "") :
    configured (env.set key name) key = some name :=
  configured_eq_some.mpr ⟨OrderedDict.get?_set_self env key name, given⟩

/-- Setting one variable changes the settings that are checked in its field only. -/
theorem fromEnv_set (accepted : PlatformSettings.fromEnv rules env = .ok settings)
    (given : name ≠ "") :
    PlatformSettings.fromEnv rules (env.set field.variableName name) =
      PlatformSettings.create rules.repr (field.put name settings) := by
  obtain ⟨window, windowRead, accepted⟩ := Except.bind_eq_ok.mp accepted
  obtain ⟨offline, offlineRead, accepted⟩ := Except.bind_eq_ok.mp accepted
  obtain ⟨outage, outageRead, accepted⟩ := Except.bind_eq_ok.mp accepted
  obtain ⟨late, lateRead, accepted⟩ := Except.bind_eq_ok.mp accepted
  obtain ⟨retention, retentionRead, accepted⟩ := Except.bind_eq_ok.mp accepted
  obtain ⟨_, rfl⟩ := PlatformSettings.create_eq_ok.mp accepted
  simp only [EnvRules.int, EnvRules.float] at windowRead offlineRead outageRead lateRead retentionRead
  obtain ⟨target, replay⟩ := field
  cases target <;> cases replay <;>
    simp (disch := decide) only [PlatformSettings.fromEnv, EnvRules.int, EnvRules.float,
      variableName, Target.liveVariable, Target.replayVariable, Bool.false_eq_true, ↓reduceIte,
      converted_set, windowRead, offlineRead, outageRead, lateRead, retentionRead,
      configured_set, configured_set_self given, OrderedDict.get?_set_of_ne, put] <;> rfl

theorem read_set_returns (accepted : PlatformSettings.fromEnv rules env = .ok settings) :
    (∃ after, PlatformSettings.fromEnv rules (env.set field.variableName name) = .ok after ∧
      field.get after = some name) ↔ name ≠ "" ∧ field.target.rule.accepts name := by
  have valid := (PlatformSettings.of_fromEnv accepted).1
  constructor
  · rintro ⟨after, returned, shown⟩
    have given : name ≠ "" := by
      have configuredNow := (PlatformSettings.of_fromEnv returned).2 field.target
      rw [get] at shown
      split at shown
      · exact (configured_eq_some.mp (configuredNow.2.symm.trans shown)).2
      · exact (configured_eq_some.mp (configuredNow.1.symm.trans shown)).2
    rw [fromEnv_set accepted given] at returned
    exact ⟨given, (create_put_returns valid).mp ⟨after, returned⟩⟩
  · rintro ⟨given, passes⟩
    refine ⟨field.put name settings, ?_, get_put⟩
    rw [fromEnv_set accepted given]
    exact PlatformSettings.create_eq_ok.mpr ⟨(valid_put valid).mpr passes, rfl⟩

end Environment

/-- The settings where nothing is configured. -/
def unconfigured : PlatformSettings := { environment := "dev" }

theorem unconfigured_valid : unconfigured.Valid := by
  have returns : PlatformSettings.create id unconfigured = .ok unconfigured := by decide +kernel
  exact (PlatformSettings.create_eq_ok.mp returns).1

/-- A name is accepted for a field exactly where it is meant to be, unless it is a text of the pattern
with a line feed behind it. -/
theorem validatesExactly_iff (field : SinkField) (name : String) :
    field.ValidatesExactly name ↔ ¬ field.target.EndsInBreak name := by
  constructor
  · intro exact broken
    have passes : field.target.rule.accepts name := Target.accepts_iff.mpr (Or.inr broken)
    exact broken.not_conforms
      ((exact.constructed id _ unconfigured_valid).mp ((create_put_returns unconfigured_valid).mpr passes))
  · intro whole
    have meant : field.target.rule.accepts name ↔ field.target.Conforms name := by
      rw [Target.accepts_iff]
      exact or_iff_left whole
    constructor
    · intro repr settings valid
      rw [create_put_returns valid, meant]
    · intro rules env settings accepted
      rw [read_set_returns accepted, meant]
      exact and_iff_right_of_imp Target.Conforms.nonempty

/-- Three letters and a line feed are taken for a bucket of four. -/
theorem broken_bucket_accepted :
    PlatformSettings.create id { environment := "dev", datasetBucket := some "abc\n" } =
        .ok { environment := "dev", datasetBucket := some "abc\n" } ∧
      ¬ Target.datasetBucket.Conforms "abc\n" ∧
      ¬ ValidatesExactly ⟨.datasetBucket, false⟩ "abc\n" := by
  have accepted : PlatformSettings.create id { environment := "dev", datasetBucket := some "abc\n" } =
      .ok { environment := "dev", datasetBucket := some "abc\n" } := by decide +kernel
  have refused : ¬ Target.datasetBucket.Conforms "abc\n" :=
    fun conforms => conforms.no_break (by decide)
  exact ⟨accepted, refused,
    fun exact => refused ((exact.constructed id _ unconfigured_valid).mp ⟨_, accepted⟩)⟩

end SinkField

end SignalForge.Config
