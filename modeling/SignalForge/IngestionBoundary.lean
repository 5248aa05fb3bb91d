import SignalForge.Binary64
import SignalForge.SchemaResolution

/-! The registry's boundary on raw JSON values, whose fields may be of any type. -/

set_option autoImplicit false

namespace SignalForge

/-- A value as `json.loads` gives it. The keys of a dictionary are distinct. -/
inductive Json where
  | null
  | bool (value : Bool)
  | int (value : Int)
  | float (value : Double)
  | string (text : String)
  | list (items : List Json)
  | dict (entries : List (String × Json))

namespace Json

/-- `bool(value)`. -/
def truthy : Json → Bool
  | .null => false
  | .bool value => value
  | .int value => value ≠ 0
  | .float value => value ≠ .finite 0
  | .string text => text ≠ ""
  | .list items => !items.isEmpty
  | .dict entries => !entries.isEmpty

/-- What `hash(value)` raises, if anything. -/
def hashed : Json → Except Raised Unit
  | .list _ => .error (.typeError "unhashable type: 'list'")
  | .dict _ => .error (.typeError "unhashable type: 'dict'")
  | _ => .ok ()

end Json

namespace Ingestion

variable {φ δ ε : Type}

/-- `self._registry[key]` under a key that hashes; all registered keys are pairs of strings. -/
def lookup (registry : SchemaRegistry φ δ) : Json → Json → Option (SchemaClass φ δ)
  | .string eventType, .string schemaVersion => registry.get? ⟨eventType, schemaVersion⟩
  | _, _ => none

/-- `parse_version(value)`. -/
def parseVersion (digits : DecimalDigits) : Json → Except Raised SchemaVersion
  | .string version => SchemaVersion.parse digits version
  | _ => .error (.exception "AttributeError")

/-- `SchemaRegistry.get_schema` under values of any type. -/
def getSchema (digits : DecimalDigits) (registry : SchemaRegistry φ δ)
    (eventType schemaVersion : Json) : Except Raised (SchemaClass φ δ) := do
  eventType.hashed
  schemaVersion.hashed
  match lookup registry eventType schemaVersion with
  | some schema => .ok schema
  | none =>
      match eventType, schemaVersion with
      | .string eventType, .string schemaVersion =>
          SchemaRegistry.getSchema digits registry ⟨eventType, schemaVersion⟩
      | _, _ => do
          -- no registered event type is equal to one that is no string
          let _ ← parseVersion digits schemaVersion
          .error .keyError

/-- `SchemaRegistry.validate` of any value. `model_validate` returns an event or refuses some
fields. -/
def validate (digits : DecimalDigits) (registry : SchemaRegistry φ δ) (str : Json → String)
    (modelValidate : SchemaClass φ δ → Json → Except (List String) ε) (event : Json) :
    Except Raised ε :=
  match event with
  | .dict entries =>
      match entries.lookup "metadata" with
      | some (.dict metadata) =>
          let eventType := (metadata.lookup "event_type").getD .null
          let schemaVersion := (metadata.lookup "schema_version").getD .null
          if ¬ eventType.truthy ∨ ¬ schemaVersion.truthy then .error (.valueError
            "Event missing metadata.event_type or metadata.schema_version fields")
          else do
            let schema ← getSchema digits registry eventType schemaVersion
            match modelValidate schema event with
            | .error _ => .error (.valueError ("Schema validation failed for " ++ str eventType ++
                " " ++ str schemaVersion))
            | .ok validated => .ok validated
      | _ => .error (.valueError "Event metadata must be a dictionary")
  | _ => .error (.valueError "Event must be a dictionary")

/-- The event names an event type and a version, neither of them empty. -/
inductive Names : Json → Json → Json → Prop
  | intro {entries metadata : List (String × Json)} {eventType schemaVersion : Json}
      (found : entries.lookup "metadata" = some (.dict metadata))
      (eventTypeIs : (metadata.lookup "event_type").getD .null = eventType)
      (schemaVersionIs : (metadata.lookup "schema_version").getD .null = schemaVersion)
      (eventTypeTruthy : eventType.truthy = true)
      (schemaVersionTruthy : schemaVersion.truthy = true) :
      Names (.dict entries) eventType schemaVersion

/-- An event, `ValueError` or `KeyError`. -/
def Documented : Except Raised ε → Prop
  | .ok _ => True
  | .error (.valueError _) => True
  | .error .keyError => True
  | .error _ => False

section

variable {digits : DecimalDigits} {registry : SchemaRegistry φ δ} {str : Json → String}
  {modelValidate : SchemaClass φ δ → Json → Except (List String) ε}
  {event eventType schemaVersion : Json}

theorem validate_named (names : Names event eventType schemaVersion) :
    validate digits registry str modelValidate event = (do
      let schema ← getSchema digits registry eventType schemaVersion
      match modelValidate schema event with
      | .error _ => .error (.valueError ("Schema validation failed for " ++ str eventType ++
          " " ++ str schemaVersion))
      | .ok validated => .ok validated) := by
  cases names with
  | intro found eventTypeIs schemaVersionIs eventTypeTruthy schemaVersionTruthy =>
      have neither : ¬ (¬ eventType.truthy = true ∨ ¬ schemaVersion.truthy = true) :=
        not_or.mpr ⟨not_not.mpr eventTypeTruthy, not_not.mpr schemaVersionTruthy⟩
      simp only [validate, found, eventTypeIs, schemaVersionIs]
      rw [if_neg neither]

variable (digits registry) in
/-- An event that names no type and version is refused with a `ValueError`. -/
theorem validate_unnamed (unnamed : ∀ eventType schemaVersion,
    ¬ Names event eventType schemaVersion) :
    ∃ message, validate digits registry str modelValidate event = .error (.valueError message) := by
  cases event with
  | dict entries =>
      simp only [validate]
      split
      · rename_i metadata found
        refine ⟨_, if_pos ?_⟩
        by_contra both
        push Not at both
        exact unnamed _ _ (.intro found rfl rfl both.1 both.2)
      · exact ⟨_, rfl⟩
  | _ => exact ⟨_, rfl⟩

/-- Neither of the fields is a list or a dictionary, and the version is a string. -/
def Resolvable (eventType schemaVersion : Json) : Prop :=
  eventType.hashed = .ok () ∧ ∃ version, schemaVersion = .string version

theorem getSchema_resolvable (resolvable : Resolvable eventType schemaVersion) {reason : Raised}
    (failed : getSchema digits registry eventType schemaVersion = .error reason) :
    (∃ message, reason = .valueError message) ∨ reason = .keyError := by
  obtain ⟨hashes, version, rfl⟩ := resolvable
  unfold getSchema at failed
  rw [hashes] at failed
  change (match lookup registry eventType (.string version) with
    | some schema => .ok schema
    | none => _) = Except.error reason at failed
  split at failed
  · cases failed
  · split at failed
    · exact SchemaRegistry.getSchema_error failed
    · rcases Except.bind_eq_error.mp failed with unparsed | ⟨_, _, absent⟩
      · exact Or.inl (SchemaVersion.parse_error unparsed)
      · cases absent
        exact Or.inr rfl

variable (digits registry) in
theorem getSchema_unresolvable (unresolvable : ¬ Resolvable eventType schemaVersion) :
    (∃ message, getSchema digits registry eventType schemaVersion = .error (.typeError message)) ∨
      getSchema digits registry eventType schemaVersion = .error (.exception "AttributeError") := by
  rcases hashes : eventType.hashed with reason | _
  · refine Or.inl ?_
    cases eventType with
    | list | dict => exact ⟨_, rfl⟩
    | _ => cases hashes
  · unfold getSchema
    rw [hashes]
    cases schemaVersion with
    | string version => exact absurd ⟨hashes, version, rfl⟩ unresolvable
    | list | dict => exact Or.inl ⟨_, rfl⟩
    | _ => exact Or.inr (by cases eventType <;> rfl)

/-- The boundary fails as documented exactly where an event that names a type and a version names
them by fields of resolvable types. -/
theorem validate_documented_iff (digits : DecimalDigits) (registry : SchemaRegistry φ δ)
    (str : Json → String) (modelValidate : SchemaClass φ δ → Json → Except (List String) ε)
    (event : Json) :
    Documented (validate digits registry str modelValidate event) ↔
      ∀ eventType schemaVersion, Names event eventType schemaVersion →
        Resolvable eventType schemaVersion := by
  constructor
  · intro documented eventType schemaVersion names
    by_contra unresolvable
    rw [validate_named names] at documented
    rcases getSchema_unresolvable digits registry unresolvable with ⟨message, raised⟩ | raised
    · rw [raised] at documented
      exact documented
    · rw [raised] at documented
      exact documented
  · intro resolvable
    by_cases named : ∃ eventType schemaVersion, Names event eventType schemaVersion
    · obtain ⟨eventType, schemaVersion, names⟩ := named
      rw [validate_named names]
      rcases resolved : getSchema digits registry eventType schemaVersion with reason | schema
      · rcases getSchema_resolvable (resolvable _ _ names) resolved with ⟨message, rfl⟩ | rfl
        · exact trivial
        · exact trivial
      · change Documented (match modelValidate schema event with
          | .error _ => .error (.valueError _)
          | .ok validated => .ok validated)
        cases modelValidate schema event <;> exact trivial
    · push Not at named
      obtain ⟨message, raised⟩ := validate_unnamed digits registry named
      rw [raised]
      exact trivial

theorem getSchema_strings (digits : DecimalDigits) (registry : SchemaRegistry φ δ) (key : RouteKey) :
    getSchema digits registry (.string key.eventType) (.string key.schemaVersion) =
      SchemaRegistry.getSchema digits registry key := by
  change (match registry.get? key with
    | some schema => Except.ok schema
    | none => SchemaRegistry.getSchema digits registry key) = _
  rw [SchemaRegistry.getSchema]
  cases registry.get? key <;> rfl

theorem truthy_text (text? : Option String) :
    ((text?.map Json.string).getD .null).truthy = true ↔ text?.getD "" ≠ "" := by
  cases text? <;> simp [Json.truthy]

/-- On fields that are strings or absent this is the boundary already modelled. -/
theorem validate_of_strings {metadata entries : List (String × Json)}
    (found : entries.lookup "metadata" = some (.dict metadata))
    {eventType? schemaVersion? : Option String}
    (eventTypeIs : metadata.lookup "event_type" = eventType?.map .string)
    (schemaVersionIs : metadata.lookup "schema_version" = schemaVersion?.map .string)
    (strings : ∀ text, str (.string text) = text) (fields : Json → φ)
    {modelValidate : SchemaClass φ δ → Json → Except (List String) (SchemaInstance φ δ)}
    (validates : ∀ schema, SchemaRegistry.modelValidate digits schema (eventType?.getD "")
      (schemaVersion?.getD "") (fields (.dict entries)) =
        (modelValidate schema (.dict entries)).mapError .validationError) :
    validate digits registry str modelValidate (.dict entries) =
      SchemaRegistry.validate digits registry
        (some ⟨some (eventType?, schemaVersion?), fields (.dict entries)⟩) := by
  simp only [validate, found, eventTypeIs, schemaVersionIs, SchemaRegistry.validate, truthy_text,
    not_not]
  by_cases missing : eventType?.getD "" = "" ∨ schemaVersion?.getD "" = ""
  · rw [if_pos missing, if_pos missing]
  · rw [if_neg missing, if_neg missing]
    rcases eventType? with _ | eventType
    · exact absurd (Or.inl rfl) missing
    · rcases schemaVersion? with _ | schemaVersion
      · exact absurd (Or.inr rfl) missing
      · simp only [Option.map_some, Option.getD_some, strings] at validates ⊢
        rw [getSchema_strings digits registry ⟨eventType, schemaVersion⟩]
        congr 1
        funext schema
        rw [validates]
        cases modelValidate schema (.dict entries) <;> rfl

end

section Sample

open RealtimePipeline (sampleDigits)

/-- An event whose version is a number. -/
def numberedEvent : Json :=
  .dict [("metadata", .dict [("event_type", .string "session.telemetry"),
    ("schema_version", .int 1)])]

/-- It raises `AttributeError`. -/
theorem numberedEvent_undocumented :
    ¬ Documented (validate sampleDigits (SchemaRegistry.defined [SchemaRegistry.sessionSchema "v1"])
      (fun _ => "") (fun _ _ => (.ok () : Except (List String) Unit)) numberedEvent) := by
  have raised : validate sampleDigits (SchemaRegistry.defined [SchemaRegistry.sessionSchema "v1"])
      (fun _ => "") (fun _ _ => (.ok () : Except (List String) Unit)) numberedEvent =
        .error (.exception "AttributeError") := rfl
  rw [raised]
  exact id

end Sample

end Ingestion

end SignalForge
