import SignalForge.Call
import SignalForge.StreamRecords

/-! Schema versions, and the router that dispatches an event to the handlers of its type and
version or of the closest earlier version. Log lines are left out. -/

set_option autoImplicit false

namespace SignalForge

structure SchemaVersion where
  major : Nat
  minor : Nat := 0
  patch : Nat := 0
  deriving DecidableEq, Repr

namespace SchemaVersion

/-- The order of the fields as a tuple. -/
def le (left right : SchemaVersion) : Bool :=
  left.major < right.major || (left.major = right.major &&
    (left.minor < right.minor || (left.minor = right.minor && left.patch ≤ right.patch)))

theorem le_iff {left right : SchemaVersion} : left.le right = true ↔
    left.major < right.major ∨ (left.major = right.major ∧
      (left.minor < right.minor ∨ (left.minor = right.minor ∧ left.patch ≤ right.patch))) := by
  simp only [le, Bool.or_eq_true, Bool.and_eq_true, decide_eq_true_eq]

theorem le_refl (version : SchemaVersion) : version.le version = true := by
  simp [le]

theorem le_total (left right : SchemaVersion) : left.le right = true ∨ right.le left = true := by
  simp only [le_iff]
  omega

theorem le_trans {left middle right : SchemaVersion} (first : left.le middle = true)
    (second : middle.le right = true) : left.le right = true := by
  simp only [le_iff] at *
  omega

theorem le_antisymm {left right : SchemaVersion} (first : left.le right = true)
    (second : right.le left = true) : left = right := by
  obtain ⟨major, minor, patch⟩ := left
  obtain ⟨major', minor', patch'⟩ := right
  simp only [le_iff] at first second
  simp only [mk.injEq]
  omega

/-- `sys.get_int_max_str_digits()`, the longest text `int` converts. -/
def maxStrDigits : Nat := 4300

def checkComponent (digits : DecimalDigits) (version : String) (component : Str) :
    Except Raised Unit :=
  if ¬ component.all digits.isDigit then
    .error (.valueError ("Invalid schema version: " ++ version))
  else if 1 < component.length ∧ component.head? = some '0' then
    .error (.valueError ("Invalid schema version (leading zero): " ++ version))
  else .ok ()

/-- `int(component)`. -/
def convertComponent (digits : DecimalDigits) (component : Str) : Except Raised Nat :=
  match component.mapM digits.value? with
  | none => .error (.valueError "invalid literal for int() with base 10")
  | some values =>
      if maxStrDigits < component.length then
        .error (.valueError "Exceeds the limit (4300 digits) for integer string conversion")
      else .ok (values.foldl (fun number digit => number * 10 + digit) 0)

def parseComponents (digits : DecimalDigits) (version : String) (components : List Str) :
    Except Raised SchemaVersion :=
  if components.any (· = []) then .error (.valueError ("Invalid schema version: " ++ version))
  else if 3 < components.length then
    .error (.valueError ("Unsupported schema format: " ++ version))
  else do
    components.forM (checkComponent digits version)
    let numbers ← components.mapM (convertComponent digits)
    pure { major := numbers.getD 0 0, minor := numbers.getD 1 0, patch := numbers.getD 2 0 }

/-- `parse_version`. -/
def parse (digits : DecimalDigits) (version : String) : Except Raised SchemaVersion :=
  match version.toList with
  | 'v' :: c :: rest => parseComponents digits version (Text.split ['.'] (c :: rest))
  | _ => .error (.valueError ("Invalid schema version: " ++ version))

end SchemaVersion

structure RouteKey where
  eventType : String
  schemaVersion : String
  deriving DecidableEq, Repr

structure DispatchResult where
  matchedKey : Option RouteKey
  handlersInvoked : Nat
  handlerFailures : Nat
  fellBack : Bool
  deriving DecidableEq, Repr

/-- Handlers are called with a state of their own kind, which they may leave in any way. -/
structure EventRouter (ω π : Type) where
  handlers : OrderedDict RouteKey (List (TelemetryEvent π → Call Raised ω Unit))
  strict : Bool
  digits : DecimalDigits

namespace EventRouter

variable {ω π : Type}

/-- `register(event_type, schema_version, handler)`, under names that are not empty. -/
def register (router : EventRouter ω π) (key : RouteKey)
    (handler : TelemetryEvent π → Call Raised ω Unit) : EventRouter ω π :=
  { router with handlers := router.handlers.modify key [] (· ++ [handler]) }

/-- A registered key of the requested type and major version, no later than requested. -/
def candidate? (digits : DecimalDigits) (requested : RouteKey) (version : SchemaVersion)
    (key : RouteKey) : Option (SchemaVersion × RouteKey) :=
  if key.eventType ≠ requested.eventType then none
  else match SchemaVersion.parse digits key.schemaVersion with
    | .error _ => none
    | .ok candidate =>
        if candidate.major = version.major ∧ candidate.le version then some (candidate, key)
        else none

/-- `max(candidates, key=version)`: the first of the highest. -/
def highest (candidates : List (SchemaVersion × RouteKey)) : Option (SchemaVersion × RouteKey) :=
  candidates.foldl (fun best item =>
    match best with
    | none => some item
    | some kept => if item.1.le kept.1 then some kept else some item) none

def resolveCompatibleKey (digits : DecimalDigits) (requested : RouteKey)
    (registered : List RouteKey) : Except Raised (Option RouteKey) :=
  (SchemaVersion.parse digits requested.schemaVersion).map fun version =>
    (highest (registered.filterMap (candidate? digits requested version))).map Prod.snd

/-- Handlers in registration order, with how many returned and how many raised. -/
def invoke (strict : Bool) (event : TelemetryEvent π) :
    List (TelemetryEvent π → Call Raised ω Unit) → Call Raised ω (Nat × Nat)
  | [] => pure (0, 0)
  | handler :: rest => do
      let counted ← Call.guarded strict (0, 1) (handler event >>= fun _ => pure (1, 0))
      let later ← invoke strict event rest
      pure (counted.1 + later.1, counted.2 + later.2)

def requestedKey (event : TelemetryEvent π) : RouteKey := ⟨event.eventType, event.schemaVersion⟩

/-- The handlers of a resolved key, called. -/
def dispatchTo (router : EventRouter ω π) (event : TelemetryEvent π) (matched : RouteKey)
    (fellBack : Bool) : Call Raised ω DispatchResult :=
  match (router.handlers.get? matched).getD [] with
  | [] => pure ⟨none, 0, 0, false⟩
  | handlers => do
      let counts ← invoke router.strict event handlers
      pure ⟨some matched, counts.1, counts.2, fellBack⟩

def dispatch (router : EventRouter ω π) (event : TelemetryEvent π) : Call Raised ω DispatchResult :=
  let requested := requestedKey event
  if router.handlers.contains requested then dispatchTo router event requested false
  else do
    let compatible ← Call.lift
      (resolveCompatibleKey router.digits requested router.handlers.keys)
    match compatible with
    | none => pure ⟨none, 0, 0, false⟩
    | some matched => dispatchTo router event matched true

theorem invoke_returns (event : TelemetryEvent π)
    (handlers : List (TelemetryEvent π → Call Raised ω Unit)) (world : ω) :
    (invoke false event handlers).Returns world := by
  induction handlers generalizing world with
  | nil => exact Call.returns_pure _ _
  | cons handler rest ih =>
      apply Call.Returns.bind (Call.guarded_returns _ _ _)
      intro counted between _
      apply Call.Returns.bind (ih between)
      intro later after _
      exact Call.returns_pure _ _

theorem dispatchTo_returns {router : EventRouter ω π} (lenient : router.strict = false)
    (event : TelemetryEvent π) (matched : RouteKey) (fellBack : Bool) (world : ω) :
    (dispatchTo router event matched fellBack).Returns world := by
  rw [dispatchTo, lenient]
  split
  · exact Call.returns_pure _ _
  · exact (invoke_returns event _ world).bind fun _ _ _ => Call.returns_pure _ _

/-- Handlers are registered for the event's own type and version, or its version parses. -/
def Routable (router : EventRouter ω π) (event : TelemetryEvent π) : Prop :=
  router.handlers.contains (requestedKey event) ∨
    ∃ version, SchemaVersion.parse router.digits event.schemaVersion = .ok version

/-- Resolving a version that has no exact match is the one step the router does not guard. -/
theorem dispatch_returns {router : EventRouter ω π} (lenient : router.strict = false)
    {event : TelemetryEvent π} {world : ω} :
    (router.dispatch event).Returns world ↔ router.Routable event := by
  rw [dispatch, Routable]
  by_cases registered : router.handlers.contains (requestedKey event)
  · simp only [registered, ↓reduceIte, true_or, iff_true]
    exact dispatchTo_returns lenient event _ false world
  · simp only [registered, Bool.false_eq_true, ↓reduceIte, false_or, Call.returns_lift_bind]
    have resolves : ∀ compatible, (match compatible with
        | none => (pure ⟨none, 0, 0, false⟩ : Call Raised ω DispatchResult)
        | some matched => dispatchTo router event matched true).Returns world := by
      intro compatible
      cases compatible with
      | none => exact Call.returns_pure _ _
      | some matched => exact dispatchTo_returns lenient event matched true world
    rw [resolveCompatibleKey, requestedKey]
    cases SchemaVersion.parse router.digits event.schemaVersion with
    | error reason =>
        simp only [Except.map, reduceCtorEq, false_and, exists_false]
    | ok version =>
        simp only [Except.map, Except.ok.injEq, exists_eq', iff_true]
        exact ⟨_, rfl, resolves _⟩

end EventRouter

end SignalForge
