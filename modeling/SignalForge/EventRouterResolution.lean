import SignalForge.FirstGreatest
import SignalForge.RealtimePipelineIsolation

/-! Which handlers an event is dispatched to, for every sequence of registrations. -/

set_option autoImplicit false

namespace SignalForge.EventRouter

variable {ω π : Type}

abbrev Handler (ω π : Type) : Type := TelemetryEvent π → Call Raised ω Unit

/-- The arguments of one `register`; the handler is `none` where it cannot be called. -/
structure Registration (ω π : Type) where
  eventType : String
  schemaVersion : String
  handler : Option (Handler ω π)

/-- `register`, with what it refuses. -/
def registerChecked (router : EventRouter ω π) (registration : Registration ω π) :
    Except Raised (EventRouter ω π) :=
  if registration.eventType = "" then .error (.valueError "event_type must be non-empty")
  else if registration.schemaVersion = "" then
    .error (.valueError "schema_version must be non-empty")
  else match registration.handler with
    | none => .error (.typeError "handler must be callable")
    | some handler =>
        .ok (router.register ⟨registration.eventType, registration.schemaVersion⟩ handler)

/-- The router a sequence of registrations leaves, the refused ones included. -/
def registered (strict : Bool) (digits : DecimalDigits)
    (registrations : List (Registration ω π)) : EventRouter ω π :=
  registrations.foldl (fun router registration =>
    match router.registerChecked registration with
    | .error _ => router
    | .ok router => router) ⟨.empty, strict, digits⟩

/-- The key and handler of a registration that is not refused. -/
def Registration.accepted? (registration : Registration ω π) : Option (RouteKey × Handler ω π) :=
  if registration.eventType = "" ∨ registration.schemaVersion = "" then none
  else registration.handler.map fun handler =>
    (⟨registration.eventType, registration.schemaVersion⟩, handler)

/-- The keys that have handlers, in order of their first registration. -/
def registeredKeys (registrations : List (Registration ω π)) : List RouteKey :=
  ((registrations.filterMap Registration.accepted?).map Prod.fst).eraseDups

/-- The handlers of a key, in order of registration. -/
def handlersFor (registrations : List (Registration ω π)) (key : RouteKey) :
    List (Handler ω π) :=
  ((registrations.filterMap Registration.accepted?).filter (·.1 = key)).map Prod.snd

theorem registerChecked_eq (router : EventRouter ω π) (registration : Registration ω π) :
    (match router.registerChecked registration with
      | .error _ => router
      | .ok router => router) =
      match registration.accepted? with
      | none => router
      | some (key, handler) => router.register key handler := by
  rw [registerChecked, Registration.accepted?]
  by_cases noType : registration.eventType = ""
  · rw [if_pos noType, if_pos (Or.inl noType)]
  · by_cases noVersion : registration.schemaVersion = ""
    · rw [if_neg noType, if_pos noVersion, if_pos (Or.inr noVersion)]
    · rw [if_neg noType, if_neg noVersion, if_neg (not_or.mpr ⟨noType, noVersion⟩)]
      cases registration.handler <;> rfl

theorem registered_append (strict : Bool) (digits : DecimalDigits)
    (registrations : List (Registration ω π)) (last : Registration ω π) :
    registered strict digits (registrations ++ [last]) =
      match last.accepted? with
      | none => registered strict digits registrations
      | some (key, handler) => (registered strict digits registrations).register key handler := by
  rw [registered, List.foldl_append, List.foldl_cons, List.foldl_nil, ← registered,
    registerChecked_eq]

theorem accepted_append (registrations : List (Registration ω π)) (last : Registration ω π) :
    (registrations ++ [last]).filterMap Registration.accepted? =
      registrations.filterMap Registration.accepted? ++ last.accepted?.toList := by
  rw [List.filterMap_append, List.filterMap_cons, List.filterMap_nil]
  cases last.accepted? <;> rfl

theorem strict_registered (strict : Bool) (digits : DecimalDigits)
    (registrations : List (Registration ω π)) :
    (registered strict digits registrations).strict = strict := by
  induction registrations using List.reverseRecOn with
  | nil => rfl
  | append_singleton registrations last ih =>
      rw [registered_append]
      cases last.accepted? <;> exact ih

theorem digits_registered (strict : Bool) (digits : DecimalDigits)
    (registrations : List (Registration ω π)) :
    (registered strict digits registrations).digits = digits := by
  induction registrations using List.reverseRecOn with
  | nil => rfl
  | append_singleton registrations last ih =>
      rw [registered_append]
      cases last.accepted? <;> exact ih

theorem mem_registeredKeys {registrations : List (Registration ω π)} {key : RouteKey} :
    key ∈ registeredKeys registrations ↔
      key ∈ (registrations.filterMap Registration.accepted?).map Prod.fst :=
  List.mem_eraseDups

/-- A key is new exactly where none before it was the same. -/
theorem removeAll_singleton (key : RouteKey) (keys : List RouteKey) :
    ([key].removeAll keys).eraseDups = if key ∈ keys then [] else [key] := by
  by_cases known : key ∈ keys <;> simp [List.removeAll, List.eraseDups_cons, known]

theorem keys_registered (strict : Bool) (digits : DecimalDigits)
    (registrations : List (Registration ω π)) :
    (registered strict digits registrations).handlers.keys = registeredKeys registrations := by
  induction registrations using List.reverseRecOn with
  | nil => rfl
  | append_singleton registrations last ih =>
      rw [registered_append, registeredKeys, accepted_append]
      rcases last.accepted? with _ | ⟨key, handler⟩
      · rw [Option.toList_none, List.append_nil]
        exact ih
      · rw [Option.toList_some, List.map_append, List.eraseDups_append, List.map_singleton,
          removeAll_singleton, ← registeredKeys]
        dsimp only [register]
        rw [OrderedDict.keys_modify, ih]
        by_cases known : key ∈ registeredKeys registrations
        · rw [if_pos known, if_pos (mem_registeredKeys.mp known), List.append_nil]
        · rw [if_neg known, if_neg fun listed => known (mem_registeredKeys.mpr listed)]

theorem get?_registered (strict : Bool) (digits : DecimalDigits)
    (registrations : List (Registration ω π)) (key : RouteKey) :
    ((registered strict digits registrations).handlers.get? key).getD [] =
      handlersFor registrations key := by
  induction registrations using List.reverseRecOn with
  | nil => rfl
  | append_singleton registrations last ih =>
      rw [registered_append, handlersFor, accepted_append]
      rcases last.accepted? with _ | ⟨other, handler⟩
      · rw [Option.toList_none, List.append_nil]
        exact ih
      · rw [Option.toList_some, List.filter_append, List.map_append, ← handlersFor, ← ih]
        dsimp only
        rw [register, OrderedDict.get?_modify]
        by_cases same : key = other
        · subst same
          simp only [↓reduceIte, Option.getD_some, decide_true, List.filter_cons_of_pos,
            List.filter_nil, List.map_cons, List.map_nil]
        · simp only [same, ↓reduceIte, Ne.symm same, decide_false, Bool.false_eq_true,
            not_false_eq_true, List.filter_cons_of_neg, List.filter_nil, List.map_nil,
            List.append_nil]

theorem handlersFor_ne_nil {registrations : List (Registration ω π)} {key : RouteKey}
    (listed : key ∈ registeredKeys registrations) : handlersFor registrations key ≠ [] := by
  obtain ⟨pair, accepted, rfl⟩ := List.mem_map.mp (mem_registeredKeys.mp listed)
  have own : pair ∈ (registrations.filterMap Registration.accepted?).filter (·.1 = pair.1) :=
    List.mem_filter.mpr ⟨accepted, decide_eq_true rfl⟩
  exact List.ne_nil_of_mem (List.mem_map_of_mem own)

section Resolving

variable (digits : DecimalDigits) (requested : RouteKey) (version : SchemaVersion)

/-- The key is of the requested type and major version, and of a version not later than asked. -/
structure Eligible (key : RouteKey) (candidate : SchemaVersion) : Prop where
  sameType : key.eventType = requested.eventType
  parsed : SchemaVersion.parse digits key.schemaVersion = .ok candidate
  sameMajor : candidate.major = version.major
  notLater : candidate.le version = true

/-- The key whose handlers are due, of the keys in order of first registration, and whether it is
another than the one requested. -/
inductive Resolution (keys : List RouteKey) : Option RouteKey → Bool → Prop
  | exact (listed : requested ∈ keys) : Resolution keys (some requested) false
  | closest {key : RouteKey} {candidate : SchemaVersion} {front back : List RouteKey}
      (absent : requested ∉ keys) (split : keys = front ++ key :: back)
      (eligible : Eligible digits requested version key candidate)
      (before : ∀ other ∈ front, ∀ earlier, Eligible digits requested version other earlier →
        candidate.le earlier = false)
      (after : ∀ other ∈ back, ∀ later, Eligible digits requested version other later →
        later.le candidate = true) : Resolution keys (some key) true
  | none (absent : requested ∉ keys)
      (ineligible : ∀ key ∈ keys, ∀ candidate, ¬ Eligible digits requested version key candidate) :
      Resolution keys Option.none false

end Resolving

section

variable {digits : DecimalDigits} {requested : RouteKey} {version : SchemaVersion}

/-- A key that is resolved is registered. -/
theorem Resolution.listed {keys : List RouteKey} {matched : Option RouteKey} {fellBack : Bool}
    (resolution : Resolution digits requested version keys matched fellBack) (key : RouteKey)
    (found : matched = some key) : key ∈ keys := by
  cases resolution with
  | exact listed =>
      obtain rfl := Option.some.inj found
      exact listed
  | closest absent split eligible before after =>
      obtain rfl := Option.some.inj found
      rw [split]
      exact List.mem_append_right _ (List.mem_cons_self ..)
  | none absent ineligible => cases found

theorem candidate?_eq_some {key : RouteKey} {item : SchemaVersion × RouteKey} :
    candidate? digits requested version key = some item ↔
      Eligible digits requested version key item.1 ∧ item.2 = key := by
  rw [candidate?]
  by_cases sameType : key.eventType = requested.eventType
  · rw [if_neg (not_not.mpr sameType)]
    rcases parsed : SchemaVersion.parse digits key.schemaVersion with reason | candidate
    · refine iff_of_false (fun none => by cases none) ?_
      rintro ⟨eligible, _⟩
      rw [eligible.parsed] at parsed
      cases parsed
    · by_cases fits : candidate.major = version.major ∧ candidate.le version
      · dsimp only
        rw [if_pos fits]
        constructor
        · rintro ⟨⟩
          exact ⟨⟨sameType, parsed, fits.1, fits.2⟩, rfl⟩
        · rintro ⟨eligible, rfl⟩
          have same := Except.ok.inj (parsed.symm.trans eligible.parsed)
          rw [same]
      · dsimp only
        rw [if_neg fits]
        refine iff_of_false (fun none => by cases none) ?_
        rintro ⟨eligible, _⟩
        obtain rfl := Except.ok.inj (parsed.symm.trans eligible.parsed)
        exact fits ⟨eligible.sameMajor, eligible.notLater⟩
  · rw [if_pos sameType]
    exact iff_of_false (fun none => by cases none) fun both => sameType both.1.sameType

theorem le_total_item (left right : SchemaVersion × RouteKey) :
    left.1.le right.1 = true ∨ right.1.le left.1 = true :=
  SchemaVersion.le_total left.1 right.1

theorem highest_eq_pick (candidates : List (SchemaVersion × RouteKey)) :
    highest candidates = FirstGreatest.pick (fun left right => left.1.le right.1) candidates := by
  rw [highest, FirstGreatest.pick]
  congr 1
  funext best item
  cases best <;> rfl

/-- What the scan over the registered keys resolves to. -/
theorem resolveCompatibleKey_of_parse (keys : List RouteKey)
    (parsed : SchemaVersion.parse digits requested.schemaVersion = .ok version) :
    (resolveCompatibleKey digits requested keys = .ok none ∧
        ∀ key ∈ keys, ∀ candidate, ¬ Eligible digits requested version key candidate) ∨
      ∃ key candidate, resolveCompatibleKey digits requested keys = .ok (some key) ∧
        FirstGreatest.Among (fun left right => left.1.le right.1)
          (candidate? digits requested version) keys key (candidate, key) := by
  rw [resolveCompatibleKey, parsed, Except.map, highest_eq_pick]
  rcases picked : FirstGreatest.pick (fun left right => left.1.le right.1)
    (keys.filterMap (candidate? digits requested version)) with _ | found
  · have none := List.filterMap_eq_nil_iff.mp (FirstGreatest.pick_eq_none.mp picked)
    refine Or.inl ⟨?_, fun key listed candidate eligible => ?_⟩
    · rw [picked]
      rfl
    · have some : candidate? digits requested version key = some (candidate, key) :=
        candidate?_eq_some.mpr ⟨eligible, rfl⟩
      rw [none key listed] at some
      cases some
  · obtain ⟨key, among⟩ := FirstGreatest.among_of_pick le_total_item
      (fun _ _ _ => SchemaVersion.le_trans) picked
    obtain ⟨_, rfl⟩ := candidate?_eq_some.mp among.ranked
    refine Or.inr ⟨found.2, found.1, ?_, among⟩
    rw [picked]
    rfl

theorem resolution_of_absent {keys : List RouteKey} (absent : requested ∉ keys)
    (parsed : SchemaVersion.parse digits requested.schemaVersion = .ok version) :
    ∃ matched, resolveCompatibleKey digits requested keys = .ok matched ∧
      Resolution digits requested version keys matched matched.isSome := by
  rcases resolveCompatibleKey_of_parse keys parsed with
    ⟨resolved, ineligible⟩ | ⟨key, candidate, resolved, among⟩
  · exact ⟨none, resolved, Resolution.none absent ineligible⟩
  · obtain ⟨front, back, split, before, after⟩ := among.first
    refine ⟨some key, resolved,
      Resolution.closest absent split (candidate?_eq_some.mp among.ranked).1 ?_ ?_⟩
    · exact fun other member earlier fits =>
        before other member (earlier, other) (candidate?_eq_some.mpr ⟨fits, rfl⟩)
    · exact fun other member later fits =>
        after other member (later, other) (candidate?_eq_some.mpr ⟨fits, rfl⟩)

end

/-- Each handler is called once, on what the one before it left, whether that returned or raised. -/
def callEach (event : TelemetryEvent π) : List (Handler ω π) → ω → List (Except Raised Unit) × ω
  | [], world => ([], world)
  | handler :: rest, world =>
      let here := handler event world
      let later := callEach event rest here.2
      (here.1 :: later.1, later.2)

theorem length_callEach (event : TelemetryEvent π) (handlers : List (Handler ω π)) (world : ω) :
    (callEach event handlers world).1.length = handlers.length := by
  induction handlers generalizing world with
  | nil => rfl
  | cons handler rest ih => exact congrArg (· + 1) (ih _)

/-- Outside strict mode the handlers that returned and those that raised are counted apart. -/
theorem invoke_callEach (event : TelemetryEvent π) (handlers : List (Handler ω π)) (world : ω) :
    invoke false event handlers world =
      (.ok ((callEach event handlers world).1.countP (·.isOk),
          (callEach event handlers world).1.countP fun outcome => !outcome.isOk),
        (callEach event handlers world).2) := by
  induction handlers generalizing world with
  | nil => rfl
  | cons handler rest ih =>
      rw [invoke, callEach]
      rcases outcome : handler event world with ⟨reason | value, after⟩
      · have counted : Call.guarded false (0, 1) (handler event >>= fun _ => pure (1, 0)) world =
            (.ok (0, 1), after) := by
          rw [Call.guarded, Call.catching_of_error (Call.bind_of_error outcome _)]
          rfl
        rw [Call.bind_of_ok counted, Call.bind_of_ok (ih after)]
        simp only [Call.pure_apply, List.countP_cons, Except.isOk, Except.toBool, Bool.false_eq_true,
          ↓reduceIte, Bool.not_false, Nat.zero_add, Nat.add_comm]
      · have counted : Call.guarded false (0, 1) (handler event >>= fun _ => pure (1, 0)) world =
            (.ok (1, 0), after) := by
          have returned : (handler event >>= fun _ => pure (1, 0)) world =
              ((.ok (1, 0), after) : Except Raised (Nat × Nat) × ω) := Call.bind_of_ok outcome _
          rw [Call.guarded, Call.catching_of_ok returned]
        rw [Call.bind_of_ok counted, Call.bind_of_ok (ih after)]
        simp only [Call.pure_apply, List.countP_cons, Except.isOk, Except.toBool, Bool.false_eq_true,
          ↓reduceIte, Bool.not_true, Nat.zero_add, Nat.add_comm]

theorem dispatchTo_registered (digits : DecimalDigits) {registrations : List (Registration ω π)}
    {key : RouteKey} (listed : key ∈ registeredKeys registrations) (event : TelemetryEvent π)
    (fellBack : Bool) (world : ω) :
    dispatchTo (registered false digits registrations) event key fellBack world =
      (.ok ⟨some key,
          (callEach event (handlersFor registrations key) world).1.countP (·.isOk),
          (callEach event (handlersFor registrations key) world).1.countP
            fun outcome => !outcome.isOk, fellBack⟩,
        (callEach event (handlersFor registrations key) world).2) := by
  have some := handlersFor_ne_nil listed
  rw [dispatchTo, get?_registered]
  rcases handlers : handlersFor registrations key with _ | ⟨first, rest⟩
  · exact absurd handlers some
  · rw [strict_registered]
    exact Call.bind_of_ok (invoke_callEach event (first :: rest) world) _

/-- The handlers of the key an event is dispatched to. -/
def due (registrations : List (Registration ω π)) (matched : Option RouteKey) :
    List (Handler ω π) :=
  (matched.map (handlersFor registrations)).getD []

/-- A dispatch that calls the due handlers once each, in order. -/
structure Dispatched (registrations : List (Registration ω π)) (event : TelemetryEvent π)
    (matched : Option RouteKey) (fellBack : Bool) (world : ω) (result : DispatchResult)
    (after : ω) : Prop where
  matchedKey : result.matchedKey = matched
  fellBack : result.fellBack = fellBack
  left : after = (callEach event (due registrations matched) world).2
  invoked : result.handlersInvoked =
    (callEach event (due registrations matched) world).1.countP (·.isOk)
  failed : result.handlerFailures =
    (callEach event (due registrations matched) world).1.countP fun outcome => !outcome.isOk
  together : result.handlersInvoked + result.handlerFailures = (due registrations matched).length

theorem dispatchTo_dispatched (digits : DecimalDigits)
    {registrations : List (Registration ω π)} {key : RouteKey}
    (listed : key ∈ registeredKeys registrations) (event : TelemetryEvent π) (fellBack : Bool)
    (world : ω) :
    ∃ result after,
      dispatchTo (registered false digits registrations) event key fellBack world =
        (.ok result, after) ∧
      Dispatched registrations event (some key) fellBack world result after := by
  refine ⟨_, _, dispatchTo_registered digits listed event fellBack world, rfl, rfl, rfl, rfl, rfl, ?_⟩
  have lengths := length_callEach event (handlersFor registrations key) world
  rw [List.length_eq_countP_add_countP (fun outcome => outcome.isOk)] at lengths
  simpa only [due, Option.map_some, Option.getD_some, Bool.not_eq_true,
    Bool.decide_eq_false] using lengths

/-- An event of a version that parses reaches the handlers of the key that is resolved for it. -/
theorem dispatch_registered (digits : DecimalDigits) (registrations : List (Registration ω π))
    (event : TelemetryEvent π) (version : SchemaVersion)
    (parsed : SchemaVersion.parse digits event.schemaVersion = .ok version) (world : ω) :
    ∃ matched fellBack result after,
      Resolution digits (requestedKey event) version (registeredKeys registrations) matched
        fellBack ∧
      (registered false digits registrations).dispatch event world = (.ok result, after) ∧
      Dispatched registrations event matched fellBack world result after := by
  have known : (registered false digits registrations).handlers.contains (requestedKey event) =
      true ↔ requestedKey event ∈ registeredKeys registrations := by
    rw [OrderedDict.contains, ← OrderedDict.mem_keys_iff, keys_registered]
  rw [dispatch, keys_registered, digits_registered]
  by_cases listed : requestedKey event ∈ registeredKeys registrations
  · obtain ⟨result, after, returned, dispatched⟩ :=
      dispatchTo_dispatched digits listed event false world
    refine ⟨_, false, result, after, Resolution.exact listed, ?_, dispatched⟩
    rw [if_pos (known.mpr listed), returned]
  · rw [if_neg fun present => listed (known.mp present)]
    obtain ⟨matched, resolved, resolution⟩ := resolution_of_absent listed parsed
    cases matched with
    | none =>
        refine ⟨none, false, ⟨none, 0, 0, false⟩, world, resolution, ?_,
          rfl, rfl, rfl, rfl, rfl, rfl⟩
        exact Call.bind_lift_of_ok resolved _ world
    | some key =>
        obtain ⟨result, after, returned, dispatched⟩ :=
          dispatchTo_dispatched digits (resolution.listed key rfl) event true world
        refine ⟨_, true, result, after, resolution, ?_, dispatched⟩
        exact (Call.bind_lift_of_ok resolved _ world).trans returned

section Sample

open RealtimePipeline (sampleEvent sampleDigits)

/-- Two versions with a handler each, one that raises, and a registration that is refused. -/
def sampleRegistrations : List (Registration Nat Unit) :=
  [⟨"store.transaction", "v1.2", some fun _ => Call.write (· + 1)⟩,
    ⟨"store.transaction", "", some fun _ => Call.write (· + 10)⟩,
    ⟨"store.transaction", "v1.9", some fun _ => Call.raise (.valueError "malformed")⟩]

theorem dispatch_registered_sample :
    ∃ matched fellBack result after,
      Resolution sampleDigits ⟨"store.transaction", "v1.10"⟩ ⟨1, 10, 0⟩
        (registeredKeys sampleRegistrations) matched fellBack ∧
      (registered false sampleDigits sampleRegistrations).dispatch
        (sampleEvent "v1.10" (.utc .epoch)) 0 = (.ok result, after) ∧
      Dispatched sampleRegistrations (sampleEvent "v1.10" (.utc .epoch)) matched fellBack 0 result
        after :=
  dispatch_registered sampleDigits sampleRegistrations (sampleEvent "v1.10" (.utc .epoch))
    ⟨1, 10, 0⟩ rfl 0

/-- The later of the two versions is the one resolved, and its handler raises. -/
example : (registered false sampleDigits sampleRegistrations).dispatch
    (sampleEvent "v1.10" (.utc .epoch)) 0 =
      (.ok ⟨some ⟨"store.transaction", "v1.9"⟩, 0, 1, true⟩, 0) := rfl

end Sample

end SignalForge.EventRouter
