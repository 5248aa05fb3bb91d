import SignalForge.EventNormaliser

/-! Which extracted fields the normaliser makes an event of, and which event. -/

set_option autoImplicit false

namespace SignalForge.EventNormaliser

section

variable {ω : Type} {rules : ParserRules ω} {normaliser : EventNormaliser}

/-- The schema takes the fields. -/
structure Describable (rules : ParserRules ω) (extracted : ExtractedEventFields) : Prop where
  labelled : 1 ≤ extracted.deviceLabel.length
  label_short : extracted.deviceLabel.length ≤ 128
  transport : ∀ token, extracted.transportProtocol = some token →
    rules.cases.upper token ∈ ["TCP".toList, "UDP".toList, "TLS".toList]
  sourceIp : ∀ address, extracted.sourceIp = some address → (ipAddress? address).isSome
  callId_short : ∀ callId, extracted.callId = some callId → callId.length ≤ 256

/-- The observation has a UTC date and does not lead the clock by more than the skew allowed. -/
structure Timely (observedAt : Datetime) (ingested : Instant) : Prop where
  above : minMicros ≤ observedAt.micros
  below : observedAt.micros ≤ maxMicros
  notAhead : observedAt.micros ≤ ingested.micros + BaseEvent.maxClockSkew
  clock : ingested.micros + BaseEvent.maxClockSkew ≤ maxMicros

theorem convert_returns_iff {α : Type} {parse : Str → Option α} {message : String} {text : Str} :
    (∃ value, convert parse message text = .ok value) ↔ (parse text).isSome := by
  rw [convert]
  cases parse text with
  | none => simp only [reduceCtorEq, exists_false, Option.isSome_none, Bool.false_eq_true]
  | some value => simp only [Except.ok.injEq, exists_eq', Option.isSome_some]

theorem convertOptional_returns_iff {α : Type} {parse : Str → Option α} {message : String}
    {optional : Option Str} :
    (∃ value, convertOptional parse message optional = .ok value) ↔
      ∀ text, optional = some text → (parse text).isSome := by
  cases optional with
  | none => simp only [convertOptional, Except.ok.injEq, exists_eq', reduceCtorEq,
      false_implies, implies_true]
  | some text =>
      have here : (∃ value, convert parse message text = .ok value) ↔ (parse text).isSome :=
        convert_returns_iff
      simp only [convertOptional, Option.some.injEq, forall_eq', ← here]
      cases convert parse message text with
      | error reason => simp only [Except.map, reduceCtorEq, exists_false]
      | ok value => simp only [Except.map, Except.ok.injEq, exists_eq']

theorem transportProtocol?_isSome {value : Str} : (transportProtocol? value).isSome ↔
    value ∈ ["TCP".toList, "UDP".toList, "TLS".toList] := by
  simp only [transportProtocol?, List.mem_cons, List.not_mem_nil, or_false]
  split
  · rename_i tcp
    simp only [Option.isSome_some, tcp, true_or]
  · split
    · rename_i udp
      simp only [Option.isSome_some, udp, true_or, or_true]
    · split
      · rename_i tls
        simp only [Option.isSome_some, tls, or_true]
      · rename_i notTcp notUdp notTls
        simp only [Option.isSome_none, Bool.false_eq_true, notTcp, notUdp, notTls, or_self]

/-- The mapper's token is the name of a status. -/
theorem convert_registrationStatus (cases : CaseMaps) (token : RegistrationToken)
    (message : String) :
    convert registrationStatus? message (cases.upper token.text) = .ok .registered := by
  have ascii : token.text.all (fun c => c.toNat < 128) = true := by
    cases token
    decide
  have upper : cases.upper token.text = "REGISTERED".toList := by
    rw [cases.upper_ascii _ fun c member => of_decide_eq_true (List.all_eq_true.mp ascii c member)]
    cases token
    decide
  rw [upper]
  rfl

theorem validatePayload_returns_iff {payload : SipRegistrationPayload} :
    (∃ valid, validatePayload payload = .ok valid) ↔ refusedFields payload = [] := by
  rw [validatePayload]
  split
  · rename_i none
    simp only [Except.ok.injEq, exists_eq', none]
  · rename_i some
    simp only [reduceCtorEq, exists_false, false_iff]
    exact some

/-- Of a payload with a derived id, a checked store and a UTC time, only the texts that came
from the message are refused. -/
theorem refusedFields_eq_nil {payload : SipRegistrationPayload}
    (derived : payload.deviceId.version = some 5) (store : Text.isIdentifier payload.storeId = true)
    (utc : payload.observedAt.offset = 0) :
    refusedFields payload = [] ↔
      (1 ≤ payload.deviceLabel.length ∧ payload.deviceLabel.length ≤ 128) ∧
        ∀ callId, payload.registrationCallId = some callId → callId.length ≤ 256 := by
  have short : (payload.registrationCallId.all (·.length ≤ 256) = true) ↔
      ∀ callId, payload.registrationCallId = some callId → callId.length ≤ 256 := by
    cases payload.registrationCallId with
    | none => simp only [Option.all_none, reduceCtorEq, false_implies, implies_true]
    | some callId => simp only [Option.all_some, decide_eq_true_eq, Option.some.injEq, forall_eq']
  simp only [refusedFields, derived, store, utc, or_true, ↓reduceIte, List.nil_append,
    List.append_nil, List.append_eq_nil_iff, ite_eq_left_iff, List.cons_ne_self, imp_false,
    not_not, short]

theorem buildPayload_returns_iff {extracted : ExtractedEventFields} {observedAt : Datetime}
    (utc : observedAt.offset = 0) :
    (∃ payload, buildPayload rules normaliser extracted observedAt = .ok payload) ↔
      Describable rules extracted := by
  have refused : ∀ (transportProtocol : Option SipTransportProtocol)
      (sourceIp : Option Ipv4Address), refusedFields {
        deviceId := Identity.deriveDeviceId rules.sha1 normaliser.storeId extracted.deviceLabel
        deviceLabel := extracted.deviceLabel
        storeId := normaliser.storeId
        registrationStatus := .registered
        observedAt := observedAt
        transportProtocol := transportProtocol
        sourceIp := sourceIp
        registrationCallId := extracted.callId } = [] ↔
      (1 ≤ extracted.deviceLabel.length ∧ extracted.deviceLabel.length ≤ 128) ∧
        ∀ callId, extracted.callId = some callId → callId.length ≤ 256 := fun _ _ =>
    refusedFields_eq_nil (Identity.version_derive _ _ _) normaliser.valid utc
  have transport : (∃ value, convertOptional transportProtocol?
      "is not a valid SipTransportProtocol" (extracted.transportProtocol.map rules.cases.upper) =
        .ok value) ↔ ∀ token, extracted.transportProtocol = some token →
          rules.cases.upper token ∈ ["TCP".toList, "UDP".toList, "TLS".toList] := by
    simp only [convertOptional_returns_iff, transportProtocol?_isSome, Option.map_eq_some_iff,
      forall_exists_index, and_imp, forall_apply_eq_imp_iff₂]
  have sourceIp : (∃ value, convertOptional ipAddress?
      "does not appear to be an IPv4 or IPv6 address" extracted.sourceIp = .ok value) ↔
        ∀ address, extracted.sourceIp = some address → (ipAddress? address).isSome :=
    convertOptional_returns_iff
  constructor
  · rintro ⟨payload, built⟩
    simp only [buildPayload, Except.bind_eq_ok] at built
    obtain ⟨status, named, protocol, converted, address, parsed, validated⟩ := built
    rw [convert_registrationStatus] at named
    cases named
    have accepted := (refused _ _).mp (validatePayload_returns_iff.mp ⟨payload, validated⟩)
    exact ⟨accepted.1.1, accepted.1.2, transport.mp ⟨protocol, converted⟩,
      sourceIp.mp ⟨address, parsed⟩, accepted.2⟩
  · intro describable
    obtain ⟨protocol, converted⟩ := transport.mpr describable.transport
    obtain ⟨address, parsed⟩ := sourceIp.mpr describable.sourceIp
    obtain ⟨payload, validated⟩ := validatePayload_returns_iff.mpr ((refused protocol address).mpr
      ⟨⟨describable.labelled, describable.label_short⟩, describable.callId_short⟩)
    refine ⟨payload, ?_⟩
    simp only [buildPayload, Except.bind_eq_ok]
    exact ⟨.registered, convert_registrationStatus _ _ _, protocol, converted, address, parsed,
      validated⟩

/-- What an event says about the traffic: all of it but the ingest time and the trace. -/
def observation (event : SipRegistrationEvent) : Uuid × Datetime × SipRegistrationPayload :=
  (event.eventId, event.eventTimestamp, event.payload)

def observe (rules : ParserRules ω) (normaliser : EventNormaliser)
    (extracted : ExtractedEventFields) (observedAt : Datetime) :
    Except Raised (Uuid × Datetime × SipRegistrationPayload) := do
  let eventTimestamp ← observedAt.toUtc
  let payload ← buildPayload rules normaliser extracted eventTimestamp
  pure (deriveEventId rules payload, eventTimestamp, payload)

/-- The world one event is built in, after it. -/
def advance (rules : ParserRules ω) (traceId : Option Uuid) (world : ω) : ω :=
  (traceOf rules traceId (rules.now world).2).2

theorem normalise_ok {traceId : Option Uuid} {extracted : ExtractedEventFields}
    {observedAt : Datetime} {world after : ω} {event : SipRegistrationEvent}
    (returned : normalise rules normaliser traceId extracted observedAt world =
      (.ok event, after)) :
    Describable rules extracted ∧ Timely observedAt (rules.now world).1 ∧
      observe rules normaliser extracted observedAt = .ok (observation event) ∧
      after = advance rules traceId world := by
  simp only [normalise, Call.bind_eq_ok, Call.lift_apply, Call.total_apply, Call.pure_apply,
    Prod.mk.injEq] at returned
  obtain ⟨eventTimestamp, _, ⟨shifted, rfl⟩, payload, _, ⟨built, rfl⟩, ingested, _, ⟨same, rfl⟩,
    trace, _, traced, _, _, ⟨checked, rfl⟩, made, rfl⟩ := returned
  cases same
  cases made
  obtain ⟨utc, sameInstant⟩ := Datetime.toUtc_ok shifted
  obtain ⟨clock, notAhead⟩ := BaseEvent.checkClockSkew_eq_ok.mp checked
  rw [sameInstant] at notAhead
  have wall : eventTimestamp.wall = observedAt.micros := by
    rw [← sameInstant, Datetime.micros, utc, Int.sub_zero]
  have above := eventTimestamp.min_le_wall
  have below := eventTimestamp.wall_le_max
  rw [wall] at above below
  refine ⟨(buildPayload_returns_iff utc).mp ⟨payload, built⟩, ⟨above, below, notAhead, clock⟩,
    ?_, ?_⟩
  · exact Except.bind_eq_ok.mpr ⟨eventTimestamp, shifted,
      Except.bind_eq_ok.mpr ⟨payload, built, rfl⟩⟩
  · rw [advance, traced]

theorem normalise_returns {traceId : Option Uuid} {extracted : ExtractedEventFields}
    {observedAt : Datetime} {world : ω} (describable : Describable rules extracted)
    (timely : Timely observedAt (rules.now world).1) :
    (normalise rules normaliser traceId extracted observedAt).Returns world := by
  have shifted := Datetime.toUtc_of_range timely.above timely.below
  have described : ∃ payload, buildPayload rules normaliser extracted
      (.utc ⟨observedAt.micros, timely.above, timely.below⟩) = .ok payload :=
    (buildPayload_returns_iff (Datetime.utc_offset _)).mpr describable
  obtain ⟨payload, built⟩ := described
  obtain ⟨trace, traced⟩ : (traceOf rules traceId).Returns (rules.now world).2 := by
    cases traceId with
    | none => exact ⟨_, _, rfl⟩
    | some trace => exact ⟨trace, _, rfl⟩
  have checked := BaseEvent.checkClockSkew_eq_ok.mpr ⟨timely.clock,
    (Datetime.utc_micros ⟨observedAt.micros, timely.above, timely.below⟩).trans_le timely.notAhead⟩
  apply Call.Returns.bind_lift shifted
  apply Call.Returns.bind_lift built
  apply Call.Returns.bind ⟨_, _, rfl⟩
  intro ingested between read
  cases read
  apply Call.Returns.bind ⟨trace, traced⟩
  intro _ _ _
  apply Call.Returns.bind_lift checked
  exact Call.returns_pure _ _

end

end SignalForge.EventNormaliser
