import SignalForge.StorePrograms

/-! The dashboards over DynamoDB. Whatever is observed and asked, in whatever order, they come to what
they do over the in-memory store: the same answers, the same exceptions, the same views. -/

set_option autoImplicit false

namespace SignalForge

open StoreProgram

/-- What is asked of the dashboards: to fold a detection, or to read a view. The loop over the buckets
of a window is given a number of turns. -/
inductive DashboardRequest where
  | observe (projection : Projection) (detection : DetectionEvent)
  | offlineCount (storeId : String)
  | offlineDeviceIds (storeId : String)
  | storesWithOffline
  | activeOutageCount
  | storesInOutage
  | isInOutage (storeId : String)
  | countInWindow (signalName : String) (asOf : Datetime) (windowSeconds : Int) (turns : Nat)

inductive DashboardReply where
  | observed
  | number (count : Nat)
  | ids (offline : SortedSet Str)
  | stores (storeIds : List String)
  | flag (value : Bool)
  | counted (count : Option Nat)

namespace DashboardRequest

variable (formatReal : Double → String)

/-- What a request comes to over the in-memory store. -/
def answer : DashboardRequest → Call Raised ProjectionStore DashboardReply
  | observe projection detection => do
      projection.observe formatReal detection
      pure .observed
  | offlineCount storeId => fun store =>
      ((OfflineCountProjection.offlineCount store storeId).map .number, store)
  | offlineDeviceIds storeId => fun store =>
      ((OfflineCountProjection.offlineDeviceIds store storeId).map .ids, store)
  | storesWithOffline => fun store =>
      (.ok (.stores (OfflineCountProjection.storesWithOffline store)), store)
  | activeOutageCount => fun store =>
      (.ok (.number (ActiveOutageProjection.activeOutageCount store)), store)
  | storesInOutage => fun store =>
      (.ok (.stores (ActiveOutageProjection.storesInOutage store)), store)
  | isInOutage storeId => fun store =>
      (.ok (.flag (ActiveOutageProjection.isInOutage store storeId)), store)
  | countInWindow signalName asOf windowSeconds turns => fun store =>
      ((AnomalyRateProjection.outcome (AnomalyRateProjection.countInWindow Binary64.round store
        signalName asOf windowSeconds turns)).map .counted, store)

/-- The request as a program over the store protocol. -/
def program : DashboardRequest → StoreProgram DashboardReply
  | observe projection detection =>
      (projection.observeProgram formatReal detection).map fun _ => .observed
  | offlineCount storeId => OfflineCountProjection.loading storeId fun offline =>
      .done (.number offline.items.length)
  | offlineDeviceIds storeId => OfflineCountProjection.loading storeId fun offline =>
      .done (.ids offline)
  | storesWithOffline => listing OfflineCountProjection.view fun storeIds => .done (.stores storeIds)
  | activeOutageCount => listing ActiveOutageProjection.view fun storeIds =>
      .done (.number storeIds.length)
  | storesInOutage => listing ActiveOutageProjection.view fun storeIds => .done (.stores storeIds)
  | isInOutage storeId => getting ActiveOutageProjection.view storeId fun value =>
      .done (.flag value.isSome)
  | countInWindow signalName asOf windowSeconds turns =>
      (AnomalyRateProjection.countInWindowProgram signalName asOf windowSeconds turns).map .counted

theorem evaluate_program (request : DashboardRequest) (store : ProjectionStore) :
    (request.program formatReal).evaluate inMemory store = request.answer formatReal store := by
  cases request with
  | observe projection detection =>
      rw [program, OpProgram.evaluate_map, Projection.evaluate_observeProgram, answer,
        Call.bind_apply]
      rcases projection.observe formatReal detection store with ⟨reason | value, after⟩ <;> rfl
  | offlineCount storeId =>
      rw [program, OfflineCountProjection.evaluate_loading]
      simp only [answer, OfflineCountProjection.offlineCount]
      cases OfflineCountProjection.load store storeId <;> rfl
  | offlineDeviceIds storeId =>
      rw [program, OfflineCountProjection.evaluate_loading]
      simp only [answer, OfflineCountProjection.offlineDeviceIds]
      cases OfflineCountProjection.load store storeId <;> rfl
  | storesWithOffline => rfl
  | activeOutageCount => rfl
  | storesInOutage => rfl
  | isInOutage storeId => rfl
  | countInWindow signalName asOf windowSeconds turns =>
      rw [program, OpProgram.evaluate_map, AnomalyRateProjection.evaluate_countInWindowProgram,
        answer]

theorem issues_loading {α : Type} {storeId : String} {next : SortedSet Str → StoreProgram α}
    (later : ∀ offline, (next offline).Issues StoreOp.Issued) :
    (OfflineCountProjection.loading storeId next).Issues StoreOp.Issued :=
  issues_getting trivial fun _ => issues_lifted fun offline _ => later offline

theorem issues_observeProgram (projection : Projection) (detection : DetectionEvent) :
    (projection.observeProgram formatReal detection).Issues StoreOp.Issued := by
  cases projection with
  | offlineCount =>
      rw [Projection.observeProgram, OfflineCountProjection.observeProgram]
      rcases OfflineCountProjection.transition detection with _ | ⟨storeId, deviceId, wentOffline⟩
      · trivial
      · refine issues_loading fun offline => ?_
        rw [OfflineCountProjection.saving]
        split
        · exact ⟨trivial, fun _ => trivial⟩
        · exact ⟨Or.inl rfl, fun _ => trivial⟩
  | activeOutage =>
      simp only [Projection.observeProgram, ActiveOutageProjection.observeProgram]
      split
      · exact ⟨Or.inr (Or.inl rfl), fun _ => trivial⟩
      · split
        · exact ⟨trivial, fun _ => trivial⟩
        · trivial
  | anomalyRate =>
      refine issues_lifted fun kept entered => ?_
      rcases kept with _ | ⟨key, detectionId⟩
      · trivial
      · obtain ⟨signal, _, onset, rfl, _⟩ := AnomalyRateProjection.entryBy_eq_some.mp entered
        obtain ⟨bucket, rfl, _⟩ := AnomalyRateProjection.onsetOf_aligned onset
        exact issues_getting trivial fun raw => issues_lifted fun ids _ =>
          ⟨Or.inr (Or.inr ⟨rfl, signal, bucket, rfl⟩), fun _ => trivial⟩

theorem issues_countFromProgram (signalName : String) (asOf : Datetime) (turns : Nat) :
    ∀ (bucket : Datetime) (total : Nat),
      (AnomalyRateProjection.countFromProgram signalName asOf turns bucket total).Issues
        StoreOp.Issued := by
  induction turns with
  | zero => exact fun _ _ => trivial
  | succ turns ih =>
      intro bucket total
      rw [AnomalyRateProjection.countFromProgram]
      split
      · exact issues_getting trivial fun raw => issues_lifted fun count _ =>
          issues_lifted fun next _ => ih next (total + count)
      · trivial

/-- A request puts under the anomaly rate only what the expiry can be read off. -/
theorem issues_program (request : DashboardRequest) :
    (request.program formatReal).Issues StoreOp.Issued := by
  cases request with
  | observe projection detection =>
      exact OpProgram.issues_map (issues_observeProgram formatReal projection detection)
  | offlineCount storeId => exact issues_loading fun _ => trivial
  | offlineDeviceIds storeId => exact issues_loading fun _ => trivial
  | storesWithOffline => exact issues_listing trivial fun _ => trivial
  | activeOutageCount => exact issues_listing trivial fun _ => trivial
  | storesInOutage => exact issues_listing trivial fun _ => trivial
  | isInOutage storeId => exact issues_getting trivial fun _ => trivial
  | countInWindow signalName asOf windowSeconds turns =>
      exact OpProgram.issues_map (issues_lifted fun bucket _ =>
        issues_countFromProgram signalName asOf turns bucket 0)

/-- What requests come to one after the other; one that raises is followed by the next. -/
def answers : List DashboardRequest → ProjectionStore →
    List (Except Raised DashboardReply) × ProjectionStore
  | [], store => ([], store)
  | request :: rest, store =>
      let (outcome, after) := request.answer formatReal store
      let (outcomes, final) := answers rest after
      (outcome :: outcomes, final)

/-- The same over DynamoDB, each request with the pages its listings come in; `none` where the turns
of a listing run out. -/
def cloudAnswers {τ : Type} (cloud : DynamoDbProjectionStore) (turns : Nat) :
    List (DashboardRequest × DynamoDb.Query τ) → DynamoDb →
      List (Except Raised (Option DashboardReply)) × DynamoDb
  | [], database => ([], database)
  | (request, query) :: rest, database =>
      let (outcome, after) :=
        (request.program formatReal).run (StoreOp.dynamoDb cloud query turns) database
      let (outcomes, final) := cloudAnswers cloud turns rest after
      (outcome :: outcomes, final)

open DynamoDb (Refines Query Paginates)

variable {τ : Type}

/-- One request. -/
theorem cloud_answer (name : String) (request : DashboardRequest) {query : Query τ}
    (paginates : Paginates query) {database : DynamoDb} {store : ProjectionStore}
    (refines : Refines (database.tables name) store) :
    ∃ enough after, Refines (after.tables name) (request.answer formatReal store).2 ∧
      ∀ turns, enough ≤ turns →
        (request.program formatReal).run
            (StoreOp.dynamoDb { table := some name } query turns) database =
          ((request.answer formatReal store).1.map some, after) := by
  have step : ∀ operation, StoreOp.Issued operation → ∀ (store : ProjectionStore)
      (database : DynamoDb), Refines (database.tables name) store →
        ∃ enough after, Refines (after.tables name) (inMemory operation store).2 ∧
          ∀ turns, enough ≤ turns →
            StoreOp.dynamoDb { table := some name } query turns operation database =
              (.ok (some (inMemory operation store).1), after) :=
    fun operation issued store database refines =>
      DynamoDbProjectionStore.dynamoDb_step name issued paginates refines
  rw [← evaluate_program]
  exact OpProgram.run_simulates step (request.program formatReal)
    (issues_program formatReal request) refines

/-- From tables and a store that hold the same, any requests, each depending on what was stored by
the ones before it, come to the same over both, and leave the same behind. -/
theorem cloudAnswers_answers (name : String) (requests : List (DashboardRequest × Query τ))
    (paginates : ∀ request ∈ requests, Paginates request.2) {database : DynamoDb}
    {store : ProjectionStore} (refines : Refines (database.tables name) store) :
    ∃ enough after,
      Refines (after.tables name) (answers formatReal (requests.map Prod.fst) store).2 ∧
        ∀ turns, enough ≤ turns →
          cloudAnswers formatReal { table := some name } turns requests database =
            ((answers formatReal (requests.map Prod.fst) store).1.map (Except.map some), after) := by
  induction requests generalizing database store with
  | nil => exact ⟨0, database, refines, fun _ _ => rfl⟩
  | cons request rest ih =>
      obtain ⟨request, query⟩ := request
      obtain ⟨paginatesHere, paginatesLater⟩ := List.forall_mem_cons.mp paginates
      obtain ⟨first, between, refinesBetween, here⟩ :=
        cloud_answer formatReal name request paginatesHere refines
      obtain ⟨more, after, refinesAfter, later⟩ := ih paginatesLater refinesBetween
      refine ⟨max first more, after, refinesAfter, fun turns within => ?_⟩
      rw [cloudAnswers, here turns (Nat.le_trans (Nat.le_max_left _ _) within)]
      simp only [later turns (Nat.le_trans (Nat.le_max_right _ _) within), List.map_cons, answers]

end DashboardRequest

section Samples

open DynamoDb (Paginates)

/-- A device offline, an outage, an anomaly and what is read of them. -/
def sampleRequests : List (DashboardRequest × DynamoDb.Query Nat) :=
  [(.observe .anomalyRate (SharedProjection.sampleAnomaly false), sampleQuery),
    (.storesWithOffline, sampleQuery),
    (.countInWindow "latency_ms" (.utc .epoch) 60 2, sampleQuery)]

theorem cloudAnswers_answers_sample :
    ∃ enough after,
      DynamoDb.Refines (after.tables "views")
          (DashboardRequest.answers (fun _ => "") (sampleRequests.map Prod.fst) .empty).2 ∧
        ∀ turns, enough ≤ turns →
          DashboardRequest.cloudAnswers (fun _ => "") { table := some "views" } turns
              sampleRequests ⟨fun _ => .empty, []⟩ =
            ((DashboardRequest.answers (fun _ => "") (sampleRequests.map Prod.fst) .empty).1.map
              (Except.map some), after) := by
  refine DashboardRequest.cloudAnswers_answers _ "views" sampleRequests ?_ DynamoDb.refines_empty
  rw [sampleRequests]
  simp only [List.forall_mem_cons]
  exact ⟨sampleQuery_paginates, sampleQuery_paginates, sampleQuery_paginates,
    List.forall_mem_nil _⟩

end Samples

end SignalForge
