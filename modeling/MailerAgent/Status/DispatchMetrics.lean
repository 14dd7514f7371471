import Mathlib.Algebra.GroupWithZero.Nat
import Mathlib.Data.List.Dedup
import MailerAgent.Dispatch.Claiming
import MailerAgent.Foundation.Counting
import MailerAgent.Status.Metrics

/-!
# Dispatch metrics

`dispatch_metrics` of `operator_metrics.py`. It makes two statements, and other transactions
may commit in between: the counts of the states are read from one version of the table, the
ages and the leases from a later one. When a dispatch was accepted is given by its key.
-/

namespace MailerAgent
namespace Status

open Dispatch Relational

/-- `_STATE_ORDER`. -/
def stateOrder : List ExternalDispatchState :=
  [.queued, .generating, .sending, .sent, .failed, .unknown]

/-- `_NON_TERMINAL`. -/
def nonTerminal : List ExternalDispatchState :=
  [.queued, .generating, .sending]

/-- The dispatches in a state. -/
def stateCount
    (dispatches : Table ExternalDispatch)
    (state : ExternalDispatchState) : Nat :=
  dispatches.countWhere fun row => row.state == state

/-- `SELECT state, count(*) ... GROUP BY state`. -/
def groupByState (dispatches : Table ExternalDispatch) : List (ExternalDispatchState × Nat) :=
  (dispatches.rows.map ExternalDispatch.state).dedup.map fun state =>
    (state, stateCount dispatches state)

/-- The rows that the second statement aggregates, restricted by one of its conditions. -/
def workingWhere
    (condition : ExternalDispatch → Bool)
    (row : ExternalDispatch) : Bool :=
  nonTerminal.contains row.state && condition row

/-- `min(case((condition, created_at)))`. -/
def oldestWhere
    (dispatches : Table ExternalDispatch)
    (condition : ExternalDispatch → Bool) : Option Instant :=
  ((dispatches.rows.filter (workingWhere condition)).map ExternalDispatch.createdAt).min?

/-- `queue` of the metrics. -/
structure QueueMetrics where
  depth : Nat
  awaitingGeneration : Nat
  readyToSend : Nat
  oldestQueuedAgeSeconds : Option Nat
  oldestAwaitingGenerationAgeSeconds : Option Nat
  oldestReadyToSendAgeSeconds : Option Nat
  deriving DecidableEq, Repr

/-- `sending` of the metrics. -/
structure SendingMetrics where
  inFlightOrUnexpired : Nat
  staleLeaseExpired : Nat
  leaseSeconds : Nat
  deriving DecidableEq, Repr

/-- `outcomes` of the metrics. -/
structure OutcomeMetrics where
  smtpAccepted : Nat
  failedNotSent : Nat
  unknownNeedsOperatorReconciliation : Nat
  deriving DecidableEq, Repr

/-- What `dispatch_metrics` reports. -/
structure DispatchMetrics where
  generatedAt : Instant
  states : List (ExternalDispatchState × Nat)
  total : Nat
  unrecognizedStateRows : Nat
  queue : QueueMetrics
  sending : SendingMetrics
  outcomes : OutcomeMetrics
  deriving DecidableEq, Repr

/-- `per_state[state]`. -/
def DispatchMetrics.perState
    (metrics : DispatchMetrics)
    (state : ExternalDispatchState) : Nat :=
  (metrics.states.lookup state).getD 0

/-- `per_state`, filled from the rows of the first statement. -/
def perState (grouped : List (ExternalDispatchState × Nat)) :
    List (ExternalDispatchState × Nat) :=
  stateOrder.map fun state => (state, (grouped.lookup state).getD 0)

/-- `dispatch_metrics`. -/
def dispatchMetrics
    (counted aggregated : Table ExternalDispatch)
    (now : Instant)
    (leaseSeconds : Nat) : DispatchMetrics :=
  let grouped := groupByState counted
  let states := perState grouped
  let unrecognized :=
    ((grouped.filter fun group => !stateOrder.contains group.1).map Prod.snd).sum
  let of state := (states.lookup state).getD 0
  let queued := fun row : ExternalDispatch => row.state == .queued
  let stale := aggregated.countWhere
    (workingWhere (sendLeaseExpired (now - leaseSeconds * second)))
  let ageOf := fun condition => ageSeconds (oldestWhere aggregated condition) now
  { generatedAt := now
    states := states
    total := (states.map Prod.snd).sum + unrecognized
    unrecognizedStateRows := unrecognized
    queue :=
      { depth := of .queued
        awaitingGeneration := aggregated.countWhere (workingWhere awaitingGeneration)
        readyToSend := aggregated.countWhere (workingWhere awaitingSend)
        oldestQueuedAgeSeconds := ageOf queued
        oldestAwaitingGenerationAgeSeconds := ageOf awaitingGeneration
        oldestReadyToSendAgeSeconds := ageOf awaitingSend }
    sending :=
      { inFlightOrUnexpired := of .sending - stale
        staleLeaseExpired := stale
        leaseSeconds := leaseSeconds }
    outcomes :=
      { smtpAccepted := of .sent
        failedNotSent := of .failed
        unknownNeedsOperatorReconciliation := of .unknown } }

/-! ## What is counted -/

theorem lookup_groupByState
    (dispatches : Table ExternalDispatch)
    (state : ExternalDispatchState) :
    ((groupByState dispatches).lookup state).getD 0 = stateCount dispatches state := by
  have general : ∀ states : List ExternalDispatchState,
      (states.map fun label => (label, stateCount dispatches label)).lookup state =
        if state ∈ states then some (stateCount dispatches state) else none := by
    intro states
    induction states with
    | nil => rfl
    | cons label states inductionHypothesis =>
        rw [List.map_cons, List.lookup_cons, inductionHypothesis]
        by_cases same : state = label
        · simp [same]
        · simp [same, beq_eq_false_iff_ne.mpr same]
  unfold groupByState
  rw [general]
  split
  · rfl
  · next absent =>
      symm
      refine List.countP_eq_zero.mpr fun row member holds => absent ?_
      exact List.mem_dedup.mpr (List.mem_map.mpr ⟨row, member, beq_iff_eq.mp holds⟩)

section Metrics

variable
  {counted aggregated : Table ExternalDispatch}
  {now : Instant}
  {leaseSeconds : Nat}

@[simp] theorem perState_dispatchMetrics (state : ExternalDispatchState) :
    (dispatchMetrics counted aggregated now leaseSeconds).perState state =
      stateCount counted state := by
  cases state <;> exact lookup_groupByState counted _

@[simp] theorem outcomes_dispatchMetrics :
    (dispatchMetrics counted aggregated now leaseSeconds).outcomes =
      ⟨stateCount counted .sent, stateCount counted .failed, stateCount counted .unknown⟩ := by
  have of := fun state => lookup_groupByState counted state
  exact congr (congr (congrArg OutcomeMetrics.mk (of .sent)) (of .failed)) (of .unknown)

@[simp] theorem depth_dispatchMetrics :
    (dispatchMetrics counted aggregated now leaseSeconds).queue.depth =
      stateCount counted .queued :=
  lookup_groupByState counted .queued

theorem workingWhere_sendLeaseExpired (cutoff : Instant) :
    workingWhere (sendLeaseExpired cutoff) = sendLeaseExpired cutoff := by
  funext row
  cases state : row.state <;> simp [workingWhere, nonTerminal, sendLeaseExpired, state]

@[simp] theorem stale_dispatchMetrics :
    (dispatchMetrics counted aggregated now leaseSeconds).sending.staleLeaseExpired =
      aggregated.countWhere (sendLeaseExpired (now - leaseSeconds * second)) := by
  change aggregated.countWhere (workingWhere _) = _
  rw [workingWhere_sendLeaseExpired]

/-- The states partition the table. -/
theorem sum_stateCount (dispatches : Table ExternalDispatch) :
    stateCount dispatches .queued + stateCount dispatches .generating +
      stateCount dispatches .sending + stateCount dispatches .sent +
      stateCount dispatches .failed + stateCount dispatches .unknown = dispatches.size := by
  unfold stateCount Table.countWhere Table.size
  induction dispatches.rows with
  | nil => rfl
  | cons row rows inductionHypothesis =>
      simp only [List.countP_cons, List.length_cons, ← inductionHypothesis]
      cases row.state <;> simp <;> omega

theorem total_dispatchMetrics :
    (dispatchMetrics counted aggregated now leaseSeconds).total = counted.size ∧
      (dispatchMetrics counted aggregated now leaseSeconds).unrecognizedStateRows = 0 := by
  have recognized : ((groupByState counted).filter fun group =>
      !stateOrder.contains group.1) = [] := by
    refine List.filter_eq_nil_iff.mpr fun group _ => ?_
    cases state : group.1 <;> simp [stateOrder]
  have of := fun state => lookup_groupByState counted state
  constructor
  · change ((perState (groupByState counted)).map Prod.snd).sum +
      (((groupByState counted).filter fun group =>
        !stateOrder.contains group.1).map Prod.snd).sum = _
    rw [recognized, ← sum_stateCount counted]
    simp only [perState, stateOrder, List.map_cons, List.map_nil, of, List.sum_cons,
      List.sum_nil]
    omega
  · change (((groupByState counted).filter fun group =>
      !stateOrder.contains group.1).map Prod.snd).sum = 0
    rw [recognized]
    rfl

/-- The reported age of the oldest row that satisfies a condition is not below the age of
any such row, and nothing is reported only if there is no such row. -/
theorem age_le_oldest
    {condition : ExternalDispatch → Bool}
    {key : Nat}
    {row : ExternalDispatch}
    (found : aggregated.get key = some row)
    (holds : workingWhere condition row = true) :
    ∃ oldest reported, oldestWhere aggregated condition = some oldest ∧
      ageSeconds (some oldest) now = some reported ∧
      ((now - row.createdAt) / second).toNat ≤ reported := by
  have member : row.createdAt ∈
      (aggregated.rows.filter (workingWhere condition)).map ExternalDispatch.createdAt :=
    List.mem_map_of_mem (List.mem_filter.mpr ⟨List.mem_of_getElem? found, holds⟩)
  cases least : oldestWhere aggregated condition with
  | none => exact absurd (List.min?_eq_none_iff.mp least ▸ member) List.not_mem_nil
  | some oldest =>
      have le : oldest ≤ row.createdAt := (List.min?_eq_some_iff.mp least).2 _ member
      refine ⟨oldest, ((now - oldest) / second).toNat, rfl, rfl, Int.toNat_le_toNat ?_⟩
      exact Int.ediv_le_ediv (by decide) (Int.sub_le_sub_left le now)

end Metrics

end Status
end MailerAgent
