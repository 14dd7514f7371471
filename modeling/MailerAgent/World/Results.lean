import MailerAgent.Status.Jobs
import MailerAgent.World.DispatchMetrics

/-!
# Results, deliveries and the table

The dispatch workers report results to the worker metrics, the sender is called, and the
table records outcomes that the dispatch metrics count. Threads die between any two of
these, and outcomes may fail to be stored; in every run what the workers report is still no
more than what was called and what is stored or ambiguous.
-/

namespace MailerAgent

open Concurrent Dispatch Intake Mail Native Relational Status Transition

/-- The result that an action leads to. -/
def World.result (world : World) : Action → Option DispatchResult
  | .dispatch worker choice =>
      dispatchResult world.database world.clock (world.dispatchers worker) choice
  | _ => none

/-- The results of all cycles of all workers of a run. -/
def dispatchResults (past : List (World × Action)) : List DispatchResult :=
  past.filterMap fun entry => entry.1.result entry.2

/-! ## One result -/

/-- What a result says stays true. -/
structure Settled
    (database : Database)
    (calls : List SendCall)
    (result : DispatchResult) :
    Prop where
  departed : (dispatchState database result.dispatchId).pending = false
  stored : result.persisted = true →
    dispatchState database result.dispatchId = outcomeState result.outcome
  attempted : result.smtpAttempted = true → ∃ call,
    callsFor calls result.dispatchId = [call] ∧ observedOutcome call.report = result.outcome
  refused : result.smtpAttempted = false → callsFor calls result.dispatchId = [] ∧
    result.persisted = true ∧ result.outcome = .failed

theorem departed_of_move
    {before after : ExternalDispatchState}
    {calls next : List SendCall}
    (moved : HistoryMove before calls after next)
    (departed : before.pending = false) :
    after.pending = false := by
  cases moved with
  | silent move =>
      cases move with
      | stay => exact departed
      | leave pending =>
          rw [departed] at pending
          cases pending
      | giveUp => rfl
  | called => exact departed
  | recorded call => cases observedOutcome call.report <;> rfl

theorem stored_of_move
    {before after : ExternalDispatchState}
    {calls next : List SendCall}
    {outcome : SendOutcome}
    (moved : HistoryMove before calls after next)
    (stored : before = outcomeState outcome) :
    after = outcomeState outcome := by
  subst stored
  generalize recorded : outcomeState outcome = state at moved
  cases moved with
  | silent move =>
      cases move with
      | stay => rfl
      | leave pending =>
          rw [← recorded] at pending
          cases outcome <;> cases pending
      | giveUp => cases outcome <;> cases recorded
  | called => rfl
  | recorded call => cases outcome <;> cases recorded

theorem uncalled_of_move
    {after : ExternalDispatchState}
    {next : List SendCall}
    (moved : HistoryMove .failed [] after next) :
    next = [] := by
  cases moved with
  | silent => rfl
  | called call uncertain => rcases uncertain with sending | unknown <;> contradiction

theorem Settled.of_moves
    {before after : Database}
    {calls next : List SendCall}
    {result : DispatchResult}
    (settled : Settled before calls result)
    (moves : Moves before calls after next) :
    Settled after next result where
  departed := departed_of_move (moves result.dispatchId) settled.departed
  stored persisted := stored_of_move (moves result.dispatchId) (settled.stored persisted)
  attempted attempt := by
    obtain ⟨call, only, outcome⟩ := settled.attempted attempt
    exact ⟨call, (moves result.dispatchId).only_call only, outcome⟩
  refused unattempted := by
    obtain ⟨uncalled, persisted, failed⟩ := settled.refused unattempted
    refine ⟨?_, persisted, failed⟩
    have state := settled.stored persisted
    have moved := moves result.dispatchId
    rw [state, failed, uncalled] at moved
    exact uncalled_of_move moved

/-! ## The threads -/

variable {deployment : Deployment} {before after world : World} {action : Action}

/-- What a step does to the threads that have called the sender: one of them takes it, or
none of them comes to be. -/
theorem settling_of_step (stepped : before.step deployment action = some after) :
    (∃ worker choice move, action = .dispatch worker choice ∧
        dispatchStep deployment before.database before.clock before.position
          (before.runtimes worker.process) (before.dispatchers worker) choice = some move ∧
        after.dispatchers = Function.update before.dispatchers worker move.phase ∧
        after.calls = before.calls ++ move.calls ∧ after.database = move.database) ∨
      before.result action = none ∧
        ∀ worker settled, (after.dispatchers worker).settling = some settled →
          (before.dispatchers worker).settling = some settled := by
  obtain ⟨next, moved, rfl⟩ := Option.map_eq_some_iff.mp stepped
  cases action with
  | dispatch worker choice =>
      obtain ⟨move, taken, rfl⟩ := Option.map_eq_some_iff.mp moved
      exact .inl ⟨worker, choice, move, rfl, taken, rfl, rfl, rfl⟩
  | crash process =>
      obtain rfl := Option.some.inj moved
      refine .inr ⟨rfl, fun worker settled settling => ?_⟩
      change (if worker.process = process then DispatchPhase.idle
        else before.dispatchers worker).settling = some settled at settling
      split at settling
      · cases settling
      · exact settling
  | generation | request =>
      obtain ⟨move, taken, rfl⟩ := Option.map_eq_some_iff.mp moved
      exact .inr ⟨rfl, fun _ _ => id⟩
  | sweepSends | sweepGenerations | requestShutdown | resume | drain | stop | setClock =>
      obtain rfl := Option.some.inj moved
      exact .inr ⟨rfl, fun _ _ => id⟩
  | resolve process outcome =>
      simp only [World.move] at moved
      split at moved
      · cases moved
      · obtain rfl := Option.some.inj moved
        exact .inr ⟨rfl, fun _ _ => id⟩
  | start number operation =>
      simp only [World.move] at moved
      split at moved
      · cases moved
      · obtain rfl := Option.some.inj moved
        exact .inr ⟨rfl, fun _ _ => id⟩
  | native number stimulus =>
      obtain ⟨running, -, rest⟩ := Option.bind_eq_some_iff.mp moved
      obtain ⟨_, -, rfl⟩ := Option.map_eq_some_iff.mp rest
      exact .inr ⟨rfl, fun _ _ => id⟩

/-- The threads that have called the sender, and the results that were returned. -/
structure Credited
    (results : List DispatchResult)
    (world : World) : Prop where
  called : ∀ worker settled, (world.dispatchers worker).settling = some settled →
    ∃ call, callsFor world.calls settled.1 = [call] ∧ call.report = settled.2
  exclusive : ∀ first second left right,
    (world.dispatchers first).settling = some left →
    (world.dispatchers second).settling = some right → left.1 = right.1 → first = second
  settled : ∀ result ∈ results, Settled world.database world.calls result
  closed : ∀ result ∈ results, ∀ worker settled,
    (world.dispatchers worker).settling = some settled → settled.1 ≠ result.dispatchId
  distinct : (results.map DispatchResult.dispatchId).Nodup

/-- A thread that is about to call has no call and no result for its dispatch. -/
theorem Credited.unsettled
    {results : List DispatchResult}
    {worker : Worker}
    {key : Nat}
    (credited : Credited results before)
    (holds : (before.dispatchers worker).Holds before.database before.calls)
    (prepares : (before.dispatchers worker).prepares = some key) :
    callsFor before.calls key = [] ∧ ∀ result ∈ results, result.dispatchId ≠ key := by
  cases phase : before.dispatchers worker with
  | prepared began claim ready =>
      rw [phase] at holds prepares
      obtain ⟨-, uncertain, uncalled⟩ := holds
      obtain rfl := Option.some.inj prepares
      refine ⟨uncalled, fun result member same => ?_⟩
      have settled := credited.settled result member
      cases attempt : result.smtpAttempted with
      | true =>
          obtain ⟨call, only, -⟩ := settled.attempted attempt
          rw [same, uncalled] at only
          cases only
      | false =>
          obtain ⟨-, persisted, failed⟩ := settled.refused attempt
          have state := settled.stored persisted
          rw [same, failed] at state
          rcases uncertain with sending | unknown
          · rw [sending] at state
            cases state
          · rw [unknown] at state
            cases state
  | idle | attempting | claimed | registered | decided | reporting | annotating | closing
  | abandoning =>
      rw [phase] at prepares
      cases prepares

/-- A dispatch with a call has left the queue. -/
theorem departed_of_call
    {state : ExternalDispatchState}
    {call : SendCall}
    (truthful : Truthful state [call]) :
    state.pending = false := by
  cases state <;> first | rfl | cases truthful

section Step

variable {results : List DispatchResult}

/-- The threads after a step. -/
theorem Credited.threads
    (credited : Credited results before)
    (invariant : Invariant deployment before)
    (moves : Moves before.database before.calls after.database after.calls)
    (stepped : before.step deployment action = some after) :
    (∀ worker settled, (after.dispatchers worker).settling = some settled →
      ∃ call, callsFor after.calls settled.1 = [call] ∧ call.report = settled.2) ∧
    (∀ first second left right, (after.dispatchers first).settling = some left →
      (after.dispatchers second).settling = some right → left.1 = right.1 →
      first = second) ∧
    ∀ result ∈ results, ∀ worker settled,
      (after.dispatchers worker).settling = some settled →
      settled.1 ≠ result.dispatchId := by
  have kept : ∀ worker settled, (before.dispatchers worker).settling = some settled →
      ∃ call, callsFor after.calls settled.1 = [call] ∧ call.report = settled.2 := by
    intro worker settled settling
    obtain ⟨call, only, report⟩ := credited.called worker settled settling
    exact ⟨call, (moves settled.1).only_call only, report⟩
  rcases settling_of_step stepped with
    ⟨acting, choice, move, rfl, taken, dispatchers, calls, database⟩ | ⟨-, old⟩
  · -- A thread settles what it settled before, or it has called the sender just now.
    have come : ∀ worker settled, (after.dispatchers worker).settling = some settled →
        (before.dispatchers worker).settling = some settled ∨
          worker = acting ∧ ∃ call,
            (before.dispatchers worker).prepares = some settled.1 ∧
            callsFor after.calls settled.1 = [call] ∧ call.report = settled.2 := by
      intro worker settled settling
      rw [dispatchers] at settling
      by_cases same : worker = acting
      · subst same
        rw [Function.update_self] at settling
        rcases settling_of_dispatchStep taken settling with stays |
          ⟨call, prepares, made, origin, report⟩
        · exact .inl stays
        · refine .inr ⟨rfl, call, prepares, ?_, report⟩
          have own : call.isFor settled.1 = true := by simp [SendCall.isFor, origin]
          rw [calls, callsFor_append,
            (credited.unsettled (invariant.dispatchers worker) prepares).1, made]
          exact List.filter_cons_of_pos own
      · rw [Function.update_of_ne same] at settling
        exact .inl settling
    have fresh : ∀ worker key, (before.dispatchers worker).prepares = some key →
        ∀ other settled, (before.dispatchers other).settling = some settled →
          settled.1 ≠ key := by
      intro worker key prepares other settled settling same
      obtain ⟨call, only, -⟩ := credited.called other settled settling
      rw [same, (credited.unsettled (invariant.dispatchers worker) prepares).1] at only
      cases only
    refine ⟨?_, ?_, ?_⟩
    · intro worker settled settling
      rcases come worker settled settling with stays | ⟨-, call, -, only, report⟩
      · exact kept worker settled stays
      · exact ⟨call, only, report⟩
    · intro first second left right settlingFirst settlingSecond same
      rcases come first left settlingFirst with staysFirst | ⟨rfl, _, prepares, -⟩
      · rcases come second right settlingSecond with staysSecond | ⟨rfl, _, prepares, -⟩
        · exact credited.exclusive first second left right staysFirst staysSecond same
        · exact absurd same (fresh _ _ prepares first left staysFirst)
      · rcases come second right settlingSecond with staysSecond | ⟨rfl, _, -, -⟩
        · exact absurd same.symm (fresh _ _ prepares second right staysSecond)
        · rfl
    · intro result member worker settled settling
      rcases come worker settled settling with stays | ⟨rfl, _, prepares, -⟩
      · exact credited.closed result member worker settled stays
      · exact fun same =>
          (credited.unsettled (invariant.dispatchers _) prepares).2 result member same.symm
  · exact ⟨fun worker settled settling => kept worker settled (old worker settled settling),
      fun first second left right settlingFirst settlingSecond =>
        credited.exclusive first second left right (old _ _ settlingFirst)
          (old _ _ settlingSecond),
      fun result member worker settled settling =>
        credited.closed result member worker settled (old _ _ settling)⟩

theorem Credited.step
    (credited : Credited results before)
    (reachable : (system deployment).Reachable before)
    (stepped : before.step deployment action = some after) :
    Credited (results ++ (before.result action).toList) after := by
  have invariant := Invariant.of_reachable reachable
  have moves := (effect_of_reachable reachable stepped).moves
  obtain ⟨called, exclusive, closed⟩ := credited.threads invariant moves stepped
  have settled : ∀ result ∈ results, Settled after.database after.calls result :=
    fun result member => (credited.settled result member).of_moves moves
  cases returned : before.result action with
  | none =>
      rw [Option.toList_none, List.append_nil]
      exact ⟨called, exclusive, settled, closed, credited.distinct⟩
  | some result =>
      rcases settling_of_step stepped with
        ⟨acting, choice, move, rfl, taken, dispatchers, calls, database⟩ | ⟨absent, -⟩
      swap
      · rw [absent] at returned
        cases returned
      obtain ⟨concluded, idle, silent⟩ :=
        concluded_of_dispatchResult invariant.current.consistent taken returned
      rw [silent, List.append_nil] at calls
      -- The new result is true, its thread has let go, and no other result is about it.
      have new : Settled after.database after.calls result ∧
          (∀ worker settled, (after.dispatchers worker).settling = some settled →
            settled.1 ≠ result.dispatchId) ∧
          ∀ other ∈ results, other.dispatchId ≠ result.dispatchId := by
        cases concluded with
        | refused queued failed unattempted outcome persisted =>
            have uncalled : callsFor before.calls result.dispatchId = [] := by
              have truthful := invariant.truthful result.dispatchId
              rw [queued] at truthful
              exact truthful
            refine ⟨⟨?_, fun _ => ?_, fun attempted => ?_, fun _ => ?_⟩, ?_, ?_⟩
            · rw [database, failed]
              rfl
            · rw [database, failed, outcome]
              rfl
            · rw [unattempted] at attempted
              cases attempted
            · rw [calls]
              exact ⟨uncalled, persisted, outcome⟩
            · intro worker settled settling same
              obtain ⟨call, only, -⟩ := called worker settled settling
              rw [same, calls, uncalled] at only
              cases only
            · intro other member same
              have departed := (credited.settled other member).departed
              rw [same, queued] at departed
              cases departed
        | executed report settling attempted outcome stored =>
            obtain ⟨call, only, reported⟩ := credited.called acting _ settling
            have departed : (dispatchState before.database result.dispatchId).pending =
                false := by
              have truthful := invariant.truthful result.dispatchId
              rw [only] at truthful
              exact departed_of_call truthful
            refine ⟨⟨departed_of_move (moves _) departed, fun persisted => ?_, fun _ => ?_,
              fun refused => ?_⟩, ?_, ?_⟩
            · rw [database]
              exact stored persisted
            · exact ⟨call, by rw [calls, only], by rw [reported, outcome]⟩
            · rw [attempted] at refused
              cases refused
            · intro worker settled settlingAfter same
              rw [dispatchers] at settlingAfter
              by_cases own : worker = acting
              · subst own
                rw [Function.update_self, idle] at settlingAfter
                cases settlingAfter
              · rw [Function.update_of_ne own] at settlingAfter
                exact own (credited.exclusive worker acting _ _ settlingAfter settling same)
            · intro other member same
              exact credited.closed other member acting _ settling same.symm
      obtain ⟨reported, free, first⟩ := new
      refine ⟨called, exclusive, ?_, ?_, ?_⟩
      · intro other member
        rcases List.mem_append.mp member with old | last
        · exact settled other old
        · obtain rfl := List.mem_singleton.mp last
          exact reported
      · intro other member
        rcases List.mem_append.mp member with old | last
        · exact closed other old
        · obtain rfl := List.mem_singleton.mp last
          exact free
      · rw [List.map_append]
        refine credited.distinct.append (List.nodup_singleton _) ?_
        intro key old last
        obtain ⟨other, member, rfl⟩ := List.mem_map.mp old
        exact first other member (List.mem_singleton.mp last)

end Step

theorem credited_of_run
    {past : List (World × Action)}
    (run : (system deployment).Run past world) :
    Credited (dispatchResults past) world := by
  induction run with
  | start initial =>
      obtain ⟨clock, rfl⟩ := initial
      exact ⟨nofun, nofun, nofun, nofun, List.nodup_nil⟩
  | step run stepped inductionHypothesis =>
      have next := inductionHypothesis.step run.reachable stepped
      unfold dispatchResults at next ⊢
      rw [List.filterMap_append]
      exact next

/-! ## The counters -/

theorem exists_row_of_departed
    {database : Database}
    {key : Nat}
    (departed : (dispatchState database key).pending = false) :
    ∃ row, database.dispatches.get key = some row ∧ row.state = dispatchState database key := by
  cases found : database.dispatches.get key with
  | none =>
      rw [show dispatchState database key = .queued by simp [dispatchState, found]] at departed
      cases departed
  | some row => exact ⟨row, rfl, (dispatchState_of_get found).symm⟩

/-- The state of a dispatch whose result has a definite outcome. -/
theorem Settled.state
    {database : Database}
    {calls : List SendCall}
    {result : DispatchResult}
    (settled : Settled database calls result)
    (truthful : Truthful (dispatchState database result.dispatchId)
      (callsFor calls result.dispatchId))
    (definite : result.outcome ≠ .unknown) :
    dispatchState database result.dispatchId ∈
      [outcomeState result.outcome, .unknown, .sending] := by
  cases attempt : result.smtpAttempted with
  | false =>
      rw [settled.stored (settled.refused attempt).2.1]
      exact List.mem_cons_self
  | true =>
      obtain ⟨call, only, outcome⟩ := settled.attempted attempt
      have own : call ∈ callsFor calls result.dispatchId := only ▸ List.mem_singleton_self call
      rw [only] at truthful
      refine state_of_reports truthful (reports_eq_true.mpr
        ⟨⟨_, dispatchKey_eq_some.mpr (List.mem_filter.mp own).2⟩, ?_⟩)
      cases report : call.report with
      | returned reported =>
          rw [report] at outcome
          exact ⟨reported, rfl, outcome⟩
      | raised text =>
          rw [report] at outcome
          exact absurd outcome.symm definite

section Counters

variable {results : List DispatchResult} (credited : Credited results world)

include credited

/-- Results that satisfy a condition concern as many dispatches. -/
theorem Credited.countP_le
    {counts : DispatchResult → Bool}
    {states : List ExternalDispatchState}
    (within : ∀ result ∈ results, counts result = true →
      dispatchState world.database result.dispatchId ∈ states) :
    results.countP counts ≤ world.database.dispatches.countWhere (isIn states) := by
  refine Table.countP_le_countWhere (fun result => some result.dispatchId) ?_ ?_
  · intro result member counted
    obtain ⟨row, found, state⟩ :=
      exists_row_of_departed (credited.settled result member).departed
    refine ⟨_, row, rfl, found, List.contains_iff_mem.mpr ?_⟩
    rw [state]
    exact within result member counted
  · intro key
    have single := List.nodup_iff_count_le_one.mp credited.distinct key
    rw [List.count, List.countP_map] at single
    refine Nat.le_trans (List.countP_mono_left fun result _ holds => ?_) single
    exact (Bool.and_eq_true_iff.mp holds).2

theorem Credited.definite_le
    (truthful : ∀ key, Truthful (dispatchState world.database key) (callsFor world.calls key))
    (outcome : SendOutcome)
    (definite : outcome ≠ .unknown) :
    results.countP (fun result => result.outcome == outcome) ≤
      world.database.dispatches.countWhere (isIn [outcomeState outcome, .unknown, .sending]) := by
  refine credited.countP_le fun result member same => ?_
  have equal := beq_iff_eq.mp same
  rw [← equal] at definite ⊢
  exact (credited.settled result member).state (truthful _) definite

/-- Every attempt has its own call. -/
theorem Credited.attempted_le :
    results.countP (fun result => result.smtpAttempted) ≤
      world.calls.countP SendCall.isDispatch := by
  have keys : ((results.filter fun result => result.smtpAttempted).map
      DispatchResult.dispatchId) ⊆ world.calls.filterMap SendCall.dispatchKey := by
    intro key member
    obtain ⟨result, kept, rfl⟩ := List.mem_map.mp member
    obtain ⟨present, attempted⟩ := List.mem_filter.mp kept
    obtain ⟨call, only, -⟩ := (credited.settled result present).attempted attempted
    have own : call ∈ callsFor world.calls result.dispatchId :=
      only ▸ List.mem_singleton_self call
    obtain ⟨made, concerns⟩ := List.mem_filter.mp own
    exact List.mem_filterMap.mpr ⟨call, made, dispatchKey_eq_some.mpr concerns⟩
  have distinct : ((results.filter fun result => result.smtpAttempted).map
      DispatchResult.dispatchId).Nodup :=
    credited.distinct.sublist (List.filter_sublist.map _)
  have bound := (distinct.subperm keys).length_le
  rw [List.length_map, ← List.countP_eq_length_filter, List.length_filterMap_eq_countP] at bound
  exact bound

end Counters

/-- In every run, the results that the cycles of the dispatch workers return to the worker
metrics are true for good and concern distinct dispatches. Summed over all cycles, their
counters never exceed the calls of the sender, nor what the dispatch metrics report together
with the ambiguous dispatches, or with the outcomes that could not be stored. -/
theorem dispatch_results_accounted
    (deployment : Deployment)
    (past : List (World × Action))
    (world : World)
    (run : (system deployment).Run past world)
    (aggregated : Table ExternalDispatch)
    (now : Instant)
    (leaseSeconds : Nat) :
    let results := dispatchResults past
    let count := fun key => ((summarizeDispatchResults results).lookup key).getD 0
    let outcomes :=
      (dispatchMetrics world.database.dispatches aggregated now leaseSeconds).outcomes
    let ambiguous := outcomes.unknownNeedsOperatorReconciliation +
      stateCount world.database.dispatches .sending
    (∀ result ∈ results, Settled world.database world.calls result) ∧
      (results.map DispatchResult.dispatchId).Nodup ∧
      count "smtp_attempted" ≤ world.calls.countP SendCall.isDispatch ∧
      count "smtp_accepted" ≤ outcomes.smtpAccepted + ambiguous ∧
      count "failed" ≤ outcomes.failedNotSent + ambiguous ∧
      count "processed" ≤ count "outcome_not_persisted" + outcomes.smtpAccepted +
        outcomes.failedNotSent + outcomes.unknownNeedsOperatorReconciliation := by
  intro results count outcomes ambiguous
  have credited := credited_of_run run
  have truthful := (Invariant.of_reachable run.reachable).truthful
  have empty : world.database.dispatches.countWhere (isIn []) = 0 :=
    List.countP_eq_zero.mpr fun _ _ => nofun
  refine ⟨credited.settled, credited.distinct, credited.attempted_le, ?_, ?_, ?_⟩
  · have bound : count "smtp_accepted" ≤ _ := credited.definite_le truthful .sent (by decide)
    simpa [outcomeState, countWhere_isIn_cons, empty, ambiguous, outcomes] using bound
  · have bound : count "failed" ≤ _ := credited.definite_le truthful .failed (by decide)
    simpa [outcomeState, countWhere_isIn_cons, empty, ambiguous, outcomes] using bound
  · have stored : results.countP (fun result => result.persisted) ≤
        world.database.dispatches.countWhere (isIn [.sent, .failed, .unknown]) := by
      refine credited.countP_le fun result member holds => ?_
      rw [(credited.settled result member).stored holds]
      cases result.outcome <;> simp [outcomeState]
    have parts : results.length = results.countP (fun result => result.persisted) +
        results.countP (fun result => !result.persisted) := by
      simpa using @List.length_eq_countP_add_countP _ (fun result => result.persisted) results
    rw [countWhere_isIn_cons (by decide), countWhere_isIn_cons (by decide),
      countWhere_isIn_cons (by decide), empty] at stored
    change results.length ≤ results.countP (fun result => !result.persisted) + _ + _ + _
    rw [show outcomes = _ from outcomes_dispatchMetrics]
    dsimp only
    omega

/-- The result of a delivery whose outcome could be stored, but not reported as stored. -/
theorem dispatch_results_accounted_of_ambiguous_delivery :
    ∃ past world, (system Sample.deployment).Run past world ∧
      (dispatchResults past).map DispatchResult.persisted = [false] ∧
      ∀ result ∈ dispatchResults past, Settled world.database world.calls result := by
  obtain ⟨past, world, run, holds⟩ := System.exists_run_of_record
    (show (system Sample.deployment).initial {} from ⟨0, rfl⟩)
    (Sample.ambiguousDelivery ++
      [.dispatch Sample.worker (.commit .committed),
        .dispatch Sample.worker (.commit .committed)])
    (fun ended =>
      (dispatchResults ended.1).map DispatchResult.persisted == [false]) (by decide +kernel)
  exact ⟨past, world, run, beq_iff_eq.mp holds,
    (dispatch_results_accounted Sample.deployment past world run world.database.dispatches
      0 900).1⟩

end MailerAgent
