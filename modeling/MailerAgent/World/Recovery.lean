import MailerAgent.Dispatch.Lifecycle
import MailerAgent.Dispatch.Recovery
import MailerAgent.World.DispatchMetrics
import MailerAgent.World.Generation

/-!
# Recovery of expired sends

A send whose lease has expired stays expired until it is resolved, whatever else the program
does, and the sweeps resolve the oldest ones first. Sweeps that may take as many rows as
there were unfinished dispatches therefore resolve all sends that had expired before.
-/

namespace MailerAgent

open Concurrent Dispatch Intake Mail Native Relational Status

variable {deployment : Deployment} {before after world : World} {action : Action}

/-- Every step of the program writes to the dispatches in the known ways. -/
theorem writes_of_step (stepped : before.step deployment action = some after) :
    Writes before.database after.database := by
  obtain ⟨next, moved, rfl⟩ := Option.map_eq_some_iff.mp stepped
  cases action with
  | dispatch worker choice =>
      obtain ⟨move, taken, rfl⟩ := Option.map_eq_some_iff.mp moved
      exact writes_dispatchStep taken
  | generation worker choice =>
      obtain ⟨move, taken, rfl⟩ := Option.map_eq_some_iff.mp moved
      exact writes_generationStep taken
  | request number choice =>
      obtain ⟨move, taken, rfl⟩ := Option.map_eq_some_iff.mp moved
      exact writes_requestStep taken
  | sweepSends locked limit outcome =>
      obtain rfl := Option.some.inj moved
      exact .store outcome (writes_recoverExpiredSends _)
  | sweepGenerations locked limit outcome =>
      obtain rfl := Option.some.inj moved
      exact .store outcome (writes_recoverExpiredGenerationRows _)
  | requestShutdown | resume | drain | crash | stop | setClock =>
      obtain rfl := Option.some.inj moved
      exact .refl _
  | resolve process outcome =>
      simp only [World.move] at moved
      split at moved
      · cases moved
      · obtain rfl := Option.some.inj moved
        exact .elim outcome fun _ => writes_finish
  | start number operation =>
      simp only [World.move] at moved
      split at moved
      · cases moved
      · obtain rfl := Option.some.inj moved
        exact .refl _
  | native number stimulus =>
      obtain ⟨running, -, rest⟩ := Option.bind_eq_some_iff.mp moved
      obtain ⟨⟨database, thread, asked⟩, taken, rfl⟩ := Option.map_eq_some_iff.mp rest
      rcases Thread.step_store taken with same | committed
      · exact .of_same (congrArg Database.dispatches same)
      · exact .of_same (applyAll_dispatches committed)

/-! ## Progress -/

/-- The row of a dispatch that has no final state. -/
def unfinished (row : ExternalDispatch) : Bool :=
  isIn nonTerminal row

theorem unfinished_eq (row : ExternalDispatch) :
    unfinished row = !row.state.terminal := by
  cases state : row.state <;> simp [unfinished, isIn, nonTerminal, state,
    ExternalDispatchState.terminal]

/-- The dispatches up to a key that have no final state. -/
def unfinishedUpTo
    (dispatches : Table ExternalDispatch)
    (key : Nat) : List Nat :=
  (dispatches.keysWhere unfinished).filter fun other => decide (other ≤ key)

theorem mem_unfinishedUpTo
    {dispatches : Table ExternalDispatch}
    {key other : Nat} :
    other ∈ unfinishedUpTo dispatches key ↔ other ≤ key ∧
      ∃ row, dispatches.get other = some row ∧ row.state.terminal = false := by
  unfold unfinishedUpTo
  rw [List.mem_filter, Table.mem_keysWhere, decide_eq_true_iff, and_comm]
  simp only [unfinished_eq, Bool.not_eq_true']

theorem nodup_unfinishedUpTo
    (dispatches : Table ExternalDispatch)
    (key : Nat) :
    (unfinishedUpTo dispatches key).Nodup :=
  (dispatches.nodup_keysWhere _).filter _

theorem length_unfinishedUpTo_le
    (dispatches : Table ExternalDispatch)
    (key : Nat) :
    (unfinishedUpTo dispatches key).length ≤ stateCount dispatches .queued +
      stateCount dispatches .generating + stateCount dispatches .sending := by
  have empty : dispatches.countWhere (isIn []) = 0 :=
    List.countP_eq_zero.mpr fun _ _ => nofun
  calc (unfinishedUpTo dispatches key).length
      ≤ (dispatches.keysWhere unfinished).length := List.length_filter_le ..
    _ = dispatches.countWhere (isIn [.queued, .generating, .sending]) :=
        dispatches.length_keysWhere _
    _ = stateCount dispatches .queued + stateCount dispatches .generating +
          stateCount dispatches .sending := by
        rw [countWhere_isIn_cons (by decide), countWhere_isIn_cons (by decide),
          countWhere_isIn_cons (by decide), empty]
        omega

/-- A final state stays, and no dispatch is accepted under an old key. -/
theorem unfinishedUpTo_subset
    {key : Nat}
    (extended : before.database.Extends after.database)
    (present : key < before.database.dispatches.size) :
    unfinishedUpTo after.database.dispatches key ⊆
      unfinishedUpTo before.database.dispatches key := by
  intro other member
  obtain ⟨upTo, row, found, waits⟩ := mem_unfinishedUpTo.mp member
  obtain ⟨old, foundOld⟩ := Table.exists_get_of_lt_size (Nat.lt_of_le_of_lt upTo present)
  obtain ⟨same, foundSame, keeps⟩ := extended.dispatches other old foundOld
  obtain rfl : same = row := Option.some.inj (foundSame.symm.trans found)
  refine mem_unfinishedUpTo.mpr ⟨upTo, old, foundOld, ?_⟩
  by_contra final
  have resolved : old.state.terminal = true := by simpa using final
  rw [keeps.terminal resolved, resolved] at waits
  cases waits

/-- How many rows a step may resolve: a sweep that meets no lock, up to its limit. -/
def Action.sweepCapacity : Action → Nat
  | .sweepSends locked limit outcome => if locked.isEmpty && outcome.applied then limit else 0
  | _ => 0

theorem eq_sweepSends_of_capacity (sweeps : action.sweepCapacity ≠ 0) :
    ∃ limit outcome, action = .sweepSends [] limit outcome ∧ outcome.applied = true ∧
      action.sweepCapacity = limit := by
  cases action with
  | sweepSends locked limit outcome =>
      by_cases free : (locked.isEmpty && outcome.applied) = true
      · obtain ⟨unlocked, applied⟩ := Bool.and_eq_true_iff.mp free
        obtain rfl := List.isEmpty_iff.mp unlocked
        exact ⟨limit, outcome, rfl, applied, if_pos free⟩
      · exact absurd (if_neg free) sweeps
  | _ => exact absurd rfl sweeps

/-- A sweep resolves an expired send, or as many older ones as it may. -/
theorem sweep_progress
    {services : Services}
    {lease : Nat}
    {database : Database}
    {now : Instant}
    {key : Nat}
    (limit : Nat)
    (expired : ExpiredAt (now - lease * second) database.dispatches key) :
    let swept := recoverExpiredExternalDispatches services lease database now [] limit
    (∃ row, swept.2.dispatches.get key = some row ∧ row.state.terminal = true) ∨
      (unfinishedUpTo swept.2.dispatches key).length + limit ≤
        (unfinishedUpTo database.dispatches key).length := by
  intro swept
  have rows : ∀ other, swept.2.dispatches.get other = _ :=
    (@recoverExpiredExternalDispatches_eq services lease now database [] limit).2
  have chosen : sweepCandidates (now - lease * second) database.dispatches [] limit =
      (database.dispatches.keysWhere (sendLeaseExpired (now - lease * second))).take limit := by
    unfold sweepCandidates
    congr 1
    exact List.filter_eq_self.mpr fun _ _ => rfl
  rw [chosen] at rows
  by_cases first : key ∈ (database.dispatches.keysWhere
      (sendLeaseExpired (now - lease * second))).take limit
  · obtain ⟨row, found, -⟩ := expired
    left
    refine ⟨resolvedRow services lease now row, ?_, rfl⟩
    rw [rows key, if_pos first, found]
    rfl
  · right
    obtain ⟨size, older⟩ :=
      Table.before_of_not_mem_take ((database.dispatches.mem_keysWhere _ key).mpr expired) first
    -- What is left and what was resolved are both among what was unfinished.
    have distinct : (unfinishedUpTo swept.2.dispatches key ++ (database.dispatches.keysWhere
        (sendLeaseExpired (now - lease * second))).take limit).Nodup := by
      refine (nodup_unfinishedUpTo _ key).append
        ((database.dispatches.nodup_keysWhere _).sublist (List.take_sublist limit _)) ?_
      intro other remained resolved
      obtain ⟨-, row, found, waits⟩ := mem_unfinishedUpTo.mp remained
      rw [rows other, if_pos resolved] at found
      obtain ⟨old, -, rfl⟩ := Option.map_eq_some_iff.mp found
      cases waits
    have inside : unfinishedUpTo swept.2.dispatches key ++ (database.dispatches.keysWhere
        (sendLeaseExpired (now - lease * second))).take limit ⊆
          unfinishedUpTo database.dispatches key := by
      intro other member
      rcases List.mem_append.mp member with remains | resolved
      · obtain ⟨upTo, row, found, waits⟩ := mem_unfinishedUpTo.mp remains
        rw [rows other] at found
        split at found
        · obtain ⟨old, -, rfl⟩ := Option.map_eq_some_iff.mp found
          cases waits
        · exact mem_unfinishedUpTo.mpr ⟨upTo, row, found, waits⟩
      · obtain ⟨row, found, holds⟩ :=
          (database.dispatches.mem_keysWhere _ other).mp (List.mem_of_mem_take resolved)
        refine mem_unfinishedUpTo.mpr ⟨Nat.le_of_lt (older other resolved), row, found, ?_⟩
        rw [sendLeaseExpired_state holds]
        rfl
    have bound := (distinct.subperm inside).length_le
    rw [List.length_append, size] at bound
    exact bound

/-! ## Runs -/

/-- Where a dispatch stands whose send has expired: resolved, or still expired with fewer
unfinished ones up to it. -/
def Recovering
    (lease : Nat)
    (key bound : Nat)
    (world : World) : Prop :=
  (∃ row, world.database.dispatches.get key = some row ∧ row.state.terminal = true) ∨
    ExpiredAt (world.clock - lease * second) world.database.dispatches key ∧
      (unfinishedUpTo world.database.dispatches key).length ≤ bound

/-- An expired send stays expired while the clock goes on, until it is resolved. -/
theorem expired_of_step
    {lease key : Nat}
    (stepped : before.step deployment action = some after)
    (forward : clockForward before action = true)
    (expired : ExpiredAt (before.clock - lease * second) before.database.dispatches key) :
    (∃ row, after.database.dispatches.get key = some row ∧ row.state.terminal = true) ∨
      ExpiredAt (after.clock - lease * second) after.database.dispatches key := by
  obtain ⟨row, found, holds⟩ := expired
  obtain ⟨next, foundNext, ongoing⟩ :=
    (writes_of_step stepped).ongoing found (sendLeaseExpired_state holds)
  rcases ongoing with resolved | ⟨sending, claimedAt⟩
  · exact .inl ⟨next, foundNext, resolved⟩
  · refine .inr ⟨next, foundNext, ?_⟩
    have advanced := clock_of_step stepped forward
    simp only [sendLeaseExpired, Bool.and_eq_true, beq_iff_eq, Option.all_eq_true,
      decide_eq_true_eq] at holds ⊢
    refine ⟨sending, fun taken held => ?_⟩
    rw [claimedAt] at held
    exact Int.lt_of_lt_of_le (holds.2 taken held) (Int.sub_le_sub_right advanced _)

theorem Recovering.step
    {key bound : Nat}
    (reachable : (system deployment).Reachable before)
    (stepped : before.step deployment action = some after)
    (forward : clockForward before action = true)
    (recovering : Recovering deployment.settings.externalDispatchLeaseSeconds key
      (bound + action.sweepCapacity) before) :
    Recovering deployment.settings.externalDispatchLeaseSeconds key bound after := by
  have extended := (effect_of_reachable reachable stepped).later.extended
  rcases recovering with ⟨row, found, resolved⟩ | ⟨expired, few⟩
  · obtain ⟨next, foundNext, keeps⟩ := extended.dispatches key row found
    exact .inl ⟨next, foundNext, by rw [keeps.terminal resolved]; exact resolved⟩
  rcases expired_of_step stepped forward expired with resolved | stays
  · exact .inl resolved
  by_cases sweeps : action.sweepCapacity = 0
  · obtain ⟨row, found, -⟩ := expired
    have fewer := ((nodup_unfinishedUpTo _ key).subperm
      (unfinishedUpTo_subset extended (Table.lt_size_of_get found))).length_le
    exact .inr ⟨stays, by omega⟩
  · obtain ⟨limit, outcome, rfl, applied, capacity⟩ := eq_sweepSends_of_capacity sweeps
    obtain ⟨next, moved, rfl⟩ := Option.map_eq_some_iff.mp stepped
    obtain rfl := Option.some.inj moved
    have stored : ∀ result : Database, outcome.store before.database result = result :=
      fun _ => if_pos applied
    unfold Recovering
    dsimp only
    rw [stored] at stays ⊢
    rcases @sweep_progress deployment.services _ _ _ _ limit expired with resolved | progress
    · exact .inl resolved
    · exact .inr ⟨stays, by omega⟩

/-- Over a run the sweeps use up the unfinished dispatches. -/
theorem Recovering.run
    {key bound : Nat}
    {actions : List Action}
    (reachable : (system deployment).Reachable before)
    (ran : (steadySystem deployment).run before actions = some after)
    (recovering : Recovering deployment.settings.externalDispatchLeaseSeconds key
      (bound + (actions.map Action.sweepCapacity).sum) before) :
    Recovering deployment.settings.externalDispatchLeaseSeconds key bound after := by
  induction actions generalizing before with
  | nil =>
      obtain rfl := Option.some.inj ran
      exact recovering
  | cons action actions inductionHypothesis =>
      obtain ⟨middle, taken, rest⟩ := Option.bind_eq_some_iff.mp ran
      obtain ⟨forward, stepped⟩ := Transition.System.step_of_restrict taken
      refine inductionHypothesis (reachable.step stepped) rest
        (Recovering.step reachable stepped forward ?_)
      rw [List.map_cons, List.sum_cons, Nat.add_comm action.sweepCapacity,
        ← Nat.add_assoc] at recovering
      exact recovering

namespace Sample

/-- The process dies while it sends the accepted dispatch, and the lease runs out. -/
def lostSend : List Action :=
  acceptance ++
    [.dispatch worker .begin, .dispatch worker (.claim "w" []), .dispatch worker .register,
      .dispatch worker (.evaluate fun domain => "<1@" ++ domain ++ ">"),
      .dispatch worker (.commit .committed), .crash 0, .setClock (901 * second)]

end Sample

/-- In every run under a clock that does not go back, whatever else takes place: once the
sweeps that met no lock may have taken as many rows as the dispatch metrics reported
unfinished at the start, every dispatch whose lease had expired at the start has a final
state. -/
theorem stale_sends_resolved
    (deployment : Deployment)
    (before after : World)
    (reachable : (system deployment).Reachable before)
    (actions : List Action)
    (ran : (steadySystem deployment).run before actions = some after)
    (metrics : DispatchMetrics)
    (read : metrics = dispatchMetrics before.database.dispatches before.database.dispatches
      before.clock deployment.settings.externalDispatchLeaseSeconds)
    (swept : metrics.queue.depth + metrics.perState .generating + metrics.perState .sending ≤
      (actions.map Action.sweepCapacity).sum)
    (key : Nat)
    (row : ExternalDispatch)
    (found : before.database.dispatches.get key = some row)
    (stale : sendLeaseExpired
      (before.clock - deployment.settings.externalDispatchLeaseSeconds * second) row = true) :
    ∃ next, after.database.dispatches.get key = some next ∧ next.state.terminal = true := by
  subst read
  rw [depth_dispatchMetrics, perState_dispatchMetrics, perState_dispatchMetrics] at swept
  have few := length_unfinishedUpTo_le before.database.dispatches key
  rcases @Recovering.run deployment before after key 0 actions reachable ran
      (.inr ⟨⟨row, found, stale⟩, by omega⟩) with resolved | ⟨expired, none⟩
  · exact resolved
  · obtain ⟨last, here, holds⟩ := expired
    have member : key ∈ unfinishedUpTo after.database.dispatches key := by
      refine mem_unfinishedUpTo.mpr ⟨Nat.le_refl key, last, here, ?_⟩
      rw [sendLeaseExpired_state holds]
      rfl
    rw [List.length_eq_zero_iff.mp (Nat.le_zero.mp none)] at member
    cases member

/-- One sweep resolves the send of a process that died. -/
theorem stale_send_resolved_after_crash :
    ∃ before after row next,
      (steadySystem Sample.deployment).run before [.sweepSends [] 1 .committed] = some after ∧
      before.database.dispatches.get 0 = some row ∧ row.state = .sending ∧
      after.database.dispatches.get 0 = some next ∧ next.state.terminal = true := by
  obtain ⟨before, reachable, holds⟩ := reachable_of_any Sample.deployment Sample.lostSend
    (fun world =>
      (world.database.dispatches.get 0).any (sendLeaseExpired
        (world.clock - Sample.deployment.settings.externalDispatchLeaseSeconds * second)) &&
      (decide (world.database.dispatches.size ≤ 1) &&
        ((steadySystem Sample.deployment).run world
          [.sweepSends [] 1 .committed]).isSome))
    (by decide +kernel)
  obtain ⟨expired, rest⟩ := Bool.and_eq_true_iff.mp holds
  obtain ⟨few, ran⟩ := Bool.and_eq_true_iff.mp rest
  obtain ⟨row, found, stale⟩ := (Table.holdsAt_iff _ 0 _).mp expired
  obtain ⟨after, ran⟩ := Option.isSome_iff_exists.mp ran
  obtain ⟨next, foundNext, resolved⟩ := stale_sends_resolved Sample.deployment before after
    reachable _ ran _ rfl
    (by
      rw [depth_dispatchMetrics, perState_dispatchMetrics, perState_dispatchMetrics]
      have partition := sum_stateCount before.database.dispatches
      have size := of_decide_eq_true few
      change _ ≤ 1
      omega)
    0 row found stale
  exact ⟨before, after, row, next, ran, found, sendLeaseExpired_state stale, foundNext,
    resolved⟩

end MailerAgent
