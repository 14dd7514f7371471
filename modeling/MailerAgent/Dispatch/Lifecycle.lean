import Mathlib.Logic.Relation
import MailerAgent.Dispatch.Steps
import MailerAgent.Dispatch.Writes
import MailerAgent.Intake.Idempotency

/-!
# The life of a dispatch

Every transaction that touches `external_dispatches` is a sequence of writes of a few kinds,
each under a guard on the state of the row that it rewrites. What holds of a dispatch over
time is read off the kinds.
-/

namespace MailerAgent
namespace Dispatch

open Concurrent Intake Relational Mail

/-- One guarded write to a row. -/
inductive RowWrite (row : ExternalDispatch) : ExternalDispatch → Prop where
  | claimSend (claim : ClaimedDispatch) (awaiting : awaitingSend row = true) :
      RowWrite row (sendClaimedRow claim row)
  | finish
      (now : Instant)
      (outcome : SendOutcome)
      (error : Option String)
      (sending : row.state = .sending) :
      RowWrite row (finishedRow now outcome error row)
  | annotate (now : Instant) (note : Option String) (unknown : row.state = .unknown) :
      RowWrite row { row with errorMessage := note, updatedAt := now }
  | claimGeneration (claim : ClaimedDispatch) (awaiting : awaitingGeneration row = true) :
      RowWrite row (generationClaimedRow claim row)
  | failGeneration (now : Instant) (error : String) (generating : row.state = .generating) :
      RowWrite row (generationFailedRow now error row)
  /-- `complete_generation` and, without a message, the return to the queue. -/
  | requeue
      (now : Instant)
      (messageId : Option Nat)
      (generating : row.state = .generating)
      (unattached : row.messageId = none) :
      RowWrite row
        { row with
          state := .queued
          messageId := messageId
          claimedBy := none
          claimedAt := none
          updatedAt := now }

/-- One write to the table. -/
inductive TableWrite (dispatches : Table ExternalDispatch) :
    Table ExternalDispatch → Prop where
  | accept
      {row : ExternalDispatch}
      (queued : row.state = .queued)
      (unclaimed : row.claimedAt = none) :
      TableWrite dispatches (dispatches.insert row)
  | write
      {key : Nat}
      {row : ExternalDispatch}
      {change : ExternalDispatch → ExternalDispatch}
      (found : dispatches.get key = some row)
      (written : RowWrite row (change row)) :
      TableWrite dispatches (dispatches.modify key change)

/-- The writes of a transaction. -/
def Writes (before after : Database) : Prop :=
  Relation.ReflTransGen TableWrite before.dispatches after.dispatches

namespace Writes

variable {before middle after database updated : Database}

/-- A step that leaves the dispatches alone writes them in no way. -/
theorem of_same (same : after.dispatches = before.dispatches) : Writes before after := by
  unfold Writes
  rw [same]

theorem refl (database : Database) : Writes database database :=
  .of_same rfl

/-- Writes follow one another. -/
theorem trans
    (first : Writes before middle)
    (second : Writes middle after) :
    Writes before after :=
  Relation.ReflTransGen.trans first second

/-- A commit writes what was to be written, or nothing. -/
theorem store
    (outcome : CommitOutcome)
    (writes : Writes before after) :
    Writes before (outcome.store before after) :=
  outcome.store_cases (.refl before) writes

/-- A guarded write that finds no row is no write. -/
theorem elim
    {result : Option Database}
    (outcome : CommitOutcome)
    (writes : ∀ updated, result = some updated → Writes database updated) :
    Writes database (result.elim database (outcome.store database)) := by
  cases result with
  | none => exact .refl database
  | some updated => exact .store outcome (writes updated rfl)

/-- A guarded update, by what its guard says of the row. -/
theorem updateDispatchWhere
    {key : Nat}
    {condition : ExternalDispatch → Bool}
    {change : ExternalDispatch → ExternalDispatch}
    (applied : database.updateDispatchWhere key condition change = some updated)
    (write : ∀ row, condition row = true → RowWrite row (change row)) :
    Writes database updated := by
  obtain ⟨row, found, holds, rfl⟩ := updateDispatchWhere_eq_some applied
  exact .single (.write found (write row holds))

/-- The message of a dispatch lies in another table. -/
theorem modifyLinkedMessage
    (key : Nat)
    (change : Message → Message) :
    Writes database (modifyLinkedMessage database key change) := by
  unfold Dispatch.modifyLinkedMessage
  split <;> exact .of_same rfl

end Writes

/-! ## Claims of sends -/

/-- A row after its send was claimed: still under the same claim, or resolved. -/
def Ongoing (claimed row : ExternalDispatch) : Prop :=
  row.state.terminal = true ∨ row.state = .sending ∧ row.claimedAt = claimed.claimedAt

/-- No write returns a claimed send to the queue. -/
theorem RowWrite.ongoing
    {claimed row written : ExternalDispatch}
    (ongoing : Ongoing claimed row)
    (write : RowWrite row written) :
    Ongoing claimed written := by
  cases write with
  | finish now outcome error _ =>
      left
      cases outcome <;> rfl
  | annotate now note unknown =>
      left
      change row.state.terminal = true
      rw [unknown]
      rfl
  | claimSend claim awaiting =>
      obtain ⟨queued, -⟩ := (awaitingSend_iff row).mp awaiting
      rcases ongoing with resolved | ⟨sending, -⟩
      · rw [queued] at resolved
        cases resolved
      · rw [queued] at sending
        cases sending
  | claimGeneration claim awaiting =>
      obtain ⟨queued, -⟩ := (awaitingGeneration_iff row).mp awaiting
      rcases ongoing with resolved | ⟨sending, -⟩
      · rw [queued] at resolved
        cases resolved
      · rw [queued] at sending
        cases sending
  | failGeneration now error generating | requeue now messageId generating unattached =>
      rcases ongoing with resolved | ⟨sending, -⟩
      · rw [generating] at resolved
        cases resolved
      · rw [generating] at sending
        cases sending

/-- Until it is resolved, a claimed send stays under its claim. -/
theorem Writes.ongoing
    {before after : Database}
    {key : Nat}
    {claimed : ExternalDispatch}
    (writes : Writes before after)
    (found : before.dispatches.get key = some claimed)
    (sending : claimed.state = .sending) :
    ∃ row, after.dispatches.get key = some row ∧ Ongoing claimed row := by
  unfold Writes at writes
  generalize after.dispatches = dispatches at writes ⊢
  induction writes with
  | refl => exact ⟨claimed, found, .inr ⟨sending, rfl⟩⟩
  | tail _ write inductionHypothesis =>
      obtain ⟨row, here, ongoing⟩ := inductionHypothesis
      cases write with
      | accept => exact ⟨row, Table.get_insert_of_get here _, ongoing⟩
      | @write other old change foundOld written =>
          rw [Table.get_modify]
          split
          · next same =>
              rw [← same, here] at foundOld
              obtain rfl := Option.some.inj foundOld
              exact ⟨change row, by rw [here]; rfl, written.ongoing ongoing⟩
          · exact ⟨row, here, ongoing⟩

/-! ## The transactions -/

section Transactions

variable {deployment : Deployment} {database updated : Database} {claim : ClaimedDispatch}

theorem sendFence_state
    {row : ExternalDispatch}
    (fence : sendFence claim row = true) :
    row.state = .sending := by
  simp only [sendFence, Bool.and_eq_true, beq_iff_eq] at fence
  exact fence.1.1.2

/-- A finished send leaves `sending` for good. -/
theorem writes_finish
    {now : Instant}
    {outcome : SendOutcome}
    {error : Option String}
    (finished : finishExternalDispatch database now claim outcome error = some updated) :
    Writes database updated := by
  obtain ⟨moved, guarded, rfl⟩ := Option.map_eq_some_iff.mp finished
  exact (Writes.updateDispatchWhere guarded fun _ fence =>
    .finish _ outcome error (sendFence_state fence)).trans (.modifyLinkedMessage _ _)

/-- Only a queued row with a message is claimed for a send. -/
theorem writes_sendClaim (taken : guardedSendClaim database claim = some updated) :
    Writes database updated :=
  .updateDispatchWhere taken fun _ awaiting => .claimSend claim awaiting

/-- Transaction B claims the row, or claims and fails it. -/
theorem writes_commitDecision
    {now : Instant}
    {began : Nat}
    {outcome : CommitOutcome}
    {decision : Except String ReadySend} :
    Writes database (commitDecision database now began claim outcome decision).1 := by
  cases decision with
  | error reason =>
      refine .elim outcome fun updated refused => ?_
      obtain ⟨claimed, taken, finished⟩ := Option.bind_eq_some_iff.mp refused
      exact (writes_sendClaim taken).trans (writes_finish finished)
  | ok ready =>
      unfold commitDecision
      dsimp only
      split
      · exact .refl database
      · next prepared =>
          obtain ⟨claimed, taken, stamped⟩ := Option.bind_eq_some_iff.mp prepared
          obtain ⟨rfl, -⟩ := Database.updateMessage_eq_some stamped
          exact .store outcome ((writes_sendClaim taken).trans (.of_same rfl))

/-- Every step of a dispatch worker. -/
theorem writes_dispatchStep
    {clock : Instant}
    {position : Nat}
    {runtime : DispatchRuntime}
    {phase : DispatchPhase}
    {choice : DispatchChoice}
    {move : DispatchMove}
    (stepped : dispatchStep deployment database clock position runtime phase choice =
      some move) :
    Writes database move.database := by
  unfold dispatchStep at stepped
  split at stepped
  · obtain ⟨admitted, -, rfl⟩ := Option.map_eq_some_iff.mp stepped
    exact .refl database
  · split at stepped <;> cases stepped <;> exact .refl database
  · cases stepped
    exact .refl database
  · obtain ⟨registered, -, rfl⟩ := Option.map_eq_some_iff.mp stepped
    exact .refl database
  · obtain ⟨row, -, rfl⟩ := Option.map_eq_some_iff.mp stepped
    exact .refl database
  · cases stepped
    exact .refl database
  · cases stepped
    exact writes_commitDecision
  · cases stepped
    exact .refl database
  · cases stepped
    exact .refl database
  · cases stepped
    unfold recordOutcome
    split
    · exact .refl database
    · next finished => exact .store _ (writes_finish finished)
  · cases stepped
    exact .refl database
  · cases stepped
    refine .elim _ fun updated annotated => .updateDispatchWhere annotated fun row holds => ?_
    simp only [Bool.and_eq_true, beq_iff_eq] at holds
    exact .annotate _ _ holds.2
  · cases stepped
    exact .refl database
  · cases stepped
    exact .refl database
  · obtain ⟨released, -, rfl⟩ := Option.map_eq_some_iff.mp stepped
    exact .refl database
  · cases stepped

theorem generationFence_generating
    {row : ExternalDispatch}
    (fence : generationFence claim row = true) :
    row.state = .generating ∧ row.messageId = none := by
  obtain ⟨-, generating, -, -, unattached⟩ := (generationFence_iff claim row).mp fence
  exact ⟨generating, unattached⟩

/-- Transaction G1 claims the row for a generation, or fails it. -/
theorem writes_transactionG1
    {result : Except String PreparedGeneration}
    (taken : transactionG1 database claim = some (updated, result)) :
    Writes database updated := by
  obtain ⟨claimed, guarded, rest⟩ := Option.bind_eq_some_iff.mp taken
  obtain ⟨row, -, rest⟩ := Option.bind_eq_some_iff.mp rest
  have claiming : Writes database claimed :=
    .updateDispatchWhere guarded fun _ awaiting => .claimGeneration claim awaiting
  split at rest
  · cases rest
    exact claiming
  · obtain ⟨failed, refused, equal⟩ := Option.map_eq_some_iff.mp rest
    cases equal
    exact claiming.trans (.updateDispatchWhere refused fun _ fence =>
      .failGeneration _ _ (generationFence_generating fence).1)

/-- Transaction G2 attaches a message and requeues the row, or fails it. -/
theorem writes_transactionG2
    {prepared : PreparedGeneration}
    {result : Except String Draft}
    {createdAt : Instant}
    {replyReference : String}
    (written : transactionG2 database prepared result createdAt replyReference =
      .written updated) :
    Writes database updated := by
  unfold transactionG2 at written
  split at written
  · split at written
    · cases written
    · next failed =>
        cases written
        exact .updateDispatchWhere failed fun _ fence =>
          .failGeneration _ _ (generationFence_generating fence).1
  · split at written
    · cases written
    · next inserted insertion =>
        split at written
        · cases written
        · next completed =>
            cases written
            obtain ⟨-, rfl⟩ := Database.insertMessage_eq_some insertion
            obtain ⟨row, found, fence, rfl⟩ := updateDispatchWhere_eq_some completed
            obtain ⟨generating, unattached⟩ := generationFence_generating fence
            exact .single (.write found (.requeue _ _ generating unattached))

/-- Every step of a generation worker. -/
theorem writes_generationStep
    {clock : Instant}
    {runtime : DispatchRuntime}
    {phase : GenerationPhase}
    {choice : GenerationChoice}
    {move : GenerationMove}
    (stepped : generationStep database clock runtime phase choice = some move) :
    Writes database move.database := by
  unfold generationStep at stepped
  split at stepped
  · split at stepped
    · cases stepped
    · obtain ⟨claim, -, rfl⟩ := Option.map_eq_some_iff.mp stepped
      unfold claimGeneration
      split
      · exact .refl database
      · next taken => exact .store _ (writes_transactionG1 taken)
      · next taken => exact .store _ (writes_transactionG1 taken)
  · cases stepped
    exact .refl database
  · cases stepped
    unfold writeGeneration
    split
    · exact .refl database
    · exact .refl database
    · next written => exact .store _ (writes_transactionG2 written)
  · cases stepped
    exact .refl database
  · cases stepped

/-! ### Sweeps -/

/-- A sweep resolves sends and requeues none. -/
theorem writes_recoverExpiredSends
    {now : Instant}
    {services : Services}
    {lease : Nat}
    {cutoff : Instant}
    (keys : List Nat) :
    Writes database (recoverExpiredSends services lease cutoff now database keys).2 := by
  induction keys generalizing database with
  | nil => exact .refl database
  | cons key keys inductionHypothesis =>
      unfold recoverExpiredSends
      split
      · exact inductionHypothesis
      · next recovered updated resolved =>
          obtain ⟨row, -, rest⟩ := Option.bind_eq_some_iff.mp resolved
          obtain ⟨moved, guarded, equal⟩ := Option.map_eq_some_iff.mp rest
          cases equal
          refine Writes.trans (.updateDispatchWhere guarded fun _ expired =>
            .finish _ .unknown _ (sendLeaseExpired_state expired)) ?_
          exact Writes.trans (.modifyLinkedMessage _ _) inductionHypothesis

/-- A sweep requeues generations that have no message yet. -/
theorem writes_recoverExpiredGenerationRows
    {now : Instant}
    {cutoff : Instant}
    (keys : List Nat) :
    Writes database (recoverExpiredGenerationRows cutoff now database keys).2 := by
  induction keys generalizing database with
  | nil => exact .refl database
  | cons key keys inductionHypothesis =>
      unfold recoverExpiredGenerationRows
      cases swept : recoverExpiredGeneration cutoff now database key with
      | none => exact inductionHypothesis
      | some updated =>
          obtain ⟨row, found, generating, unattached, -, rfl⟩ :=
            recoverExpiredGeneration_eq_some swept
          refine Writes.trans (.single (.write found ?_)) inductionHypothesis
          have requeued := RowWrite.requeue now none generating unattached
          rwa [← unattached] at requeued

/-! ### Requests -/

/-- An accepted request adds one row. -/
theorem writes_acceptOperation
    {services : Services}
    {request : OutreachRequest}
    {placement : Placement}
    {now : Instant}
    {replyReference publicReference : String}
    (accepted : acceptOperation services database request placement now replyReference
      publicReference = .written updated) :
    Writes database updated := by
  unfold acceptOperation at accepted
  split at accepted
  · split at accepted
    · cases accepted
    · next inserted insertion =>
        split at accepted
        · cases accepted
        · next stored =>
            cases accepted
            obtain ⟨-, rfl⟩ := Database.insertMessage_eq_some insertion
            obtain ⟨-, rfl⟩ := Database.insertDispatch_eq_some stored
            exact .single (.accept rfl rfl)
  · split at accepted
    · cases accepted
    · next stored =>
        cases accepted
        obtain ⟨-, rfl⟩ := Database.insertDispatch_eq_some stored
        exact .single (.accept rfl rfl)

/-- Every step of a request. -/
theorem writes_requestStep
    {clock : Instant}
    {phase : RequestPhase}
    {choice : RequestChoice}
    {move : RequestMove}
    (stepped : requestStep deployment database clock phase choice = some move) :
    Writes database move.database := by
  unfold requestStep at stepped
  split at stepped
  · cases stepped
    exact .refl database
  · cases stepped
    exact .refl database
  · obtain ⟨reference, -, rfl⟩ := Option.map_eq_some_iff.mp stepped
    exact .refl database
  · cases stepped
    exact .refl database
  · cases stepped
    exact .refl database
  · split at stepped
    · cases stepped
      exact .refl database
    · next inserted =>
        cases stepped
        obtain ⟨-, rfl⟩ := Database.insertCampaign_eq_some inserted
        exact .store _ (.of_same rfl)
  · cases stepped
    exact .refl database
  · cases stepped
    exact .refl database
  · split at stepped
    · cases stepped
      exact .refl database
    · next inserted =>
        cases stepped
        obtain ⟨-, -, rfl⟩ := Database.insertContact_eq_some inserted
        exact .store _ (.of_same rfl)
  · cases stepped
    exact .refl database
  · split at stepped
    · cases stepped
      exact .refl database
    · cases stepped
      exact .refl database
    · next written =>
        cases stepped
        exact .store _ (writes_acceptOperation written)
  · cases stepped
    exact .refl database
  · obtain ⟨request, -, rfl⟩ := Option.map_eq_some_iff.mp stepped
    exact .refl database
  · cases stepped

end Transactions

end Dispatch
end MailerAgent
