import MailerAgent.Dispatch.History

/-!
# Leases of generation

An expired generation returns to the queue and is claimed again, so several
threads may hold drafts for one dispatch. With a clock that never decreases a
lease that was lost stays lost: the dispatch has its message, has left the queue,
waits in the queue at a later time than the claim, or is held under a later claim.
-/

namespace MailerAgent
namespace Dispatch

open Concurrent Relational Mail

/-- The claim satisfies the fence of Transaction G2. -/
def LeaseHeld
    (database : Database)
    (claim : ClaimedDispatch) : Prop :=
  ∃ row, database.dispatches.get claim.dispatchId = some row ∧
    generationFence claim row = true

/-- No step can make the row satisfy the fence of the claim again. -/
def RowLost
    (clock : Instant)
    (claim : ClaimedDispatch)
    (row : ExternalDispatch) : Prop :=
  row.messageId ≠ none ∨ row.state.pending = false ∨
    row.state = .queued ∧ claim.claimedAt < clock ∨
    row.state = .generating ∧ ∃ taken, row.claimedAt = some taken ∧ claim.claimedAt < taken

/-- The lease of a claim is lost for good. -/
def LeaseLost
    (clock : Instant)
    (database : Database)
    (claim : ClaimedDispatch) : Prop :=
  ∃ row, database.dispatches.get claim.dispatchId = some row ∧ RowLost clock claim row

theorem LeaseLost.not_held
    {clock : Instant}
    {database : Database}
    {claim : ClaimedDispatch}
    (lost : LeaseLost clock database claim) :
    ¬ LeaseHeld database claim := by
  rintro ⟨row, found, fence⟩
  obtain ⟨same, foundSame, reason⟩ := lost
  obtain rfl : same = row := Option.some.inj (foundSame.symm.trans found)
  obtain ⟨-, generating, -, claimedAt, unattached⟩ := (generationFence_iff _ same).mp fence
  rcases reason with attached | departed | ⟨queued, -⟩ | ⟨-, taken, heldAt, later⟩
  · exact attached unattached
  · rw [generating] at departed
    cases departed
  · rw [generating] at queued
    cases queued
  · rw [claimedAt] at heldAt
    obtain rfl := Option.some.inj heldAt
    exact Int.lt_irrefl _ later

theorem LeaseLost.clock_le
    {clock later : Instant}
    {database : Database}
    {claim : ClaimedDispatch}
    (lost : LeaseLost clock database claim)
    (forward : clock ≤ later) :
    LeaseLost later database claim := by
  obtain ⟨row, found, reason⟩ := lost
  refine ⟨row, found, ?_⟩
  rcases reason with attached | departed | ⟨queued, past⟩ | held
  · exact .inl attached
  · exact .inr (.inl departed)
  · exact .inr (.inr (.inl ⟨queued, Int.lt_of_lt_of_le past forward⟩))
  · exact .inr (.inr (.inr held))

/-- What one transaction does to the leases: a lost one stays lost, and one that is
held is kept or lost. -/
structure LeaseStep
    (clock : Instant)
    (before after : Database) : Prop where
  lost : ∀ claim, LeaseLost clock before claim → LeaseLost clock after claim
  held : ∀ claim, LeaseHeld before claim →
    LeaseHeld after claim ∨ LeaseLost clock after claim

namespace LeaseStep

variable {clock : Instant} {before middle after database : Database}

theorem of_same (same : after.dispatches = before.dispatches) :
    LeaseStep clock before after where
  lost claim lost := by
    unfold LeaseLost
    rw [same]
    exact lost
  held claim held := by
    unfold LeaseHeld
    rw [same]
    exact .inl held

theorem refl (database : Database) : LeaseStep clock database database :=
  of_same rfl

theorem trans
    (first : LeaseStep clock before middle)
    (second : LeaseStep clock middle after) :
    LeaseStep clock before after where
  lost claim lost := second.lost claim (first.lost claim lost)
  held claim held := by
    rcases first.held claim held with kept | lost
    · exact second.held claim kept
    · exact .inr (second.lost claim lost)

theorem store
    (outcome : CommitOutcome)
    (step : LeaseStep clock before after) :
    LeaseStep clock before (outcome.store before after) :=
  outcome.store_cases (.refl before) step

/-- Rewriting one dispatch, by what it means for a claim on this dispatch. -/
theorem modifyDispatch
    {key : Nat}
    {row : ExternalDispatch}
    {change : ExternalDispatch → ExternalDispatch}
    (found : database.dispatches.get key = some row)
    (lost : ∀ claim, RowLost clock claim row → RowLost clock claim (change row))
    (held : ∀ claim, generationFence claim row = true → RowLost clock claim (change row)) :
    LeaseStep clock database (database.modifyDispatch key change) := by
  have here : (database.modifyDispatch key change).dispatches.get key =
      some (change row) := by
    simp [Database.modifyDispatch, found]
  have elsewhere : ∀ other, other ≠ key →
      (database.modifyDispatch key change).dispatches.get other =
        database.dispatches.get other :=
    fun other different => Table.get_modify_of_ne _ _ different
  constructor
  · rintro claim ⟨old, foundOld, reason⟩
    by_cases same : claim.dispatchId = key
    · obtain rfl : old = row :=
        Option.some.inj ((same ▸ foundOld).symm.trans found)
      exact ⟨change old, by rw [same]; exact here, lost claim reason⟩
    · exact ⟨old, by rw [elsewhere _ same]; exact foundOld, reason⟩
  · rintro claim ⟨old, foundOld, fence⟩
    by_cases same : claim.dispatchId = key
    · obtain rfl : old = row :=
        Option.some.inj ((same ▸ foundOld).symm.trans found)
      exact .inr ⟨change old, by rw [same]; exact here, held claim fence⟩
    · exact .inl ⟨old, by rw [elsewhere _ same]; exact foundOld, fence⟩

/-- A dispatch that gets its message or leaves the queue settles every lease. -/
theorem settle
    {key : Nat}
    {row : ExternalDispatch}
    {change : ExternalDispatch → ExternalDispatch}
    (found : database.dispatches.get key = some row)
    (settled : (change row).messageId ≠ none ∨ (change row).state.pending = false) :
    LeaseStep clock database (database.modifyDispatch key change) := by
  have lost : ∀ claim, RowLost clock claim (change row) := by
    intro claim
    rcases settled with attached | departed
    · exact .inl attached
    · exact .inr (.inl departed)
  exact .modifyDispatch found (fun claim _ => lost claim) (fun claim _ => lost claim)

end LeaseStep

/-! ## The transactions -/

variable {deployment : Deployment} {database : Database} {clock : Instant}

theorem leaseStep_finish
    {now : Instant}
    {updated : Database}
    {claim : ClaimedDispatch}
    {outcome : SendOutcome}
    {error : Option String}
    (consistent : Consistent database)
    (finished : finishExternalDispatch database now claim outcome error = some updated) :
    LeaseStep clock database updated := by
  obtain ⟨row, message, stored, found, -, -, -, -, -, rfl⟩ :=
    finishExternalDispatch_eq_some consistent finished
  refine (LeaseStep.settle found (.inr ?_)).trans (.of_same rfl)
  cases outcome <;> rfl

theorem leaseStep_recoverExpiredSends
    {now : Instant}
    {services : Services}
    {lease : Nat}
    {cutoff : Instant}
    (keys : List Nat)
    (consistent : Consistent database) :
    LeaseStep clock database (recoverExpiredSends services lease cutoff now database keys).2 := by
  induction keys generalizing database with
  | nil => exact .refl database
  | cons key keys inductionHypothesis =>
      unfold recoverExpiredSends
      cases swept : recoverExpiredSend services lease cutoff now database key with
      | none => exact inductionHypothesis consistent
      | some result =>
          obtain ⟨recovered, updated⟩ := result
          obtain ⟨advances, -⟩ := recoverExpiredSend_advances consistent swept
          obtain ⟨row, message, stored, error, found, -, -, -, -, rfl⟩ :=
            recoverExpiredSend_eq_some consistent swept
          have first : LeaseStep clock database
              (database.modifyDispatch key (finishedRow now .unknown error)) :=
            .settle found (.inr rfl)
          refine first.trans ?_
          refine LeaseStep.trans (.of_same ?_) (inductionHypothesis advances.consistent)
          rfl

/-- Returning an expired generation to the queue: the claim is older than now. -/
theorem leaseStep_recoverExpiredGeneration
    {now : Instant}
    {cutoff : Instant}
    {updated : Database}
    {key : Nat}
    (past : cutoff ≤ clock)
    (swept : recoverExpiredGeneration cutoff now database key = some updated) :
    LeaseStep clock database updated := by
  obtain ⟨row, found, generating, unattached, expired, rfl⟩ :=
    recoverExpiredGeneration_eq_some swept
  refine .modifyDispatch found ?_ ?_
  · intro claim reason
    rcases reason with attached | departed | ⟨queued, -⟩ | ⟨-, taken, heldAt, later⟩
    · exact absurd unattached attached
    · rw [generating] at departed
      cases departed
    · rw [generating] at queued
      cases queued
    · have swept := expired taken heldAt
      exact .inr (.inr (.inl ⟨rfl, Int.lt_of_lt_of_le (Int.lt_trans later swept) past⟩))
  · intro claim fence
    obtain ⟨-, -, -, claimedAt, -⟩ := (generationFence_iff _ row).mp fence
    exact .inr (.inr (.inl ⟨rfl, Int.lt_of_lt_of_le (expired _ claimedAt) past⟩))

theorem leaseStep_recoverExpiredGenerationRows
    {now : Instant}
    {cutoff : Instant}
    (past : cutoff ≤ clock)
    (keys : List Nat) :
    LeaseStep clock database (recoverExpiredGenerationRows cutoff now database keys).2 := by
  induction keys generalizing database with
  | nil => exact .refl database
  | cons key keys inductionHypothesis =>
      unfold recoverExpiredGenerationRows
      cases swept : recoverExpiredGeneration cutoff now database key with
      | none => exact inductionHypothesis
      | some updated =>
          exact (leaseStep_recoverExpiredGeneration past swept).trans inductionHypothesis

/-- A claim taken now is later than every lease that was lost to the queue. -/
theorem leaseStep_transactionG1
    {updated : Database}
    {claim : ClaimedDispatch}
    {result : Except String PreparedGeneration}
    (now : claim.claimedAt = clock)
    (claimed : transactionG1 database claim = some (updated, result)) :
    LeaseStep clock database updated := by
  obtain ⟨row, found, queued, unattached, effect⟩ := transactionG1_eq_some claimed
  cases result with
  | error reason =>
      simp only at effect
      subst effect
      exact .settle found (.inr rfl)
  | ok prepared =>
      obtain ⟨-, rfl⟩ := effect
      refine .modifyDispatch found ?_ ?_
      · intro other reason
        rcases reason with attached | departed | ⟨-, past⟩ | ⟨generating, -⟩
        · exact absurd unattached attached
        · rw [queued] at departed
          cases departed
        · exact .inr (.inr (.inr ⟨rfl, claim.claimedAt, rfl, by rw [now]; exact past⟩))
        · rw [queued] at generating
          cases generating
      · intro other fence
        obtain ⟨-, generating, -⟩ := (generationFence_iff _ row).mp fence
        rw [queued] at generating
        cases generating

theorem leaseStep_transactionG2
    {updated : Database}
    {prepared : PreparedGeneration}
    {result : Except String Draft}
    {createdAt : Instant}
    {replyReference : String}
    (written : transactionG2 database prepared result createdAt replyReference =
      .written updated) :
    LeaseStep clock database updated := by
  obtain ⟨row, found, -, effect⟩ := transactionG2_eq_written written
  cases result with
  | error failure =>
      simp only at effect
      subst effect
      exact .settle found (.inr rfl)
  | ok draft =>
      obtain ⟨inserted, insertion, rfl⟩ := effect
      have kept : inserted.dispatches = database.dispatches := by
        obtain ⟨-, rfl⟩ := Database.insertMessage_eq_some insertion
        rfl
      refine (LeaseStep.of_same kept).trans (.settle (by rw [kept]; exact found) (.inl ?_))
      exact Option.some_ne_none _

/-! ## The steps of the workers -/

theorem leaseStep_commitDecision
    {now : Instant}
    {began : Nat}
    {claim : ClaimedDispatch}
    {decision : Except String ReadySend}
    (outcome : CommitOutcome)
    (consistent : Consistent database) :
    LeaseStep clock database (commitDecision database now began claim outcome decision).1 := by
  cases decision with
  | error reason =>
      cases refused : commitRefusal database now claim reason with
      | none =>
          simp only [commitDecision, refused, Option.elim]
          exact .refl database
      | some updated =>
          simp only [commitDecision, refused, Option.elim]
          obtain ⟨row, message, stored, found, -, -, -, rfl⟩ :=
            commitRefusal_eq_some consistent refused
          refine .store outcome ?_
          exact (LeaseStep.settle found (.inr rfl)).trans (.of_same rfl)
  | ok ready =>
      cases written : commitPrepared database claim ready with
      | none =>
          simp only [commitDecision, written]
          exact .refl database
      | some updated =>
          simp only [commitDecision, written]
          obtain ⟨row, found, -, updatedMessage⟩ := commitPrepared_eq_some written
          obtain ⟨rfl, -⟩ := Database.updateMessage_eq_some updatedMessage
          refine .store outcome ?_
          exact (LeaseStep.settle found (.inr rfl)).trans (.of_same rfl)

theorem leaseStep_annotate
    {now : Instant}
    {claim : ClaimedDispatch}
    {ready : ReadySend}
    {report : SendReport}
    (outcome : CommitOutcome) :
    LeaseStep clock database (annotateLateOutcome database now claim ready report outcome) := by
  unfold annotateLateOutcome
  cases annotated : annotateUnknownDispatch database now claim.dispatchId claim.organizationId
      (lateOutcomeNote claim ready.messageId report) with
  | none => exact .refl database
  | some updated =>
      obtain ⟨row, found, unknown, rfl⟩ := updateDispatchWhere_eq_some annotated
      simp only [Bool.and_eq_true, beq_iff_eq] at unknown
      refine .store outcome (.settle found (.inr ?_))
      change row.state.pending = false
      rw [unknown.2]
      rfl

theorem leaseStep_dispatchStep
    {position : Nat}
    {runtime : DispatchRuntime}
    {phase : DispatchPhase}
    {choice : DispatchChoice}
    {move : DispatchMove}
    (consistent : Consistent database)
    (stepped : dispatchStep deployment database clock position runtime phase choice =
      some move) :
    LeaseStep clock database move.database := by
  unfold dispatchStep at stepped
  split at stepped
  · obtain ⟨admitted, -, rfl⟩ := Option.map_eq_some_iff.mp stepped
    exact .refl database
  · split at stepped
    · obtain rfl := Option.some.inj stepped
      exact .refl database
    · obtain rfl := Option.some.inj stepped
      exact .refl database
  · obtain rfl := Option.some.inj stepped
    exact .refl database
  · obtain ⟨registered, -, rfl⟩ := Option.map_eq_some_iff.mp stepped
    exact .refl database
  · obtain ⟨row, -, rfl⟩ := Option.map_eq_some_iff.mp stepped
    exact .refl database
  · obtain rfl := Option.some.inj stepped
    exact .refl database
  · obtain rfl := Option.some.inj stepped
    exact leaseStep_commitDecision _ consistent
  · obtain rfl := Option.some.inj stepped
    exact .refl database
  · obtain rfl := Option.some.inj stepped
    exact .refl database
  · next claim ready report remaining outcome =>
      obtain rfl := Option.some.inj stepped
      unfold recordOutcome
      split
      · exact .refl database
      · next updated finished => exact .store outcome (leaseStep_finish consistent finished)
  · obtain rfl := Option.some.inj stepped
    exact .refl database
  · obtain rfl := Option.some.inj stepped
    exact leaseStep_annotate _
  · obtain rfl := Option.some.inj stepped
    exact .refl database
  · obtain rfl := Option.some.inj stepped
    exact .refl database
  · obtain ⟨released, -, rfl⟩ := Option.map_eq_some_iff.mp stepped
    exact .refl database
  · cases stepped

/-- The lease of the generation that a thread works on is held or lost for good. -/
def GenerationPhase.Leased
    (clock : Instant)
    (database : Database)
    (phase : GenerationPhase) :
    Prop :=
  ∀ prepared, phase.preparation = some prepared →
    LeaseHeld database prepared.claim ∨ LeaseLost clock database prepared.claim

theorem GenerationPhase.Leased.later
    {after : Database}
    {next : Instant}
    {phase : GenerationPhase}
    (leased : phase.Leased clock database)
    (step : LeaseStep clock database after)
    (forward : clock ≤ next) :
    phase.Leased next after := by
  intro prepared working
  rcases leased prepared working with held | lost
  · rcases step.held _ held with kept | lost
    · exact .inl kept
    · exact .inr (lost.clock_le forward)
  · exact .inr ((step.lost _ lost).clock_le forward)

theorem GenerationPhase.leased_idle
    (clock : Instant)
    (database : Database) :
    GenerationPhase.idle.Leased clock database := by
  intro prepared working
  cases working

theorem claimNextGenerationDispatch_now
    {locked : List Nat}
    {workerId : String}
    {claim : ClaimedDispatch}
    (chosen : claimNextGenerationDispatch database locked workerId clock = some claim) :
    claim.claimedAt = clock ∧
      ∃ row, database.dispatches.get claim.dispatchId = some row ∧
        row.organizationId = claim.organizationId := by
  unfold claimNextGenerationDispatch at chosen
  obtain ⟨key, -, found⟩ := Option.bind_eq_some_iff.mp chosen
  obtain ⟨row, here, rfl⟩ := Option.map_eq_some_iff.mp found
  exact ⟨rfl, row, here, rfl⟩

theorem claimGeneration_leases
    {locked : List Nat}
    {workerId : String}
    {claim : ClaimedDispatch}
    (outcome : CommitOutcome)
    (chosen : claimNextGenerationDispatch database locked workerId clock = some claim) :
    LeaseStep clock database (claimGeneration database claim outcome).database ∧
      (claimGeneration database claim outcome).phase.Leased clock
        (claimGeneration database claim outcome).database := by
  obtain ⟨now, row, found, organization⟩ := claimNextGenerationDispatch_now chosen
  unfold claimGeneration
  split
  · exact ⟨.refl database, GenerationPhase.leased_idle _ _⟩
  · next updated reason claimed =>
      exact ⟨.store outcome (leaseStep_transactionG1 now claimed),
        GenerationPhase.leased_idle _ _⟩
  · next updated prepared claimed =>
      refine ⟨.store outcome (leaseStep_transactionG1 now claimed), ?_⟩
      obtain ⟨same, foundSame, -, unattached, preparation, rfl⟩ :=
        transactionG1_eq_some claimed
      obtain rfl : same = row := Option.some.inj (foundSame.symm.trans found)
      obtain ⟨sameClaim, -⟩ := prepareGeneration_eq_ok preparation
      cases outcome with
      | committed =>
          rintro _ ⟨⟩
          refine .inl ⟨generationClaimedRow claim same, ?_, ?_⟩
          · rw [sameClaim]
            change ((database.modifyDispatch _ _).dispatches.get _) = _
            simp [Database.modifyDispatch, found]
          · rw [sameClaim]
            apply (generationFence_iff _ _).mpr
            exact ⟨organization, rfl, rfl, rfl, unattached⟩
      | appliedButReportedFailed | failed => exact GenerationPhase.leased_idle _ _

theorem writeGeneration_leases
    (prepared : PreparedGeneration)
    (result : Except String Draft)
    (remaining : Nat)
    (replyReference : String)
    (outcome : CommitOutcome) :
    LeaseStep clock database
      (writeGeneration database prepared result remaining clock replyReference
        outcome).database := by
  unfold writeGeneration
  split
  · exact .refl database
  · exact .refl database
  · next updated written => exact .store outcome (leaseStep_transactionG2 written)

/-- What a generation thread works on after a step it worked on before, unless it
has just claimed it. -/
theorem generationStep_leases
    {runtime : DispatchRuntime}
    {generation : GenerationPhase}
    {selection : GenerationChoice}
    {moved : GenerationMove}
    (leased : generation.Leased clock database)
    (stepped : generationStep database clock runtime generation selection = some moved) :
    LeaseStep clock database moved.database ∧ moved.phase.Leased clock moved.database := by
  unfold generationStep at stepped
  split at stepped
  · split at stepped
    · cases stepped
    · obtain ⟨claim, chosen, rfl⟩ := Option.map_eq_some_iff.mp stepped
      exact claimGeneration_leases _ chosen
  · obtain rfl := Option.some.inj stepped
    refine ⟨.refl database, ?_⟩
    rintro _ ⟨⟩
    exact leased _ rfl
  · next prepared result remaining replyReference outcome =>
      obtain rfl := Option.some.inj stepped
      have step : LeaseStep clock database _ :=
        writeGeneration_leases prepared result remaining replyReference outcome
      refine ⟨step, ?_⟩
      intro other working
      have same : other = prepared := by
        unfold writeGeneration at working
        split at working
        · cases working
        · exact (preparation_retryGeneration working).symm
        · cases outcome with
          | committed => cases working
          | appliedButReportedFailed | failed =>
              exact (preparation_retryGeneration working).symm
      subst same
      exact (leased.later step (Int.le_refl clock)) other rfl
  · obtain rfl := Option.some.inj stepped
    refine ⟨.refl database, ?_⟩
    intro other working
    obtain rfl := preparation_retryGeneration working
    exact leased _ rfl
  · cases stepped

/-- A step that holds the lease inserts one message and attaches it to its
dispatch, which had none. -/
structure Attaches
    (database : Database)
    (prepared : PreparedGeneration)
    (moved : GenerationMove) : Prop where
  held : LeaseHeld database prepared.claim
  unattached : ∃ row, database.dispatches.get prepared.claim.dispatchId = some row ∧
    row.messageId = none
  messages : ∃ message, moved.database.messages = database.messages.insert message
  logged : moved.attached = [(prepared.claim.dispatchId, database.messages.size)]
  attached : ∃ row, moved.database.dispatches.get prepared.claim.dispatchId = some row ∧
    row.messageId = some database.messages.size

theorem attaches_of_written
    {updated : Database}
    {prepared : PreparedGeneration}
    {draft : Draft}
    {createdAt : Instant}
    {replyReference : String}
    (phase : GenerationPhase)
    (written : transactionG2 database prepared (.ok draft) createdAt replyReference =
      .written updated) :
    Attaches database prepared
      { database := updated
        phase := phase
        attached := [(prepared.claim.dispatchId, database.messages.size)] } := by
  obtain ⟨row, found, fence, inserted, insertion, rfl⟩ := transactionG2_eq_written written
  obtain ⟨-, -, -, -, unattached⟩ := (generationFence_iff _ row).mp fence
  obtain ⟨-, rfl⟩ := Database.insertMessage_eq_some insertion
  refine ⟨⟨row, found, fence⟩, ⟨row, found, unattached⟩, ⟨_, rfl⟩, rfl, ?_⟩
  refine ⟨{ row with
    state := .queued
    messageId := some database.messages.size
    claimedBy := none
    claimedAt := none
    updatedAt := createdAt }, ?_, rfl⟩
  change (database.dispatches.modify _ _).get _ = _
  rw [Table.get_modify_self, found]
  rfl

theorem claimGeneration_messages
    (claim : ClaimedDispatch)
    (outcome : CommitOutcome) :
    (claimGeneration database claim outcome).database.messages = database.messages ∧
      (claimGeneration database claim outcome).attached = [] := by
  unfold claimGeneration
  split
  · exact ⟨rfl, rfl⟩
  · next claimed =>
      obtain ⟨row, -, -, -, effect⟩ := transactionG1_eq_some claimed
      simp only at effect
      subst effect
      cases outcome <;> exact ⟨rfl, rfl⟩
  · next claimed =>
      obtain ⟨row, -, -, -, -, rfl⟩ := transactionG1_eq_some claimed
      cases outcome <;> exact ⟨rfl, rfl⟩

theorem writeGeneration_messages
    (prepared : PreparedGeneration)
    (result : Except String Draft)
    (remaining : Nat)
    (replyReference : String)
    (outcome : CommitOutcome)
    {moved : GenerationMove}
    (written : writeGeneration database prepared result remaining clock replyReference
      outcome = moved) :
    (moved.database.messages = database.messages ∧ moved.attached = []) ∨
      Attaches database prepared moved := by
  subst written
  unfold writeGeneration
  split
  · exact .inl ⟨rfl, rfl⟩
  · exact .inl ⟨rfl, rfl⟩
  · next updated written =>
      cases result with
      | error failure =>
          obtain ⟨row, found, fence, effect⟩ := transactionG2_eq_written written
          simp only at effect
          subst effect
          cases outcome <;> exact .inl ⟨rfl, rfl⟩
      | ok draft =>
          cases outcome with
          | failed => exact .inl ⟨rfl, rfl⟩
          | committed | appliedButReportedFailed =>
              exact .inr (attaches_of_written _ written)

/-- What a generation thread adds to the messages: nothing, or the one message of
its dispatch. -/
theorem generationStep_messages
    {runtime : DispatchRuntime}
    {generation : GenerationPhase}
    {selection : GenerationChoice}
    {moved : GenerationMove}
    (stepped : generationStep database clock runtime generation selection = some moved) :
    (moved.database.messages = database.messages ∧ moved.attached = []) ∨
      ∃ prepared, generation.preparation = some prepared ∧
        Attaches database prepared moved := by
  unfold generationStep at stepped
  split at stepped
  · split at stepped
    · cases stepped
    · obtain ⟨claim, -, rfl⟩ := Option.map_eq_some_iff.mp stepped
      exact .inl (claimGeneration_messages claim _)
  · obtain rfl := Option.some.inj stepped
    exact .inl ⟨rfl, rfl⟩
  · next prepared result remaining replyReference outcome =>
      rcases writeGeneration_messages prepared result remaining replyReference outcome
        (Option.some.inj stepped) with unchanged | attaches
      · exact .inl unchanged
      · exact .inr ⟨prepared, rfl, attaches⟩
  · obtain rfl := Option.some.inj stepped
    exact .inl ⟨rfl, rfl⟩
  · cases stepped

/-- A generation thread at work writes only while it holds the lease. -/
theorem generationStep_writes
    {runtime : DispatchRuntime}
    {generation : GenerationPhase}
    {selection : GenerationChoice}
    {moved : GenerationMove}
    {prepared : PreparedGeneration}
    (working : generation.preparation = some prepared)
    (stepped : generationStep database clock runtime generation selection = some moved) :
    moved.database = database ∨ LeaseHeld database prepared.claim := by
  unfold generationStep at stepped
  split at stepped
  · cases working
  · obtain rfl := Option.some.inj stepped
    exact .inl rfl
  · obtain rfl := Option.some.inj working
    obtain rfl := Option.some.inj stepped
    unfold writeGeneration
    split
    · exact .inl rfl
    · exact .inl rfl
    · next updated written =>
        obtain ⟨row, found, fence, -⟩ := transactionG2_eq_written written
        exact .inr ⟨row, found, fence⟩
  · obtain rfl := Option.some.inj stepped
    exact .inl rfl
  · cases stepped

end Dispatch
end MailerAgent
