import MailerAgent.World.Invariant

/-!
# Delivery of dispatches

What holds of every interleaving of the dispatch and generation workers, sweeps,
shutdowns and crashes with everything else: a dispatch is handed to the sender at
most once, its final states are final, a worker that lost its claim changes
nothing, the recorded state is true to the calls that were made, and a dispatch
and its message always agree.
-/

namespace MailerAgent

open Concurrent Relational Mail Dispatch Intake Native

variable {deployment : Deployment} {world : World}

/-- An action that a worker, or the shutdown of its process, takes under a claim
that was committed to a dispatch. -/
inductive ActsUnder
    (world : World)
    (claim : ClaimedDispatch) : Action → Prop where
  | dispatch
      {worker : Worker}
      {choice : DispatchChoice}
      (held : (world.dispatchers worker).sendClaim = some claim) :
      ActsUnder world claim (.dispatch worker choice)
  | generation
      {worker : Worker}
      {choice : GenerationChoice}
      {prepared : PreparedGeneration}
      (working : (world.generators worker).preparation = some prepared)
      (held : prepared.claim = claim) :
      ActsUnder world claim (.generation worker choice)
  | shutdown
      {process : Nat}
      {outcome : CommitOutcome}
      {rest : List ClaimedDispatch}
      (held : world.draining process = claim :: rest) :
      ActsUnder world claim (.resolve process outcome)

/-- Under a claim that is no longer on the row no state changes. -/
theorem state_kept_of_lost_claim
    {claim : ClaimedDispatch}
    {action : Action}
    {after : World}
    (consistent : Consistent world.database)
    (acts : ActsUnder world claim action)
    (lost : ¬ OnRow world.database claim)
    (stepped : world.step deployment action = some after)
    (key : Nat) :
    dispatchState after.database key = dispatchState world.database key := by
  obtain ⟨next, moved, rfl⟩ := Option.map_eq_some_iff.mp stepped
  cases acts with
  | dispatch held =>
      obtain ⟨move, taken, rfl⟩ := Option.map_eq_some_iff.mp moved
      exact dispatchStep_lostClaim consistent held lost taken key
  | generation working held =>
      subst held
      obtain ⟨move, taken, rfl⟩ := Option.map_eq_some_iff.mp moved
      have unchanged := (generationStep_lostClaim working lost taken).1
      change dispatchState move.database key = _
      rw [unchanged]
  | shutdown held =>
      simp only [World.move, held, Option.some.injEq] at moved
      subst moved
      simp only [resolveOnShutdown]
      cases finished : finishExternalDispatch world.database world.clock claim .unknown
          (some shutdownReason) with
      | none => rfl
      | some updated => exact absurd (finishExternalDispatch_onRow consistent finished) lost

/-- In every reachable state `send_email` was called at most once for each
dispatch; from there on the states `SENT`, `FAILED` and `UNKNOWN` are final; and a
step that is taken under a claim which is not on its row changes no state. -/
theorem dispatch_sent_at_most_once
    (deployment : Deployment)
    (world : World)
    (reachable : (system deployment).Reachable world) :
    (∀ key, (callsFor world.calls key).length ≤ 1) ∧
      (∀ after, (system deployment).Reaches world after →
        ∀ key row, world.database.dispatches.get key = some row →
          row.state = .sent ∨ row.state = .failed ∨ row.state = .unknown →
          ∃ kept, after.database.dispatches.get key = some kept ∧
            kept.state = row.state) ∧
      ∀ claim action after, ActsUnder world claim action →
        ¬ OnRow world.database claim →
        (system deployment).step world action = some after →
        ∀ key, dispatchState after.database key = dispatchState world.database key := by
  have invariant := Invariant.of_reachable reachable
  refine ⟨fun key => (invariant.truthful key).length_le, ?_, ?_⟩
  · intro after reaches key row found final
    obtain ⟨kept, foundKept, keeps⟩ :=
      (extends_of_reaches reachable reaches).dispatches key row found
    refine ⟨kept, foundKept, keeps.terminal ?_⟩
    rcases final with state | state | state <;> rw [state] <;> rfl
  · intro claim action after acts lost stepped key
    exact state_kept_of_lost_claim invariant.current.consistent acts lost stepped key

namespace Sample

/-- A request for a mailbox. -/
def mailbox : MailboxCreate where
  emailAddress := "out@acme.test"
  smtpHost := "smtp.acme.test"
  smtpPort := 587
  smtpUseTls := true
  smtpUsername := "out"
  smtpPassword := "secret"

/-- A request for an exact message. -/
def exactRequest : OutreachRequest where
  organizationId := "acme"
  payload := .exact { idempotencyKey := "k1", recipientEmail := "p@x.test", body := "Hi" }

/-- A worker thread. -/
def worker : Worker := ⟨0, 0⟩

/-- A mailbox is created and an exact message accepted. -/
def acceptance : List Action :=
  .start 0 (.createMailbox "acme" mailbox) :: List.replicate 6 (proceed 0) ++
    [.request 0 (.receive exactRequest), .request 0 .read, .request 0 .read,
      .request 0 .read, .request 0 (.commit .committed "" ""), .request 0 .read,
      .request 0 (.commit .committed "" ""), .request 0 (.commit .committed "r1" "d1")]

/-- The accepted dispatch is sent; the commit of Transaction C is applied but
reported as failed. -/
def ambiguousDelivery : List Action :=
  acceptance ++
    [.dispatch worker .begin, .dispatch worker (.claim "w" []), .dispatch worker .register,
      .dispatch worker (.evaluate fun domain => "<1@" ++ domain ++ ">"),
      .dispatch worker (.commit .committed), .dispatch worker (.send accepts),
      .dispatch worker (.commit .appliedButReportedFailed)]

/-- The stored state of the only dispatch and the number of calls made for it. -/
def summary (world : World) : Option ExternalDispatchState × Nat :=
  ((world.database.dispatches.get 0).map ExternalDispatch.state,
    (callsFor world.calls 0).length)

end Sample

/-- The thread whose commit was reported as failed still reports, without its claim
on the row; its retry changes nothing. -/
theorem dispatch_sent_once_despite_ambiguous_commit :
    ∃ world, (system Sample.deployment).Reachable world ∧
      Sample.summary world = (some .sent, 1) ∧
      (callsFor world.calls 0).length ≤ 1 := by
  obtain ⟨world, reachable, summary⟩ := reachable_of_any
    Sample.deployment Sample.ambiguousDelivery
    (fun world => Sample.summary world == (some .sent, 1)) (by decide +kernel)
  exact ⟨world, reachable, beq_iff_eq.mp summary,
    (dispatch_sent_at_most_once Sample.deployment world reachable).1 0⟩

/-- In every reachable state a dispatch that is queued or in generation has had no
call of `send_email`, one that is `SENT` exactly one, which returned `SENT`, and
one that is `FAILED` none, or a single one, which returned `FAILED`. -/
theorem recorded_outcomes_truthful
    (deployment : Deployment)
    (world : World)
    (reachable : (system deployment).Reachable world)
    (key : Nat)
    (row : ExternalDispatch)
    (found : world.database.dispatches.get key = some row) :
    (row.state = .queued ∨ row.state = .generating → callsFor world.calls key = []) ∧
      (row.state = .sent → ∃ call result, callsFor world.calls key = [call] ∧
        call.report = .returned result ∧ result.outcome = .sent) ∧
      (row.state = .failed → callsFor world.calls key = [] ∨
        ∃ call result, callsFor world.calls key = [call] ∧
          call.report = .returned result ∧ result.outcome = .failed) := by
  have truthful := (Invariant.of_reachable reachable).truthful key
  rw [dispatchState_of_get found] at truthful
  refine ⟨?_, ?_, ?_⟩
  · rintro (state | state)
    · rw [state] at truthful
      exact truthful
    · rw [state] at truthful
      exact truthful
  · intro state
    rw [state] at truthful
    exact truthful
  · intro state
    rw [state] at truthful
    exact truthful

/-- A dispatch whose outcome was recorded by an ambiguous commit. -/
theorem recorded_outcome_of_ambiguous_commit :
    ∃ world row, (system Sample.deployment).Reachable world ∧
      world.database.dispatches.get 0 = some row ∧ row.state = .sent ∧
      ∃ call result, callsFor world.calls 0 = [call] ∧ call.report = .returned result ∧
        result.outcome = .sent := by
  obtain ⟨world, reachable, summary⟩ := reachable_of_any
    Sample.deployment Sample.ambiguousDelivery
    (fun world => (world.database.dispatches.get 0).any fun row =>
      row.state == .sent) (by decide +kernel)
  obtain ⟨row, found, state⟩ := (Option.any_eq_true _ _).mp summary
  have sent := beq_iff_eq.mp state
  exact ⟨world, row, reachable, found, sent,
    (recorded_outcomes_truthful Sample.deployment world reachable 0 row found).2.1 sent⟩

/-- In every reachable state each dispatch agrees with its message. -/
theorem dispatch_agrees_with_message
    (deployment : Deployment)
    (world : World)
    (reachable : (system deployment).Reachable world)
    (key : Nat)
    (row : ExternalDispatch)
    (found : world.database.dispatches.get key = some row) :
    (row.state = .sending ∨ row.state = .generating ↔
        row.claimedBy ≠ none ∧ row.claimedAt ≠ none) ∧
      (row.state = .sending → ∃ messageId message, row.messageId = some messageId ∧
        world.database.messages.get messageId = some message ∧
        message.status = .sending ∧ message.messageIdHeader ≠ none) ∧
      (row.state = .generating → row.messageId = none) ∧
      (row.state = .queued → ∀ messageId, row.messageId = some messageId →
        ∃ message, world.database.messages.get messageId = some message ∧
          message.status = .draft) ∧
      (row.state = .sent → ∃ messageId message, row.messageId = some messageId ∧
        world.database.messages.get messageId = some message ∧
        message.status = .sent ∧ message.messageIdHeader ≠ none) ∧
      (row.state = .unknown → ∃ messageId message, row.messageId = some messageId ∧
        world.database.messages.get messageId = some message ∧
        message.status = .unknown ∧ message.messageIdHeader ≠ none) ∧
      (row.state = .failed → ∀ messageId, row.messageId = some messageId →
        ∃ message, world.database.messages.get messageId = some message ∧
          message.status = .failed) := by
  have consistent := (Invariant.of_reachable reachable).current.consistent
  have agrees := consistent.agreement key row found
  have linked := consistent.linked key row found
  have attached : ∀ {status : MessageStatus},
      (∃ stored, linkedMessage world.database row = some stored ∧
        stored.status = status ∧ stored.messageIdHeader ≠ none) →
      ∃ messageId message, row.messageId = some messageId ∧
        world.database.messages.get messageId = some message ∧
        message.status = status ∧ message.messageIdHeader ≠ none := by
    rintro status ⟨stored, link, current, header⟩
    obtain ⟨messageId, here, foundMessage⟩ := Option.bind_eq_some_iff.mp link
    exact ⟨messageId, stored, here, foundMessage, current, header⟩
  have held : ∀ {status : MessageStatus},
      (∀ stored, linkedMessage world.database row = some stored →
        stored.status = status) →
      ∀ messageId, row.messageId = some messageId →
        ∃ message, world.database.messages.get messageId = some message ∧
          message.status = status := by
    intro status each messageId here
    obtain ⟨stored, foundMessage, -⟩ := linked.message messageId here
    refine ⟨stored, foundMessage, each stored ?_⟩
    unfold linkedMessage
    rw [here]
    exact foundMessage
  refine ⟨⟨agrees.claimed, ?_⟩, fun state => attached (agrees.sending state),
    agrees.generating, fun state => held (agrees.queued state),
    fun state => attached (agrees.sent state), fun state => attached (agrees.unknown state),
    fun state => held (agrees.failed state)⟩
  rintro ⟨claimedBy, -⟩
  by_contra idle
  obtain ⟨notSending, notGenerating⟩ := not_or.mp idle
  exact claimedBy (agrees.unclaimed notSending notGenerating).1

/-- The dispatch that was sent above has a message with the same status. -/
theorem sent_dispatch_agrees :
    ∃ world row, (system Sample.deployment).Reachable world ∧
      world.database.dispatches.get 0 = some row ∧ row.state = .sent ∧
      ∃ messageId message, row.messageId = some messageId ∧
        world.database.messages.get messageId = some message ∧
        message.status = .sent ∧ message.messageIdHeader ≠ none := by
  obtain ⟨world, reachable, summary⟩ := reachable_of_any
    Sample.deployment Sample.ambiguousDelivery
    (fun world => (world.database.dispatches.get 0).any fun row =>
      row.state == .sent) (by decide +kernel)
  obtain ⟨row, found, state⟩ := (Option.any_eq_true _ _).mp summary
  have sent := beq_iff_eq.mp state
  obtain ⟨-, -, -, -, agrees, -, -⟩ :=
    dispatch_agrees_with_message Sample.deployment world reachable 0 row found
  exact ⟨world, row, reachable, found, sent, agrees sent⟩

end MailerAgent
