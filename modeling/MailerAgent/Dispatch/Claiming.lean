import MailerAgent.Config
import MailerAgent.Mail.Sender
import MailerAgent.Models.Services

/-!
# Claiming external dispatches

The claim, fence and recovery functions of `followup/work_claiming.py` for
external dispatches. Each one is the effect of its statements inside the caller's
transaction; a guarded update that matched no row gives `none`.
-/

namespace MailerAgent
namespace Dispatch

open Relational Mail

/-- Identity of one successful claim; `claimedAt` is the fencing token. -/
structure ClaimedDispatch where
  dispatchId : Nat
  organizationId : String
  workerId : String
  claimedAt : Instant
  deriving DecidableEq, Repr

/-- `RecoveredDispatch`. -/
structure RecoveredDispatch where
  dispatchId : Nat
  organizationId : String
  externalActionId : Option String
  correlationId : Option String
  publicReference : String
  previousWorker : Option String
  previousClaimedAt : Option Instant
  deriving DecidableEq, Repr

/-- The dispatch state that records a send outcome. -/
def outcomeState : SendOutcome → ExternalDispatchState
  | .sent => .sent
  | .failed => .failed
  | .unknown => .unknown

/-- The message status that records a send outcome. -/
def outcomeStatus : SendOutcome → MessageStatus
  | .sent => .sent
  | .failed => .failed
  | .unknown => .unknown

/-- Text of an optional value in an f-string. -/
def showOptional (render : α → String) : Option α → String
  | none => "None"
  | some value => render value

/-! ## Send claims -/

/-- Queued, with the message that is to be sent. -/
def awaitingSend (row : ExternalDispatch) : Bool :=
  row.state == .queued && row.messageId.isSome

/-- The row selected by `claim_next_external_dispatch`: the oldest one awaiting a
send that no other transaction has locked. -/
def claimNextExternalDispatch
    (database : Database)
    (locked : List Nat)
    (workerId : String)
    (now : Instant) : Option ClaimedDispatch :=
  ((database.dispatches.keysWhere awaitingSend).find? fun key =>
      !locked.contains key).bind fun key =>
    (database.dispatches.get key).map fun row =>
      ⟨key, row.organizationId, workerId, now⟩

/-- `_guarded_claim` of the send claim. -/
def guardedSendClaim
    (database : Database)
    (claim : ClaimedDispatch) :
    Option Database :=
  database.updateDispatchWhere claim.dispatchId awaitingSend fun row =>
    { row with
      state := .sending
      claimedBy := some claim.workerId
      claimedAt := some claim.claimedAt
      updatedAt := claim.claimedAt }

/-- The predicate of the outcome write: the row is still the claimed one. -/
def sendFence
    (claim : ClaimedDispatch)
    (row : ExternalDispatch) : Bool :=
  row.organizationId == claim.organizationId && row.state == .sending &&
    row.claimedBy == some claim.workerId && row.claimedAt == some claim.claimedAt

/-- The columns written when a claimed dispatch is finished. -/
def finishedRow
    (now : Instant)
    (outcome : SendOutcome)
    (error : Option String)
    (row : ExternalDispatch) : ExternalDispatch :=
  { row with
    state := outcomeState outcome
    claimedBy := none
    claimedAt := none
    errorMessage := error
    updatedAt := now }

/-- The columns written to the linked message. -/
def finishedMessage
    (outcome : SendOutcome)
    (error : Option String)
    (message : Message) : Message :=
  { message with status := outcomeStatus outcome, errorMessage := error }

/-- Apply a change to the message linked to a dispatch. -/
def modifyLinkedMessage
    (database : Database)
    (dispatchId : Nat)
    (change : Message → Message) : Database :=
  match (database.dispatches.get dispatchId).bind ExternalDispatch.messageId with
  | none => database
  | some message => database.modifyMessage message change

/-- `finish_external_dispatch`. -/
def finishExternalDispatch
    (database : Database)
    (now : Instant)
    (claim : ClaimedDispatch)
    (outcome : SendOutcome)
    (error : Option String) : Option Database :=
  (database.updateDispatchWhere claim.dispatchId (sendFence claim)
      (finishedRow now outcome error)).map fun updated =>
    modifyLinkedMessage updated claim.dispatchId (finishedMessage outcome error)

/-- A `SENDING` row whose claim is older than the cutoff, or has no time. -/
def sendLeaseExpired
    (cutoff : Instant)
    (row : ExternalDispatch) : Bool :=
  row.state == .sending && row.claimedAt.all fun claimedAt => claimedAt < cutoff

/-- The recorded reason of an expired send lease. -/
def leaseExpiredReason
    (services : Services)
    (lease : Nat)
    (row : ExternalDispatch) :
    String :=
  "lease_expired: dispatch was SENDING and its claim (worker=" ++
    showOptional id row.claimedBy ++ ", claimed_at=" ++
    showOptional services.showInstant row.claimedAt ++ ") expired after " ++
    toString lease ++ "s. Whether SMTP accepted the message is unknown; " ++
    "it will NOT be retried automatically."

/-- Resolve one expired row, if it still is. -/
def recoverExpiredSend
    (services : Services)
    (lease : Nat)
    (cutoff now : Instant)
    (database : Database)
    (key : Nat) : Option (RecoveredDispatch × Database) :=
  (database.dispatches.get key).bind fun row =>
    let reason := leaseExpiredReason services lease row
    (database.updateDispatchWhere key (sendLeaseExpired cutoff)
        (finishedRow now .unknown (some reason))).map fun updated =>
      (⟨key, row.organizationId, row.externalActionId, row.correlationId,
          row.publicReference, row.claimedBy, row.claimedAt⟩,
        modifyLinkedMessage updated key fun message =>
          if message.status = .sending ∨ message.status = .draft then
            finishedMessage .unknown (some reason) message
          else message)

/-- Resolve candidates one after the other in one transaction. -/
def recoverExpiredSends
    (services : Services)
    (lease : Nat)
    (cutoff now : Instant) :
    Database → List Nat → List RecoveredDispatch × Database
  | database, [] => ([], database)
  | database, key :: keys =>
      match recoverExpiredSend services lease cutoff now database key with
      | none => recoverExpiredSends services lease cutoff now database keys
      | some (recovered, updated) =>
          let rest := recoverExpiredSends services lease cutoff now updated keys
          (recovered :: rest.1, rest.2)

/-- `recover_expired_external_dispatches`, skipping locked rows. -/
def recoverExpiredExternalDispatches
    (services : Services)
    (lease : Nat)
    (database : Database)
    (now : Instant)
    (locked : List Nat)
    (limit : Nat) : List RecoveredDispatch × Database :=
  let cutoff := now - lease * second
  let candidates := (database.dispatches.keysWhere (sendLeaseExpired cutoff)).filter
    fun key => !locked.contains key
  recoverExpiredSends services lease cutoff now database (candidates.take limit)

/-- `annotate_unknown_dispatch`. -/
def annotateUnknownDispatch
    (database : Database)
    (now : Instant)
    (dispatchId : Nat)
    (organizationId : String)
    (note : String) : Option Database :=
  database.updateDispatchWhere dispatchId
    (fun row => row.organizationId == organizationId && row.state == .unknown)
    fun row =>
      { row with
        errorMessage := some (row.errorMessage.getD "" ++ " | " ++ note)
        updatedAt := now }

/-! ## Generation claims -/

/-- Queued, with its message still to be generated. -/
def awaitingGeneration (row : ExternalDispatch) : Bool :=
  row.state == .queued && row.messageId.isNone

/-- The row selected by `claim_next_generation_dispatch`. -/
def claimNextGenerationDispatch
    (database : Database)
    (locked : List Nat)
    (workerId : String)
    (now : Instant) : Option ClaimedDispatch :=
  ((database.dispatches.keysWhere awaitingGeneration).find? fun key =>
      !locked.contains key).bind fun key =>
    (database.dispatches.get key).map fun row =>
      ⟨key, row.organizationId, workerId, now⟩

/-- `_guarded_claim` of the generation claim. -/
def guardedGenerationClaim
    (database : Database)
    (claim : ClaimedDispatch) :
    Option Database :=
  database.updateDispatchWhere claim.dispatchId awaitingGeneration fun row =>
    { row with
      state := .generating
      claimedBy := some claim.workerId
      claimedAt := some claim.claimedAt
      updatedAt := claim.claimedAt }

/-- `_generation_fence`. -/
def generationFence
    (claim : ClaimedDispatch)
    (row : ExternalDispatch) : Bool :=
  row.organizationId == claim.organizationId && row.state == .generating &&
    row.claimedBy == some claim.workerId && row.claimedAt == some claim.claimedAt &&
    row.messageId.isNone

/-- `complete_generation`. -/
def completeGeneration
    (database : Database)
    (now : Instant)
    (claim : ClaimedDispatch)
    (messageId : Nat) : Option Database :=
  database.updateDispatchWhere claim.dispatchId (generationFence claim) fun row =>
    { row with
      state := .queued
      messageId := some messageId
      claimedBy := none
      claimedAt := none
      updatedAt := now }

/-- `fail_generation`. -/
def failGeneration
    (database : Database)
    (now : Instant)
    (claim : ClaimedDispatch)
    (error : String) : Option Database :=
  database.updateDispatchWhere claim.dispatchId (generationFence claim) fun row =>
    { row with
      state := .failed
      claimedBy := none
      claimedAt := none
      errorMessage := some error
      updatedAt := now }

/-- A `GENERATING` row whose claim is older than the cutoff, or has no time. -/
def generationLeaseExpired
    (cutoff : Instant)
    (row : ExternalDispatch) : Bool :=
  row.state == .generating && row.messageId.isNone &&
    row.claimedAt.all fun claimedAt => claimedAt < cutoff

/-- Return one expired row to the queue, if it still is expired. -/
def recoverExpiredGeneration
    (cutoff now : Instant)
    (database : Database)
    (key : Nat) : Option Database :=
  database.updateDispatchWhere key (generationLeaseExpired cutoff) fun row =>
    { row with state := .queued, claimedBy := none, claimedAt := none, updatedAt := now }

/-- Return candidates to the queue one after the other in one transaction. -/
def recoverExpiredGenerationRows (cutoff now : Instant) :
    Database → List Nat → List Nat × Database
  | database, [] => ([], database)
  | database, key :: keys =>
      match recoverExpiredGeneration cutoff now database key with
      | none => recoverExpiredGenerationRows cutoff now database keys
      | some updated =>
          let rest := recoverExpiredGenerationRows cutoff now updated keys
          (key :: rest.1, rest.2)

/-- `recover_expired_generations`, skipping locked rows. -/
def recoverExpiredGenerations
    (lease : Nat)
    (database : Database)
    (now : Instant)
    (locked : List Nat)
    (limit : Nat) : List Nat × Database :=
  let cutoff := now - lease * second
  let candidates :=
    (database.dispatches.keysWhere (generationLeaseExpired cutoff)).filter
      fun key => !locked.contains key
  recoverExpiredGenerationRows cutoff now database (candidates.take limit)

end Dispatch
end MailerAgent
