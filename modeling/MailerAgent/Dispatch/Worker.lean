import MailerAgent.Dispatch.Claiming
import MailerAgent.Dispatch.ExactMessage
import MailerAgent.Mail.Calls

/-!
# The dispatch worker

The transactions of `mail/external_dispatch_worker.py`. Transaction B claims a
row, evaluates the gates and either records a refusal or makes `SENDING` with its
Message-ID durable; its reads and its commit are separate steps, so that other
transactions may commit in between. The process-local runtime only decides what a
shutdown waits for.
-/

namespace MailerAgent
namespace Dispatch

open Relational Mail

/-! ## The runtime of one process -/

/-- `DispatchRuntime`. The in-flight dictionary keeps one claim per dispatch. -/
structure DispatchRuntime where
  inflight : List ClaimedDispatch := []
  claimAttempts : Nat := 0
  stopping : Bool := false
  deriving DecidableEq, Repr

namespace DispatchRuntime

/-- `request_shutdown`. -/
def requestShutdown (runtime : DispatchRuntime) : DispatchRuntime :=
  { runtime with stopping := true }

/-- `begin_claim_attempt`; `none` is a refused attempt. -/
def beginClaimAttempt (runtime : DispatchRuntime) : Option DispatchRuntime :=
  if runtime.stopping then none
  else some { runtime with claimAttempts := runtime.claimAttempts + 1 }

/-- `end_claim_attempt`; `none` is the `RuntimeError`. -/
def endClaimAttempt (runtime : DispatchRuntime) : Option DispatchRuntime :=
  if runtime.claimAttempts = 0 then none
  else some { runtime with claimAttempts := runtime.claimAttempts - 1 }

/-- `register`. -/
def register
    (runtime : DispatchRuntime)
    (claim : ClaimedDispatch) : DispatchRuntime :=
  { runtime with
    inflight := runtime.inflight.filter (fun held => held.dispatchId != claim.dispatchId) ++
      [claim] }

/-- `register_claim_attempt`; `none` is the `RuntimeError`. -/
def registerClaimAttempt
    (runtime : DispatchRuntime)
    (claim : ClaimedDispatch) :
    Option DispatchRuntime :=
  if runtime.claimAttempts = 0 then none
  else
    let registered := runtime.register claim
    some { registered with claimAttempts := runtime.claimAttempts - 1 }

/-- `unregister`. -/
def unregister
    (runtime : DispatchRuntime)
    (dispatchId : Nat) : DispatchRuntime :=
  { runtime with
    inflight := runtime.inflight.filter fun held => held.dispatchId != dispatchId }

/-- `resume_if_idle`. -/
def resumeIfIdle (runtime : DispatchRuntime) : DispatchRuntime :=
  if runtime.inflight.isEmpty && runtime.claimAttempts == 0 then
    { runtime with stopping := false }
  else runtime

end DispatchRuntime

/-! ## Transaction B -/

/-- Ways in which the gates of Transaction B stop a send. -/
inductive GateExit where
  /-- `_Gate`: a deterministic refusal, recorded as `FAILED`. -/
  | refused (reason : String)
  /-- `_Deferred`: shutdown was requested; the row stays queued. -/
  | deferred
  /-- `_Unavailable`: credentials cannot be decrypted here; the row stays queued. -/
  | unavailable (text : String)
  deriving DecidableEq, Repr

/-- What the gates read for one dispatch. -/
structure LoadedDispatch where
  row : ExternalDispatch
  campaign : Campaign
  contact : Contact
  messageKey : Nat
  message : Message
  deriving DecidableEq, Repr

/-- `_load_tenant_scoped`: campaign, contact and message belong together and to
the organization of the dispatch. -/
def loadTenantScoped
    (database : Database)
    (row : ExternalDispatch) :
    Except GateExit LoadedDispatch :=
  match database.campaigns.get row.campaignId with
  | none => .error (.refused "tenant_mismatch: campaign not found for this organization")
  | some campaign =>
      if campaign.organizationId ≠ some row.organizationId then
        .error (.refused "tenant_mismatch: campaign not found for this organization")
      else
        match database.contacts.get row.contactId with
        | none =>
            .error (.refused
              "tenant_mismatch: contact does not belong to the dispatch's campaign")
        | some contact =>
            if contact.campaignId ≠ row.campaignId then
              .error (.refused
                "tenant_mismatch: contact does not belong to the dispatch's campaign")
            else
              match row.messageId.bind fun key =>
                  (database.messages.get key).map fun message => (key, message) with
              | none =>
                  .error (.refused
                    "tenant_mismatch: message does not belong to the dispatch's contact")
              | some (key, message) =>
                  if message.contactId ≠ row.contactId then
                    .error (.refused
                      "tenant_mismatch: message does not belong to the dispatch's contact")
                  else .ok ⟨row, campaign, contact, key, message⟩

/-- `_load_active_mailbox`. -/
def loadActiveMailbox
    (database : Database)
    (row : ExternalDispatch) :
    Except GateExit Mailbox :=
  match row.mailboxId with
  | none => .error (.refused "no_mailbox: dispatch has no mailbox; not sent")
  | some key =>
      match database.mailboxes.get key with
      | none => .error (.refused "tenant_mismatch: mailbox not found for this organization")
      | some mailbox =>
          if mailbox.organizationId ≠ row.organizationId then
            .error (.refused "tenant_mismatch: mailbox not found for this organization")
          else if mailbox.status ≠ .active then
            .error (.refused "mailbox_disabled: mailbox is not ACTIVE; not sent")
          else .ok mailbox

/-- `_smtp_config_for`. -/
def smtpConfigFor
    (services : Services)
    (mailbox : Mailbox) :
    Except GateExit SmtpConfig :=
  match services.decryptSecret mailbox.smtpPasswordEnc with
  | .encryptionUnavailable text => .error (.unavailable text)
  | .undecryptable =>
      .error (.refused ("mailbox_credentials_undecryptable: stored SMTP credential " ++
        "cannot be decrypted with the configured key; not sent"))
  | .plaintext password =>
      .ok
        { host := mailbox.smtpHost
          port := mailbox.smtpPort
          useTls := mailbox.smtpUseTls
          username := mailbox.smtpUsername
          password := password }

/-- Raise a text of the exact-message boundary as a refusal. -/
def wired (result : Except String α) : Except GateExit α :=
  match result with
  | .ok value => .ok value
  | .error text => .error (.refused ("wiring_error: " ++ text))

/-- Raise an exception that is not one of the gates' own. -/
def internalError (result : Except String α) : Except GateExit α :=
  match result with
  | .ok value => .ok value
  | .error text =>
      .error (.refused ("internal_error_before_send: ExactMessageError: " ++ text))

/-- `if condition: raise`. -/
def raiseWhen
    (condition : Bool)
    (exit : GateExit) : Except GateExit Unit :=
  if condition then .error exit else .ok ()

/-- What Transaction B commits and hands to the sender. -/
structure ReadySend where
  contactId : Nat
  messageKey : Nat
  messageId : String
  arguments : SendEmailArguments
  deriving DecidableEq, Repr

/-- The gates between the claim and the commit of Transaction B, in order. -/
def evaluateGates
    (settings : Settings)
    (services : Services)
    (makeMsgid : String → String)
    (stopping : Bool)
    (database : Database)
    (row : ExternalDispatch) : Except GateExit ReadySend := do
  let loaded ← loadTenantScoped database row
  let input ← wired (buildExactSendInput loaded.messageKey loaded.message row.contactId
    loaded.contact row.campaignId loaded.campaign)
  let mailbox ← loadActiveMailbox database row
  raiseWhen (database.isEmailSuppressed loaded.contact.email none)
    (.refused "suppressed: recipient is on the suppression list; not sent")
  let grounding ← internalError (evaluateExactMessageGrounding services loaded.messageKey
    loaded.message row.contactId loaded.contact row.campaignId loaded.campaign
    row.groundingContext)
  raiseWhen grounding.blocked
    (.refused (grounding.errorMessage.getD "grounding hard block; not sent"))
  raiseWhen (!settings.liveSendingEnabled)
    (.refused ("live_sending_disabled: LIVE_SENDING_ENABLED is not true; " ++
      "the message was NOT sent"))
  let smtpConfig ← smtpConfigFor services mailbox
  let messageId := generateMessageId makeMsgid mailbox.emailAddress
  raiseWhen stopping .deferred
  return {
    contactId := row.contactId
    messageKey := loaded.messageKey
    messageId := messageId
    arguments :=
      { { input with fromEmail := mailbox.emailAddress }.asSendEmailKwargs with
        smtpConfig := some smtpConfig
        messageIdHeader := some messageId } }

/-- The committed effect of a successful Transaction B. -/
def commitPrepared
    (database : Database)
    (claim : ClaimedDispatch)
    (ready : ReadySend) : Option Database :=
  (guardedSendClaim database claim).bind fun claimed =>
    claimed.updateMessage ready.messageKey fun message =>
      { message with messageIdHeader := some ready.messageId, status := .sending }

/-- The committed effect of `_fail_in_b`. -/
def commitRefusal
    (database : Database)
    (now : Instant)
    (claim : ClaimedDispatch)
    (reason : String) : Option Database :=
  (guardedSendClaim database claim).bind fun claimed =>
    finishExternalDispatch claimed now claim .failed (some reason)

/-! ## SMTP and Transaction C -/

/-- `outcome.value`. -/
def outcomeValue : SendOutcome → String
  | .sent => "sent"
  | .failed => "failed"
  | .unknown => "unknown"

/-- The outcome that `_execute_and_finalize` records: an exception is ambiguous. -/
def observedOutcome : SendReport → SendOutcome
  | .returned result => result.outcome
  | .raised _ => .unknown

/-- The error text that a call leaves. -/
def smtpError : SendReport → Option String
  | .returned result => result.error
  | .raised text => some ("send_email raised " ++ text)

/-- The error recorded with the outcome. -/
def recordedError (report : SendReport) : Option String :=
  if observedOutcome report = .sent then none
  else some ((truthy (smtpError report)).getD
    ("smtp outcome " ++ outcomeValue (observedOutcome report)))

/-- The note that `_annotate_late_outcome` leaves. -/
def lateOutcomeNote
    (claim : ClaimedDispatch)
    (messageId : String)
    (report : SendReport) : String :=
  "late_outcome_after_lease_loss: worker " ++ claim.workerId ++
    " observed SMTP outcome=" ++ outcomeValue (observedOutcome report) ++
    " message_id=" ++ messageId ++
    ((truthy (smtpError report)).map fun error => " error=" ++ error).getD "" ++
    "; state intentionally not changed"

/-- The reason recorded by a shutdown. -/
def shutdownReason : String :=
  "worker_shutdown: this worker was stopped while the dispatch was SENDING and it " ++
    "did not finish within the drain window. Whether SMTP accepted the message is " ++
    "unknown; it will NOT be retried automatically."

/-- `_TXN_C_ATTEMPTS`. -/
def transactionCAttempts : Nat := 3

end Dispatch
end MailerAgent
