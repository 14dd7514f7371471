import MailerAgent.Foundation.Process
import MailerAgent.Dispatch.ExactMessage
import MailerAgent.Intake.Fingerprint
import MailerAgent.Mail.Threading

/-!
# Outreach requests

The two intake routes of `api/integrations.py` and `api/integrations_generated.py`
as one state machine per request. A request performs its lookup, up to two
get-or-create steps that commit on their own, and the final commit; every phase is
a point where other requests may commit in between. Payloads are what schema
validation hands to the handlers.
-/

namespace MailerAgent
namespace Intake

open Concurrent Relational Mail Dispatch

/-- `LeadBoostOutreachActionIn`. -/
structure ExactPayload where
  externalActionId : Option String := none
  idempotencyKey : String
  correlationId : Option String := none
  recipientEmail : String
  recipientName : Option String := none
  subject : Option String := none
  body : String
  deriving DecidableEq, Repr

/-- `LeadBoostOutreachRequestIn`. -/
structure GeneratedPayload where
  externalActionId : String
  idempotencyKey : String
  correlationId : Option String := none
  recipientEmail : String
  recipient : RecipientSnapshot := {}
  valueProposition : String
  recipientFacts : List String := []
  inReplyTo : Option String := none
  deriving DecidableEq, Repr

/-- The body of a request on either route. -/
inductive OutreachPayload where
  | exact (payload : ExactPayload)
  | generated (payload : GeneratedPayload)
  deriving DecidableEq, Repr

/-- A request with the organization of its API key. -/
structure OutreachRequest where
  organizationId : String
  payload : OutreachPayload
  deriving DecidableEq, Repr

namespace OutreachRequest

/-- The idempotency key of a request. -/
def idempotencyKey (request : OutreachRequest) : String :=
  match request.payload with
  | .exact payload => payload.idempotencyKey
  | .generated payload => payload.idempotencyKey

/-- The recipient of a request. -/
def recipientEmail (request : OutreachRequest) : String :=
  match request.payload with
  | .exact payload => payload.recipientEmail
  | .generated payload => payload.recipientEmail

/-- The name stored with a new contact. -/
def recipientName (request : OutreachRequest) : Option String :=
  match request.payload with
  | .exact payload => payload.recipientName
  | .generated payload => payload.recipient.name

/-- The message that a request replies to. -/
def inReplyTo (request : OutreachRequest) : Option String :=
  match request.payload with
  | .exact _ => none
  | .generated payload => payload.inReplyTo

/-- The fingerprint that a request is compared and stored under. -/
def fingerprint
    (services : Services)
    (request : OutreachRequest) : String :=
  match request.payload with
  | .exact payload =>
      computeRequestFingerprint services payload.externalActionId payload.recipientEmail
        payload.recipientName payload.subject payload.body
  | .generated payload =>
      computeGeneratedRequestFingerprint services payload.externalActionId
        payload.recipientEmail payload.inReplyTo

/-- The 409 detail for a key that was used by another request. -/
def conflictDetail (request : OutreachRequest) : String :=
  match request.payload with
  | .exact _ =>
      "idempotency_key has already been used with a different request " ++
        "payload. Use a new idempotency_key for a genuinely new action."
  | .generated _ =>
      "idempotency_key has already been used with a different request. " ++
        "Use a new idempotency_key for a genuinely new action."

end OutreachRequest

/-- `HTTPException`. -/
structure Rejection where
  status : Nat
  detail : String
  deriving DecidableEq, Repr

/-- What the caller is answered. -/
inductive Response where
  /-- 202 with `mailing_agent_reference`. -/
  | accepted (mailingAgentReference : String)
  | rejected (rejection : Rejection)
  | serverError
  deriving DecidableEq, Repr

/-! ## Lookups -/

/-- `_find_dispatch`. -/
def findDispatch
    (database : Database)
    (organization key : String) : Option Nat :=
  database.dispatches.firstWhere fun row =>
    row.organizationId == organization && row.idempotencyKey == key

/-- `_replay_or_conflict`. -/
def replayOrConflict
    (services : Services)
    (request : OutreachRequest)
    (existing : ExternalDispatch) : Response :=
  if existing.requestFingerprint = request.fingerprint services then
    .accepted existing.publicReference
  else .rejected ⟨409, request.conflictDetail⟩

/-- `_resolve_sole_active_mailbox`. -/
def resolveSoleActiveMailbox
    (database : Database)
    (organization : String) :
    Except Rejection Nat :=
  match (database.mailboxes.keysWhere fun mailbox =>
      mailbox.organizationId == organization && mailbox.status == .active).take 2 with
  | [] =>
      .error ⟨409,
        "No active mailbox is configured for this organization; nothing was queued."⟩
  | [mailbox] => .ok mailbox
  | _ =>
      .error ⟨409,
        "This organization has more than one active mailbox; exactly one " ++
          "is required for dispatch. Nothing was queued."⟩

/-- `LEADBOOST_INTEGRATION_SOURCE`. -/
def integrationSource : String := "leadboost"

/-- The query for the integration campaign of an organization. -/
def findIntegrationCampaign
    (database : Database)
    (organization : String) : Option Nat :=
  database.campaigns.firstWhere fun campaign =>
    campaign.organizationId == some organization &&
      campaign.integrationSource == some integrationSource

/-- The integration campaign that is inserted. -/
def integrationCampaign
    (settings : Settings)
    (organization : String) : Campaign where
  name := "LeadBoost Integration"
  organizationId := some organization
  integrationSource := some integrationSource
  senderName := settings.leadboostIntegrationSenderName
  senderOrg := settings.leadboostIntegrationSenderOrg
  senderEmail := settings.leadboostIntegrationSenderEmail
  valueProp :=
    "LeadBoost-authorized outreach -- every message sent under this " ++
      "campaign is authorized per action by LeadBoost (supplied verbatim, " ++
      "or generated from that action's own request-local context); this " ++
      "campaign's own value_prop is never used to draft or alter any " ++
      "message."
  followUpDays := []

/-- The query for the contact of a recipient. -/
def findIntegrationContact
    (database : Database)
    (campaign : Nat)
    (email : String) :
    Option Nat :=
  database.contacts.firstWhere fun contact =>
    contact.campaignId == campaign && contact.email == email

/-- The contact that is inserted. -/
def integrationContact
    (campaign : Nat)
    (email : String)
    (name : Option String) :
    Contact where
  campaignId := campaign
  name := name
  email := email
  status := .new
  nextActionAt := none

/-- `_reject_if_contact_has_active_followup`. -/
def rejectIfContactHasActiveFollowup (contact : Contact) : Except Rejection Unit :=
  if contact.nextActionAt.isSome then
    .error ⟨409,
      "This recipient already has an active, human-attended " ++
        "follow-up scheduled on the LeadBoost integration campaign " ++
        "(next_action_at is set). A new LeadBoost-authorized " ++
        "dispatch cannot be safely applied without risking a " ++
        "conflicting message to the same contact. No dispatch was " ++
        "created; next_action_at was not modified."⟩
  else .ok ()

/-! ## Replies -/

/-- The parent of a reply with the contact and campaign that it belongs to. -/
structure ReplyTarget where
  campaignId : Nat
  contactId : Nat
  snapshot : ReplyParent
  deriving DecidableEq, Repr

/-- The rows joined to a message by the parent query. -/
def replyParentVisible
    (database : Database)
    (organization reference : String)
    (message : Message) : Bool :=
  message.replyReference == some reference && message.direction == .inbound &&
    ((database.contacts.get message.contactId).bind database.organizationOf) ==
      some organization &&
    ((message.mailboxId.bind database.mailboxes.get).map Mailbox.organizationId) ==
      some organization

/-- `_real_message_id`. -/
def realMessageId (value : Option String) : Option String :=
  (usableMessageId value).filter fun usable => !isSyntheticId (some usable)

/-- `_reply_parent_snapshot`. -/
def replyParentSnapshot
    (key : Nat)
    (parent : Message) : Except Rejection ReplyParent :=
  let parentMessageId := realMessageId parent.messageIdHeader
  let parentInReplyTo := realMessageId parent.inReplyToHeader
  match parentMessageId.or parentInReplyTo with
  | none =>
      .error ⟨409, "The parent message has no usable Message-ID to thread a reply to."⟩
  | some threadTo =>
      let chain := (PyText.split (parent.referencesHeader.getD "")).filter fun id =>
        (realMessageId (some id)).isSome
      .ok
        { messageId := key
          subject := asReplySubject parent.subject
          inReplyToHeader := threadTo
          referencesHeader :=
            buildReferencesHeader chain parentInReplyTo parentMessageId }

/-- `_resolve_reply_parent` followed by the snapshot. -/
def resolveReplyParent
    (services : Services)
    (database : Database)
    (organization reference email : String) : Except Rejection ReplyTarget :=
  match database.messages.firstWhere (replyParentVisible database organization reference) with
  | none => .error ⟨404, "Reply parent message not found."⟩
  | some key =>
      match (database.messages.get key).bind fun message =>
          (database.contacts.get message.contactId).map fun contact =>
            (message, contact) with
      | none => .error ⟨404, "Reply parent message not found."⟩
      | some (message, contact) =>
          if !database.contactIsIntegrationManaged contact then
            .error ⟨409,
              "The parent message does not belong to a LeadBoost-managed contact."⟩
          else if services.lower (PyText.strip contact.email) ≠
              services.lower (PyText.strip email) then
            .error ⟨409, "recipient does not match the sender of the parent message."⟩
          else
            (rejectIfContactHasActiveFollowup contact).bind fun _ =>
              (replyParentSnapshot key message).map fun snapshot =>
                ⟨contact.campaignId, message.contactId, snapshot⟩

/-! ## Acceptance -/

/-- Where the rows of an accepted operation hang. -/
structure Placement where
  mailboxId : Nat
  campaignId : Nat
  contactId : Nat
  replyParent : Option ReplyParent := none
  deriving DecidableEq, Repr

/-- `_format_recipient_facts`. -/
def formatRecipientFacts (facts : List String) : Option String :=
  if facts = [] then none
  else some (String.intercalate "\n" (facts.map fun fact => "- " ++ fact))

/-- `GROUNDING_CONTEXT_VERSION`. -/
def groundingContextVersion : Nat := 2

/-- The write-once snapshot of a generated request. -/
def groundingSnapshot
    (services : Services)
    (database : Database)
    (payload : GeneratedPayload)
    (placement : Placement) : GroundingContext where
  version := groundingContextVersion
  valueProp := payload.valueProposition
  contextNotes := formatRecipientFacts payload.recipientFacts
  conversationTranscript :=
    some (services.buildConversationContext database placement.contactId)
  recipient := payload.recipient
  replyParent := placement.replyParent

/-- The dispatch row of a request; a generated one has no message yet. -/
def acceptedDispatch
    (services : Services)
    (database : Database)
    (request : OutreachRequest)
    (placement : Placement)
    (now : Instant)
    (messageId : Option Nat)
    (publicReference : String) : ExternalDispatch where
  organizationId := request.organizationId
  idempotencyKey := request.idempotencyKey
  externalActionId :=
    match request.payload with
    | .exact payload => payload.externalActionId
    | .generated payload => some payload.externalActionId
  correlationId :=
    match request.payload with
    | .exact payload => payload.correlationId
    | .generated payload => payload.correlationId
  campaignId := placement.campaignId
  contactId := placement.contactId
  messageId := messageId
  mailboxId := some placement.mailboxId
  requestFingerprint := request.fingerprint services
  groundingContext :=
    match request.payload with
    | .exact _ => none
    | .generated payload => some (groundingSnapshot services database payload placement)
  publicReference := publicReference
  state := .queued
  createdAt := now
  updatedAt := now

/-- How the statements of the final transaction end. -/
inductive Acceptance where
  | written (database : Database)
  /-- An integrity error of the commit, which the handler resolves. -/
  | conflict
  /-- An integrity error of the flush, which it does not. -/
  | flushFailed

/-- The final transaction before its commit. The exact route inserts the message
and the dispatch together. -/
def acceptOperation
    (services : Services)
    (database : Database)
    (request : OutreachRequest)
    (placement : Placement)
    (now : Instant)
    (replyReference publicReference : String) : Acceptance :=
  match request.payload with
  | .exact payload =>
      match database.insertMessage (createAuthorizedMessage placement.contactId
          payload.subject payload.body now replyReference) with
      | none => .flushFailed
      | some inserted =>
          match inserted.insertDispatch (acceptedDispatch services database request
              placement now (some database.messages.size) publicReference) with
          | none => .conflict
          | some updated => .written updated
  | .generated _ =>
      match database.insertDispatch (acceptedDispatch services database request
          placement now none publicReference) with
      | none => .conflict
      | some updated => .written updated

/-! ## The steps of a request -/

/-- Where the handler of a request stands. -/
inductive RequestPhase where
  /-- Nothing was received yet. -/
  | absent
  | received (request : OutreachRequest)
  | resolving (request : OutreachRequest)
  | choosingMailbox (request : OutreachRequest) (parent : Option ReplyTarget)
  | findingCampaign (request : OutreachRequest) (mailbox : Nat)
  | insertingCampaign (request : OutreachRequest) (mailbox : Nat)
  | rereadingCampaign (request : OutreachRequest) (mailbox : Nat)
  | findingContact (request : OutreachRequest) (mailbox campaign : Nat)
  | insertingContact (request : OutreachRequest) (mailbox campaign : Nat)
  | rereadingContact (request : OutreachRequest) (mailbox campaign : Nat)
  | accepting (request : OutreachRequest) (placement : Placement)
  | converging (request : OutreachRequest)
  | answered (request : OutreachRequest) (response : Response)
  deriving DecidableEq

/-- The request that a phase works on. -/
def RequestPhase.request : RequestPhase → Option OutreachRequest
  | absent => none
  | received request => some request
  | resolving request => some request
  | choosingMailbox request _ => some request
  | findingCampaign request _ => some request
  | insertingCampaign request _ => some request
  | rereadingCampaign request _ => some request
  | findingContact request _ _ => some request
  | insertingContact request _ _ => some request
  | rereadingContact request _ _ => some request
  | accepting request _ => some request
  | converging request => some request
  | answered request _ => some request

/-- The answer of a request, once it has one. -/
def RequestPhase.response : RequestPhase → Option Response
  | answered _ response => some response
  | _ => none

/-- A request that is not answered yet. -/
def RequestPhase.pending (phase : RequestPhase) : Option OutreachRequest :=
  if phase.response.isSome then none else phase.request

/-- What the handler of a request meets next. -/
inductive RequestChoice where
  | receive (request : OutreachRequest)
  | read
  | commit (outcome : CommitOutcome) (replyReference publicReference : String)
  | databaseError

/-- Result of a step of a request. -/
structure RequestMove where
  database : Database
  phase : RequestPhase

/-- Continue with a value, or answer with the rejection that was raised. -/
def orAnswer
    (request : OutreachRequest)
    (result : Except Rejection α)
    (continuation : α → RequestPhase) : RequestPhase :=
  match result with
  | .ok value => continuation value
  | .error rejection => .answered request (.rejected rejection)

/-- The idempotency lookup. -/
def lookup
    (services : Services)
    (database : Database)
    (request : OutreachRequest) :
    RequestPhase :=
  match (findDispatch database request.organizationId request.idempotencyKey).bind
      database.dispatches.get with
  | some existing => .answered request (replayOrConflict services request existing)
  | none =>
      if request.inReplyTo.isSome then .resolving request
      else .choosingMailbox request none

/-- The re-read after a lost race; a missing winner raises again. -/
def converge
    (services : Services)
    (database : Database)
    (request : OutreachRequest) :
    RequestPhase :=
  match (findDispatch database request.organizationId request.idempotencyKey).bind
      database.dispatches.get with
  | some winner => .answered request (replayOrConflict services request winner)
  | none => .answered request .serverError

/-- The mailbox is resolved before any row is created; a reply then uses the rows
of its parent. -/
def chooseMailbox
    (database : Database)
    (request : OutreachRequest)
    (parent : Option ReplyTarget) : RequestPhase :=
  orAnswer request (resolveSoleActiveMailbox database request.organizationId)
    fun mailbox =>
      match parent with
      | none => .findingCampaign request mailbox
      | some target =>
          .accepting request
            ⟨mailbox, target.campaignId, target.contactId, some target.snapshot⟩

/-- First query of `_get_or_create_integration_campaign`. -/
def findCampaign
    (settings : Settings)
    (database : Database)
    (request : OutreachRequest)
    (mailbox : Nat) : RequestPhase :=
  match findIntegrationCampaign database request.organizationId with
  | some campaign => .findingContact request mailbox campaign
  | none =>
      if settings.leadboostIntegrationSenderEmail = "" then
        .answered request (.rejected ⟨503,
          "LeadBoost integration is not configured on this Mailer Agent " ++
            "deployment (missing sender identity). Contact the operator."⟩)
      else .insertingCampaign request mailbox

/-- A contact that was found and not just created. -/
def reuseContact
    (database : Database)
    (request : OutreachRequest)
    (mailbox campaign contact : Nat) : RequestPhase :=
  match database.contacts.get contact with
  | none => .answered request .serverError
  | some row =>
      orAnswer request (rejectIfContactHasActiveFollowup row) fun _ =>
        .accepting request ⟨mailbox, campaign, contact, none⟩

/-- One step of the handler of a request. -/
def requestStep
    (deployment : Deployment)
    (database : Database)
    (clock : Instant) :
    RequestPhase → RequestChoice → Option RequestMove
  | .absent, .receive request => some ⟨database, .received request⟩
  | .received request, .read =>
      some ⟨database, lookup deployment.services database request⟩
  | .resolving request, .read =>
      request.inReplyTo.map fun reference =>
        ⟨database, orAnswer request
          (resolveReplyParent deployment.services database request.organizationId
            reference request.recipientEmail)
          fun target => .choosingMailbox request (some target)⟩
  | .choosingMailbox request parent, .read =>
      some ⟨database, chooseMailbox database request parent⟩
  | .findingCampaign request mailbox, .read =>
      some ⟨database, findCampaign deployment.settings database request mailbox⟩
  | .insertingCampaign request mailbox, .commit outcome _ _ =>
      match database.insertCampaign
          (integrationCampaign deployment.settings request.organizationId) with
      | none => some ⟨database, .rereadingCampaign request mailbox⟩
      | some updated =>
          some ⟨outcome.store database updated,
            if outcome.reported then
              .findingContact request mailbox database.campaigns.size
            else .answered request .serverError⟩
  | .rereadingCampaign request mailbox, .read =>
      some ⟨database,
        match findIntegrationCampaign database request.organizationId with
        | some campaign => .findingContact request mailbox campaign
        | none => .answered request .serverError⟩
  | .findingContact request mailbox campaign, .read =>
      some ⟨database,
        match findIntegrationContact database campaign request.recipientEmail with
        | some contact => reuseContact database request mailbox campaign contact
        | none => .insertingContact request mailbox campaign⟩
  | .insertingContact request mailbox campaign, .commit outcome _ _ =>
      match database.insertContact
          (integrationContact campaign request.recipientEmail request.recipientName) with
      | none => some ⟨database, .rereadingContact request mailbox campaign⟩
      | some updated =>
          some ⟨outcome.store database updated,
            if outcome.reported then
              .accepting request ⟨mailbox, campaign, database.contacts.size, none⟩
            else .answered request .serverError⟩
  | .rereadingContact request mailbox campaign, .read =>
      some ⟨database,
        match findIntegrationContact database campaign request.recipientEmail with
        | some contact => reuseContact database request mailbox campaign contact
        | none => .answered request .serverError⟩
  | .accepting request placement, .commit outcome replyReference publicReference =>
      match acceptOperation deployment.services database request placement clock
          replyReference publicReference with
      | .flushFailed => some ⟨database, .answered request .serverError⟩
      | .conflict => some ⟨database, .converging request⟩
      | .written updated =>
          some ⟨outcome.store database updated,
            if outcome.reported then .answered request (.accepted publicReference)
            else .answered request .serverError⟩
  | .converging request, .read =>
      some ⟨database, converge deployment.services database request⟩
  | phase, .databaseError =>
      phase.pending.map fun request => ⟨database, .answered request .serverError⟩
  | _, _ => none

end Intake
end MailerAgent
