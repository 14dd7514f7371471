import MailerAgent.Native.Outreach

/-!
# Inbound messages

`mail/reply_handler_v2.py`: correlation of an inbound message with a contact, the
classification of its meaning and what follows from it, for the webhook and the
legacy poll on one side and for polled mailboxes on the other.
-/

namespace MailerAgent
namespace Native

open Relational Mail Program

/-- The `action` of a matched message. -/
inductive InboundAction where
  | skippedDuplicate
  | needsReviewClassificationFailed
  | needsReviewMissingIntent
  | suppressed
  | closedLost
  | ignoredOos
  | recordedIntegrationManaged
  | replyNeedsManualDraft
  | autoReply (outcome : SendOutcome)
  | replyDraftedAwaitingApproval
  deriving DecidableEq, Repr

/-- Why a message was not attached to a contact. -/
inductive UnmatchedReason where
  | noMatch
  | ambiguous
  deriving DecidableEq, Repr

/-- The stored text of a reason. -/
def UnmatchedReason.value : UnmatchedReason → String
  | noMatch => "no_match"
  | ambiguous => "ambiguous"

/-- The result of an inbound handler. -/
inductive InboundResult where
  | unmatched (reason : UnmatchedReason)
  | matched (contactId : Nat) (action : InboundAction)
  deriving DecidableEq, Repr

/-! ## Effects of a classified message -/

/-- `_handle_unsubscribe`. -/
def handleUnsubscribe
    (key : Nat)
    (contact : Contact) : Program Contact := do
  let organization ← query fun view => view.organizationOf contact
  let existing ← query fun view => view.suppressions.existsWhere fun entry =>
    entry.email == contact.email && entry.organizationId == organization
  if !existing then
    stage (.insertSuppression
      { email := contact.email
        organizationId := organization
        reason := some "unsubscribed" })
  let (contact, _) ← transitionContactState key contact .unsubscribed
  assign key contact { nextActionAt := some none }

/-- The end of `_handle_unsubscribe`. -/
def leaveCadence
    (key : Nat)
    (contact : Contact) : Program Contact := do
  let (contact, _) ← transitionContactState key contact .unsubscribed
  assign key contact { nextActionAt := some none }

/-- The promotion of a new contact to which something really was sent. -/
def promoteIfSent
    (key : Nat)
    (contact : Contact) : Program Contact :=
  if contact.status = .new then do
    let sent ← query fun view => view.messages.existsWhere fun message =>
      message.contactId == key && message.direction == .outbound && message.status == .sent
    if sent then do
      let (contact, _) ← transitionContactState key contact .initialSent
      pure contact
    else pure contact
  else pure contact

/-- `_advance_integration_contact`. -/
def advanceIntegrationContact
    (key : Nat)
    (contact : Contact)
    (event : StateTransitionEvent) :
    Program Contact := do
  let contact ← promoteIfSent key contact
  let (contact, moved) ← transitionContactState key contact event
  if moved then pure contact
  else do
    let (contact, replied) ← transitionContactState key contact .replyReceived
    if replied then do
      let (contact, _) ← transitionContactState key contact event
      pure contact
    else pure contact

/-- The contact after an automatic reply. -/
def afterAutomaticReply
    (key : Nat)
    (contact : Contact)
    (result : SendResult) :
    Program Contact :=
  if result.success then do
    let sentAt ← utcnow
    assign key contact { lastOutboundAt := some sentAt }
  else if result.outcome = .unknown then escalateUnknown key contact
  else pure contact

/-- The reply to an inbound message, before it is sent. -/
def replyMessage
    (key : Nat)
    (email : InboundEmail)
    (plan : ReplyPlan)
    (draft : Draft) :
    Message where
  contactId := key
  direction := .outbound
  messageType := some (if plan.closing then .closing else .reply)
  subject := some (asReplySubject (some email.subject))
  body := draft.body
  status := .draft
  inReplyToHeader := email.messageId
  referencesHeader :=
    buildReferencesHeader email.references email.inReplyTo email.messageId

/-- The part of `_draft_and_maybe_send_reply` that follows the draft. -/
def sendOrHoldReply
    (deployment : Deployment)
    (key : Nat)
    (contact : Contact)
    (campaign : Campaign)
    (email : InboundEmail)
    (plan : ReplyPlan)
    (draft : Draft) : Program InboundAction := do
  let suppressed ← query fun view =>
    view.isEmailSuppressed contact.email campaign.organizationId
  let reply := replyMessage key email plan draft
  if deployment.settings.autoReplyEnabled && plan.eligible && !groundingBlocked draft &&
      !suppressed then do
    let result ← sendEmail deployment.settings .automaticReply key
      { toEmail := contact.email
        fromEmail := campaign.senderEmail
        fromName := campaign.senderName
        subject := asReplySubject (some email.subject)
        bodyText := draft.body
        replyTo := campaign.replyToEmail
        inReplyToHeader := reply.inReplyToHeader
        referencesHeader := reply.referencesHeader }
    let _ ← afterAutomaticReply key contact result
    addMessage
      { reply with
        status := sentStatus result.outcome
        messageIdHeader := result.messageId
        errorMessage := result.error }
    pure (.autoReply result.outcome)
  else do
    addMessage reply
    pure .replyDraftedAwaitingApproval

/-- `_draft_and_maybe_send_reply`. -/
def draftAndMaybeSendReply
    (deployment : Deployment)
    (key : Nat)
    (contact : Contact)
    (campaign : Campaign)
    (email : InboundEmail)
    (intent : SemanticIntent) : Program InboundAction := do
  begin
  match ← ask (.planReply key intent) with
  | .error name => raise (.raised name)
  | .ok plan =>
      match ← ask (.draftMessage key (if plan.closing then .closing else .reply)) with
      | .raised name => raise (.raised name)
      | .contextualFallbackUnavailable => do
          let _ ← transitionContactState key contact .needsHuman
          pure .replyNeedsManualDraft
      | .drafted draft => sendOrHoldReply deployment key contact campaign email plan draft

/-- A regular reply of a native contact. -/
def continueConversation
    (deployment : Deployment)
    (key : Nat)
    (contact : Contact)
    (campaign : Option Campaign)
    (email : InboundEmail)
    (intent : SemanticIntent) : Program InboundAction := do
  let (contact, _) ←
    transitionContactState key contact (inferEventFromSemanticIntent intent)
  let campaign ← required campaign
  let now ← utcnow
  let next ← ofExcept (rescheduleAfterReply now campaign intent)
  let contact ← assign key contact { nextActionAt := some next }
  draftAndMaybeSendReply deployment key contact campaign email intent

/-- The branches of a successful classification. -/
def applyIntent
    (deployment : Deployment)
    (key : Nat)
    (contact : Contact)
    (campaign : Option Campaign)
    (email : InboundEmail)
    (intent : SemanticIntent) : Program InboundAction :=
  if .unsubscribe ∈ intent.intents then do
    let _ ← handleUnsubscribe key contact
    pure .suppressed
  else if .notInterested ∈ intent.intents then do
    let (contact, _) ← transitionContactState key contact .notInterested
    let _ ← assign key contact { nextActionAt := some none }
    pure .closedLost
  else if .outOfOffice ∈ intent.intents then pure .ignoredOos
  else if campaignIsIntegrationManaged campaign then do
    let contact ← advanceIntegrationContact key contact
      (inferEventFromSemanticIntent intent)
    let _ ← assign key contact { nextActionAt := some none }
    pure .recordedIntegrationManaged
  else continueConversation deployment key contact campaign email intent

/-- What the handler writes on the message. -/
def interpretationOf (classified : ClassificationResult) : Interpretation :=
  match classified.success, classified.semanticIntent with
  | true, some intent =>
      { success := true
        detectedIntent := (intent.intents.head?.map IntentType.value).getD "neutral"
        semanticAnalysis := some intent }
  | success, _ =>
      { success := success
        detectedIntent := "unknown"
        failureReason := some
          ((classified.failureReason.map ClassificationFailureReason.value).getD "unknown") }

/-- What the handler writes on the message and on the contact's buying stage. -/
def recordClassification
    (key : Nat)
    (contact : Contact)
    (reference : String)
    (classified : ClassificationResult) : Program Contact := do
  stage (.interpretMessage key reference (interpretationOf classified))
  match classified.success, classified.semanticIntent with
  | true, some intent => assign key contact { buyingStage := some intent.buyingStage }
  | _, _ => pure contact

/-- The branches on the classification. -/
def applyClassification
    (deployment : Deployment)
    (key : Nat)
    (contact : Contact)
    (campaign : Option Campaign)
    (email : InboundEmail)
    (classified : ClassificationResult) : Program InboundAction :=
  if !classified.success then do
    let (contact, _) ← transitionContactState key contact .needsHuman
    let _ ← assign key contact { nextActionAt := some none }
    pure .needsReviewClassificationFailed
  else
    match classified.semanticIntent with
    | none => do
        let _ ← transitionContactState key contact .needsHuman
        pure .needsReviewMissingIntent
    | some intent => applyIntent deployment key contact campaign email intent

/-- `_classify_and_apply_inbound`; the inbound message is named by its public
handle. -/
def classifyAndApplyInbound
    (deployment : Deployment)
    (key : Nat)
    (contact : Contact)
    (campaign : Option Campaign)
    (email : InboundEmail)
    (reference : String) : Program InboundAction := do
  let repliedAt ← utcnow
  let contact ← assign key contact { lastReplyAt := some repliedAt }
  let messages ← query (conversation key)
  match ← ask (.classify key email.bodyText email.autoSubmitted) with
  | .error name => raise (.raised name)
  | .ok classified => do
      let contact ← recordClassification key contact reference classified
      let action ← applyClassification deployment key contact campaign email classified
      flush
      maybeSummarizeOlderMessages key contact messages
      pure action

/-! ## The webhook and the legacy poll -/

/-- `_scope_messages_to_org`. -/
def inOrganization
    (view : Database)
    (organization : Option String)
    (message : Message) :
    Bool :=
  organization.all fun org =>
    (view.contacts.get message.contactId).any fun contact =>
      view.organizationOf contact == some org

/-- The inbound message with a Message-ID, as far as the tenant sees it. -/
def findDuplicate
    (organization messageId : Option String)
    (view : Database) : Option (Nat × Message) :=
  (view.messages.firstWhere fun message =>
      message.messageIdHeader == messageId && message.direction == .inbound &&
        inOrganization view organization message).bind fun key =>
    (view.messages.get key).map fun message => (key, message)

/-- The identifiers that refer to earlier messages of the thread. -/
def threadReferences (email : InboundEmail) : List String :=
  (truthy email.inReplyTo).toList ++ email.references

/-- `_find_contact_by_message_id`: the contact of the newest message referred to. -/
def findContactByMessageId
    (organization : Option String)
    (email : InboundEmail)
    (view : Database) : Option Nat :=
  let referred := ((view.messages.keysWhere fun message =>
      message.messageIdHeader.any (fun header => (threadReferences email).contains header) &&
        inOrganization view organization message).filterMap view.messages.get)
  (referred.insertionSort fun first second => second.createdAt ≤ first.createdAt).head?.map
    Message.contactId

/-- The candidates of `_find_contact_by_email`. -/
def contactsByEmail
    (organization : Option String)
    (email : InboundEmail)
    (view : Database) : List Nat :=
  view.contacts.keysWhere fun contact =>
    contact.email == email.fromEmail && contact.status != .suppressed &&
      (organization.all fun org => view.organizationOf contact == some org) &&
      ((truthy email.toEmail).all fun inbox =>
        (view.campaignOf contact).any fun campaign => campaign.senderEmail == inbox)

/-- `_find_contact_by_email`: with a known inbox the most recently updated
candidate, otherwise the only one. -/
def findContactByEmail
    (organization : Option String)
    (email : InboundEmail)
    (view : Database) : Option Nat :=
  let candidates := contactsByEmail organization email view
  if (truthy email.toEmail).isSome then
    (candidates.insertionSort fun first second =>
      ((view.contacts.get second).map Contact.updatedAt).getD 0 ≤
        ((view.contacts.get first).map Contact.updatedAt).getD 0).head?
  else
    match candidates with
    | [only] => some only
    | _ => none

/-- The inbound row of a correlated message. -/
def inboundMessage
    (contactId : Nat)
    (mailboxId : Option Nat)
    (identity : Option String)
    (email : InboundEmail)
    (createdAt : Instant)
    (reference : String) : Message where
  contactId := contactId
  direction := .inbound
  subject := some email.subject
  body := email.bodyText
  status := .received
  messageIdHeader := identity
  inReplyToHeader := email.inReplyTo
  referencesHeader := referencesText email.references
  mailboxId := mailboxId
  createdAt := createdAt
  replyReference := some reference

/-- The answer to a message whose insertion lost a race. -/
def lostRace
    (organization : Option String)
    (contactId : Nat) :
    Option (Nat × Message) → InboundResult
  | some (_, existing) => .matched existing.contactId .skippedDuplicate
  | none =>
      if organization.isSome then .unmatched .noMatch
      else .matched contactId .skippedDuplicate

/-- A correlated message of the webhook or the legacy poll. -/
def receiveCorrelated
    (deployment : Deployment)
    (organization : Option String)
    (email : InboundEmail)
    (key : Nat) : Program InboundResult := do
  let contact ← required (← loadContact key)
  let campaign ← loadCampaign contact
  let reference ← ask .newReference
  let createdAt ← utcnow
  stage (.insertMessage (inboundMessage key none email.messageId email createdAt reference))
  match ← attempt flush with
  | .error .integrity => do
      rollback
      let existing ← query (findDuplicate organization email.messageId)
      pure (lostRace organization key existing)
  | .error failure => raise failure
  | .ok _ => do
      let action ← classifyAndApplyInbound deployment key contact campaign email reference
      pure (.matched key action)

/-- Correlation by thread, or by sender when the message names no thread. -/
def correlate
    (organization : Option String)
    (email : InboundEmail) :
    Program (Option Nat) := do
  let byThread ←
    if threadReferences email = [] then pure none
    else query (findContactByMessageId organization email)
  if byThread.isSome || !(threadReferences email).isEmpty then pure byThread
  else query (findContactByEmail organization email)

/-- `process_inbound_email_v2` once it is known whether the message is a duplicate. -/
def receiveUnlessDuplicate
    (deployment : Deployment)
    (organization : Option String)
    (email : InboundEmail) : Option (Nat × Message) → Program InboundResult
  | some (_, message) => pure (.matched message.contactId .skippedDuplicate)
  | none => do
      match ← correlate organization email with
      | none => pure (.unmatched .noMatch)
      | some key => receiveCorrelated deployment organization email key

/-- `process_inbound_email_v2`. -/
def processInboundEmailV2
    (deployment : Deployment)
    (received : InboundEmail)
    (organization : Option String) : Program InboundResult := do
  let email := received.normalized
  let existing ←
    if (truthy email.messageId).isSome then query (findDuplicate organization email.messageId)
    else pure none
  receiveUnlessDuplicate deployment organization email existing

/-- `poll_replies_job`. -/
def pollRepliesJob (deployment : Deployment) : Program Unit := do
  let emails ← ask .fetchUnseenReplies
  if emails.isEmpty then return
  sessionScope do
    forEach emails fun email => do
      let _ ← attempt (processInboundEmailV2 deployment email none)

/-- `receive_inbound_email` on the parsed payload. -/
def receiveInboundEmail
    (deployment : Deployment)
    (organization : String)
    (payload : InboundEmail) : Program InboundResult :=
  session do
    let email := { payload with
      fromEmail := deployment.services.lower (PyText.strip payload.fromEmail) }
    let result ← processInboundEmailV2 deployment email (some organization)
    commit
    pure result

end Native
end MailerAgent
