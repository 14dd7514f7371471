import MailerAgent.Native.Lifecycle
import Mathlib.Data.List.Sort

/-!
# Initial outreach and follow-ups

The sending functions of `followup/engine_v2.py`, the claims of
`followup/work_claiming.py` on contacts, and the scheduler jobs that call them.
-/

namespace MailerAgent
namespace Native

open Relational Mail Program

/-! ## Contacts and their conversation -/

/-- `contact.campaign`. -/
def loadCampaign (contact : Contact) : Program (Option Campaign) :=
  query fun view => view.campaignOf contact

/-- `campaign_is_integration_managed`. -/
def campaignIsIntegrationManaged (campaign : Option Campaign) : Bool :=
  campaign.any fun row => row.integrationSource.isSome

/-- An attribute of an object that may be absent. -/
def required (value : Option α) : Program α :=
  match value with
  | some present => pure present
  | none => raise (.raised "AttributeError")

/-- `contact.messages`, ordered by creation time. -/
def conversation
    (contactId : Nat)
    (view : Database) : List Message :=
  ((view.messages.keysWhere fun message => message.contactId == contactId).filterMap
    view.messages.get).insertionSort fun first second => first.createdAt ≤ second.createdAt

/-- `transition_contact_state`: the contact after it, and whether an edge was
taken. -/
def transitionContactState
    (key : Nat)
    (contact : Contact)
    (event : StateTransitionEvent) :
    Program (Contact × Bool) :=
  match stateTransition contact.status event with
  | none => pure (contact, false)
  | some status => do
      let moved ← assign key contact { status := some status }
      pure (moved, true)

/-- Add a message object; creation time and public handle are column defaults. -/
def addMessage (message : Message) : Program Unit := do
  let now ← utcnow
  let reference ← ask .newReference
  stage (.insertMessage { message with createdAt := now, replyReference := some reference })

/-- `_conversational_evidence`. -/
def conversationalEvidence (messages : List Message) : List Message :=
  messages.filter fun message =>
    message.direction == .inbound || message.status == .sent

/-- `RECENT_MESSAGES_VERBATIM`. -/
def recentMessagesVerbatim : Nat := 6

/-- `SUMMARIZE_THRESHOLD`. -/
def summarizeThreshold : Nat := 8

/-- `maybe_summarize_older_messages` on the messages loaded with the contact. -/
def maybeSummarizeOlderMessages
    (key : Nat)
    (contact : Contact)
    (messages : List Message) :
    Program Unit :=
  let evidence := conversationalEvidence messages
  if evidence.length ≤ summarizeThreshold then pure ()
  else do
    let older := evidence.take (evidence.length - recentMessagesVerbatim)
    match ← ask (.summarize key older) with
    | .summarized text =>
        let _ ← assign key contact { memorySummary := some text }
        flush
    | .unavailable => pure ()
    | .raised name => raise (.raised name)

/-- A draft of `draft_message`, which raises here when there is none. -/
def draftMessage
    (contactId : Nat)
    (action : DraftAction) : Program Draft := do
  match ← ask (.draftMessage contactId action) with
  | .drafted draft => pure draft
  | .contextualFallbackUnavailable => raise (.raised "ContextualFallbackUnavailable")
  | .raised name => raise (.raised name)

/-- `draft.grounding and not draft.grounding.is_safe_to_send`. -/
def groundingBlocked (draft : Draft) : Bool :=
  draft.grounding.any fun validation => !validation.isSafeToSend

/-- The status that mirrors a send outcome. -/
def sentStatus : SendOutcome → MessageStatus
  | .sent => .sent
  | .failed => .failed
  | .unknown => .unknown

/-- What an outreach function did with a contact. -/
inductive OutreachAction where
  | skippedIntegrationManaged
  | skippedSuppressed
  | heldGroundingReview
  | reported (outcome : SendOutcome)
  deriving DecidableEq, Repr

/-- `_park_for_grounding_review`. -/
def parkForGroundingReview
    (key : Nat)
    (contact : Contact) : Program Contact := do
  let (contact, _) ← transitionContactState key contact .needsHuman
  assign key contact
    { nextActionAt := some none, claimedBy := some none, claimedAt := some none }

/-- The routing of an ambiguous send to a human. -/
def escalateUnknown
    (key : Nat)
    (contact : Contact) : Program Contact := do
  let (contact, _) ← transitionContactState key contact .needsHuman
  assign key contact { nextActionAt := some none }

/-! ## Initial outreach -/

/-- The subject of an initial message without a drafted one. -/
def initialSubject
    (draft : Draft)
    (campaign : Campaign)
    (contact : Contact) : String :=
  (truthy draft.subject).getD
    (campaign.senderOrg ++ " <> " ++
      ((truthy contact.company).or contact.name).getD "None")

/-- The contact after an initial send. A failed one stays due. -/
def afterInitialSend
    (key : Nat)
    (contact : Contact)
    (campaign : Campaign)
    (result : SendResult) : Program Contact :=
  if result.success then do
    let (moved, _) ← transitionContactState key contact .initialSent
    let sentAt ← utcnow
    let stamped ← assign key moved { lastOutboundAt := some sentAt }
    let now ← utcnow
    let next ← ofExcept (computeNextFollowup now stamped campaign)
    assign key stamped { nextActionAt := some next }
  else if result.outcome = .unknown then escalateUnknown key contact
  else pure contact

/-- `send_initial_outreach`. -/
def sendInitialOutreach
    (deployment : Deployment)
    (key : Nat)
    (contact : Contact) :
    Program OutreachAction := do
  begin
  let loaded ← loadCampaign contact
  if campaignIsIntegrationManaged loaded then return .skippedIntegrationManaged
  if ← query fun view => view.isEmailSuppressed contact.email none then
    let _ ← transitionContactState key contact .unsubscribed
    flush
    return .skippedSuppressed
  let campaign ← required loaded
  let messages ← query (conversation key)
  let draft ← draftMessage key .initialOutreach
  let subject := initialSubject draft campaign contact
  if groundingBlocked draft then
    addMessage
      { contactId := key
        direction := .outbound
        messageType := some .initial
        subject := some subject
        body := draft.body
        status := .draft }
    let _ ← parkForGroundingReview key contact
    flush
    return .heldGroundingReview
  let result ← sendEmail deployment.settings .initialOutreach key
    { toEmail := contact.email
      fromEmail := campaign.senderEmail
      fromName := campaign.senderName
      subject := subject
      bodyText := draft.body
      replyTo := campaign.replyToEmail }
  addMessage
    { contactId := key
      direction := .outbound
      messageType := some .initial
      subject := draft.subject
      body := draft.body
      status := sentStatus result.outcome
      messageIdHeader := result.messageId
      errorMessage := result.error }
  let current ← afterInitialSend key contact campaign result
  flush
  maybeSummarizeOlderMessages key current messages
  return .reported result.outcome

/-! ## Follow-ups -/

/-- `_most_recent_message_id`. -/
def mostRecentMessageId (messages : List Message) : Option String :=
  (messages.reverse.find? fun message =>
    (truthy message.messageIdHeader).isSome && !isSyntheticId message.messageIdHeader).bind
      Message.messageIdHeader

/-- The subject of a follow-up: the drafted one, or a reply to the first message. -/
def followupSubject
    (draft : Draft)
    (messages : List Message) : Option String :=
  (truthy draft.subject).or
    ((messages.head?.bind fun message => truthy message.subject).map fun subject =>
      asReplySubject (some subject))

/-- The exhaustion of the cadence after a follow-up. -/
def exhaustSequence
    (key : Nat)
    (contact : Contact)
    (next : Option Instant) :
    Program Contact :=
  if next.isNone then do
    let (ended, _) ← transitionContactState key contact .sequenceExhausted
    pure ended
  else pure contact

/-- The contact after a follow-up. A failed one stays due. -/
def afterFollowup
    (key : Nat)
    (contact : Contact)
    (campaign : Campaign)
    (result : SendResult) : Program Contact :=
  if result.success then do
    let (moved, _) ← transitionContactState key contact .followupSent
    let sentAt ← utcnow
    let counted ← assign key moved
      { lastOutboundAt := some sentAt, followUpIndex := some (moved.followUpIndex + 1) }
    let now ← utcnow
    let next ← ofExcept (computeNextFollowup now counted campaign)
    let ended ← exhaustSequence key counted next
    assign key ended { nextActionAt := some next }
  else if result.outcome = .unknown then escalateUnknown key contact
  else pure contact

/-- `send_followup_if_due`; `none` is a contact that is not due. -/
def sendFollowupIfDue
    (deployment : Deployment)
    (origin : Nat → SendOrigin)
    (key : Nat)
    (contact : Contact) : Program (Option OutreachAction) := do
  begin
  let loaded ← loadCampaign contact
  if campaignIsIntegrationManaged loaded then return some .skippedIntegrationManaged
  let checkedAt ← utcnow
  if !(← ofExcept (shouldSendFollowupNow deployment.services checkedAt contact)) then
    return none
  let confirmedAt ← utcnow
  if !(← ofExcept (canSendFollowup deployment.services confirmedAt contact)) then
    return none
  if ← query fun view => view.isEmailSuppressed contact.email none then
    let (moved, _) ← transitionContactState key contact .unsubscribed
    let _ ← assign key moved { nextActionAt := some none }
    flush
    return some .skippedSuppressed
  let campaign ← required loaded
  let hintedAt ← utcnow
  ofExcept (followupHints deployment.services hintedAt contact)
  let messages ← query (conversation key)
  let draft ← draftMessage key .followUp
  let prior := mostRecentMessageId messages
  if groundingBlocked draft then
    addMessage
      { contactId := key
        direction := .outbound
        messageType := some .followUp
        subject := some ((truthy draft.subject).getD
          ("Following up -- " ++ campaign.senderOrg))
        body := draft.body
        status := .draft
        inReplyToHeader := prior }
    let _ ← parkForGroundingReview key contact
    flush
    return some .heldGroundingReview
  let subject := followupSubject draft messages
  let result ← sendEmail deployment.settings (origin contact.followUpIndex) key
    { toEmail := contact.email
      fromEmail := campaign.senderEmail
      fromName := campaign.senderName
      subject := (truthy subject).getD ("Following up -- " ++ campaign.senderOrg)
      bodyText := draft.body
      replyTo := campaign.replyToEmail
      inReplyToHeader := prior }
  addMessage
    { contactId := key
      direction := .outbound
      messageType := some .followUp
      subject := subject
      body := draft.body
      status := sentStatus result.outcome
      messageIdHeader := result.messageId
      inReplyToHeader := prior
      errorMessage := result.error }
  let current ← afterFollowup key contact campaign result
  flush
  maybeSummarizeOlderMessages key current messages
  return some (.reported result.outcome)

/-! ## Claims -/

/-- The part of the claim predicate that both dialects share. -/
def claimable
    (database : Database)
    (status : ContactStatus)
    (now cutoff : Instant)
    (contact : Contact) : Bool :=
  contact.status == status && contact.nextActionAt.any (fun due => due ≤ now) &&
    (contact.claimedBy.isNone || contact.claimedAt.any fun taken => taken < cutoff) &&
    !database.contactIsIntegrationManaged contact

/-- When a contact is due; the claim reads it only of contacts that are. -/
def dueAt
    (database : Database)
    (key : Nat) : Instant :=
  ((database.contacts.get key).bind Contact.nextActionAt).getD 0

/-- The rows that a claim takes: due ones, longest due first, skipping locked
ones. -/
def claimedContacts
    (database : Database)
    (status : ContactStatus)
    (now cutoff : Instant)
    (locked : List Nat)
    (limit : Nat) : List Nat :=
  let candidates := (database.contacts.keysWhere (claimable database status now cutoff)).filter
    fun key => !locked.contains key
  (candidates.insertionSort fun first second =>
    dueAt database first ≤ dueAt database second).take limit

/-- The claim columns of one contact. -/
def claimPatch
    (workerId : String)
    (now : Instant) : ContactPatch :=
  { claimedBy := some (some workerId), claimedAt := some (some now), updatedAt := some now }

/-- `claim_due_contacts`, with the rows that other transactions have locked. -/
def claimDueContacts
    (deployment : Deployment)
    (workerId : String)
    (status : ContactStatus)
    (locked : List Nat)
    (limit : Nat) : Program (List Nat) := do
  let now ← utcnow
  let cutoff := now - deployment.settings.claimLeaseSeconds * second
  execute
    (fun view => (claimedContacts view status now cutoff locked limit).map fun key =>
      .updateContact key (claimPatch workerId now))
    (fun view => claimedContacts view status now cutoff locked limit)

/-- The columns of a contact without a claim. -/
def releasePatch : ContactPatch :=
  { claimedBy := some none, claimedAt := some none }

/-- `release_claim`. -/
def releaseClaim
    (key : Nat)
    (contact : Contact) : Program Unit := do
  let _ ← assign key contact releasePatch
  flush

/-- `release_all_claims`. -/
def releaseAllClaims (workerId : String) : Program Unit :=
  execute
    (fun view => (view.contacts.keysWhere fun contact =>
        contact.claimedBy == some workerId).map fun key =>
      .updateContact key releasePatch)
    (fun _ => ())

/-- `recover_expired_claims`. -/
def recoverExpiredClaims (deployment : Deployment) : Program Unit := do
  let now ← utcnow
  let cutoff := now - deployment.settings.claimLeaseSeconds * second
  let stale ← query fun view => (view.contacts.keysWhere fun contact =>
    contact.claimedBy.isSome && contact.claimedAt.any fun taken => taken < cutoff).filterMap
      fun key => (view.contacts.get key).map fun contact => (key, contact)
  forEach stale fun (key, contact) => do
    let _ ← assign key contact releasePatch
  flush

/-- The claimed contacts of active campaigns. -/
def reloadActive
    (claimed : List Nat)
    (view : Database) : List (Nat × Contact) :=
  (view.contacts.keysWhere fun contact =>
      (view.campaignOf contact).any Campaign.isActive).filterMap fun key =>
    if claimed.contains key then
      (view.contacts.get key).map fun contact => (key, contact)
    else none

/-! ## Scheduler jobs -/

/-- One contact of `dispatch_new_contacts_job`. -/
def dispatchNewContact
    (deployment : Deployment)
    (key : Nat)
    (contact : Contact) :
    Program Unit :=
  Program.ensuring
    (do
      let processed ← attempt do
        let _ ← sendInitialOutreach deployment key contact
        commit
      match processed with
      | .ok _ => pure ()
      | .error _ => rollback)
    (releaseClaim key contact)

/-- The loop of `dispatch_new_contacts_job`. The commit or rollback of an
iteration expires the objects, so later ones are loaded again. -/
def dispatchNewContacts (deployment : Deployment) : List (Nat × Contact) → Program Unit
  | [] => pure ()
  | (key, contact) :: rest => do
      dispatchNewContact deployment key contact
      forEach rest fun (other, stale) => do
        let current ← loadContact other
        dispatchNewContact deployment other (current.getD stale)

/-- `dispatch_new_contacts_job`. -/
def dispatchNewContactsJob
    (deployment : Deployment)
    (workerId : String)
    (locked : List Nat) :
    Program Unit :=
  sessionScope do
    recoverExpiredClaims deployment
    let claimed ← claimDueContacts deployment workerId .new locked
      deployment.settings.maxSendsPerCycle
    if claimed.isEmpty then return
    let due ← query (reloadActive claimed)
    dispatchNewContacts deployment due

/-- `run_followup_cycle`. -/
def runFollowupCycle
    (deployment : Deployment)
    (workerId : String)
    (locked : List Nat) :
    Program Unit := do
  recoverExpiredClaims deployment
  let claimed ← claimDueContacts deployment workerId .active locked
    deployment.settings.maxSendsPerCycle
  if claimed.isEmpty then return
  let due ← query (reloadActive claimed)
  forEach due fun (key, contact) =>
    Program.ensuring
      (do
        let _ ← attempt (sendFollowupIfDue deployment .followUp key contact))
      (releaseClaim key contact)
  commit

/-- `dispatch_followups_job`. -/
def dispatchFollowupsJob
    (deployment : Deployment)
    (workerId : String)
    (locked : List Nat) :
    Program Unit :=
  sessionScope (runFollowupCycle deployment workerId locked)

end Native
end MailerAgent
