import MailerAgent.Native.Polling

/-!
# API routes and operations

The routes of `api/campaigns.py`, `api/contacts.py`, `api/messages.py` and
`api/mailboxes.py` for an authenticated organization, lead normalization, and the
list of all operations that run as programs over a session.
-/

namespace MailerAgent
namespace Native

open Relational Mail Program

/-! ## Campaigns and contacts -/

/-- `CampaignCreate`, the fields that the modelled code reads. -/
structure CampaignCreate where
  name : String
  senderName : String
  senderOrg : String
  senderEmail : String
  replyToEmail : Option String := none
  valueProp : String
  proofPoints : Option String := none
  followUpDays : List Int := [3, 7, 14]
  timezone : String := "UTC"
  deriving DecidableEq, Repr

/-- `create_campaign`. -/
def createCampaign
    (organization : String)
    (payload : CampaignCreate) : Program Unit :=
  session do
    stage (.insertCampaign
      { name := payload.name
        organizationId := some organization
        senderName := payload.senderName
        senderOrg := payload.senderOrg
        senderEmail := payload.senderEmail
        replyToEmail := payload.replyToEmail
        valueProp := payload.valueProp
        proofPoints := payload.proofPoints
        followUpDays := payload.followUpDays
        timezone := payload.timezone })
    commit

/-- `_get_campaign_or_404`. -/
def getCampaignOr404
    (organization : String)
    (campaignId : Nat) : Program Campaign := do
  let found ← query fun view => (view.campaigns.get campaignId).filter fun campaign =>
    campaign.organizationId == some organization
  match found with
  | some campaign => pure campaign
  | none => raise (.http 404 "Campaign not found")

/-- `ContactCreate`; the address is the submitted text. -/
structure ContactCreate where
  name : Option String := none
  email : String
  title : Option String := none
  company : Option String := none
  contextNotes : Option String := none
  deriving DecidableEq, Repr

/-- The `EmailStr` validation of a submitted address. -/
def validated
    (services : Services)
    (email : String) : Program String :=
  match services.validateEmail email with
  | some normalized => pure normalized
  | none => raise (.http 422 "value is not a valid email address")

/-- The contact row of a payload. -/
def newContact
    (campaignId : Nat)
    (payload : ContactCreate) : Contact where
  campaignId := campaignId
  name := payload.name
  email := payload.email
  title := payload.title
  company := payload.company
  contextNotes := payload.contextNotes

/-- Whether an address is already a contact of a campaign. -/
def contactExists
    (campaignId : Nat)
    (email : String)
    (view : Database) : Bool :=
  view.contacts.existsWhere fun contact =>
    contact.campaignId == campaignId && contact.email == email

/-- The schema validation of all contacts. -/
def validateContacts (services : Services) : List ContactCreate → Program (List ContactCreate)
  | [] => pure []
  | payload :: rest => do
      let email ← validated services payload.email
      let others ← validateContacts services rest
      pure ({ payload with email := email } :: others)

/-- One contact of `add_contacts`. -/
def addContact
    (campaignId : Nat)
    (payload : ContactCreate) : Program Unit := do
  if ← query fun view => view.isEmailSuppressed payload.email none then return
  if ← query (contactExists campaignId payload.email) then return
  stage (.insertContact (newContact campaignId payload))

/-- `add_contacts`. -/
def addContacts
    (deployment : Deployment)
    (organization : String)
    (campaignId : Nat)
    (submitted : List ContactCreate) : Program Unit :=
  session do
    let contacts ← validateContacts deployment.services submitted
    let _ ← getCampaignOr404 organization campaignId
    forEach contacts (addContact campaignId)
    match ← attempt flush with
    | .ok _ => commit
    | .error .integrity => do
        rollback
        raise (.http 409 ("One or more contacts already exist in this campaign " ++
          "(duplicate detected at database level). Re-POST the list without the " ++
          "duplicates, or use the leads/ingest endpoint which handles duplicates per-item."))
    | .error failure => raise failure

/-! ## Lead ingestion -/

/-- `EMAIL_ALIASES`. -/
def emailAliases : List String := ["email", "contact_email", "lead_email", "to_email"]

/-- `NAME_ALIASES`. -/
def nameAliases : List String := ["contact_name", "name", "full_name", "lead_name"]

/-- `TITLE_ALIASES`. -/
def titleAliases : List String := ["contact_title", "title", "job_title", "role", "position"]

/-- `COMPANY_ALIASES`. -/
def companyAliases : List String :=
  ["company_name", "company", "organization_name", "org_name", "org"]

/-- `CONTEXT_FIELD_ALIASES`. -/
def contextFieldAliases : List (String × List String) :=
  [("Industry", ["industry"]),
    ("Company size", ["employees", "employee_count", "headcount"]),
    ("Revenue band", ["revenue_band", "revenue"]),
    ("Founded", ["founded_year"]),
    ("Website", ["website", "domain"]),
    ("About", ["about_text", "description", "company_description"]),
    ("LinkedIn", ["linkedin_url"]),
    ("Lead qualification", ["qualification_label"]),
    ("Lead score", ["score", "overall_score"])]

/-- `_first_present`. -/
def firstPresent
    (lead : List (String × LeadValue))
    (keys : List String) :
    Option LeadValue :=
  keys.findSome? fun key => (lead.lookup key).filter LeadValue.present

/-- `str(value).strip() if value else None`. -/
def strippedText (value : Option LeadValue) : Option String :=
  (value.filter LeadValue.truth).map fun present => PyText.strip present.shown

/-- The lines of the context notes. -/
def contextLines
    (services : Services)
    (lead : List (String × LeadValue)) : List String :=
  let known := emailAliases ++ nameAliases ++ titleAliases ++ companyAliases ++
    contextFieldAliases.flatMap Prod.snd
  let extra := lead.filter fun member => !known.contains member.1 && member.2.present
  (contextFieldAliases.filterMap fun field =>
      (firstPresent lead field.2).map fun value => field.1 ++ ": " ++ value.shown) ++
    if extra.isEmpty then []
    else ["Other supplied fields: " ++ services.showMembers extra]

/-- `normalize_lead_payload`; the error carries its text. -/
def normalizeLeadPayload
    (services : Services)
    (lead : List (String × LeadValue)) :
    Except String ContactCreate :=
  match (firstPresent lead emailAliases).filter LeadValue.truth with
  | none =>
      .error ("Could not find an email field. Looked for: " ++
        services.showList emailAliases ++ ". Payload keys received: " ++
        services.showList (lead.map Prod.fst))
  | some email =>
      .ok
        { name := strippedText (firstPresent lead nameAliases)
          email := services.lower (PyText.strip email.shown)
          title := strippedText (firstPresent lead titleAliases)
          company := strippedText (firstPresent lead companyAliases)
          contextNotes :=
            if contextLines services lead = [] then none
            else some (String.intercalate "\n" (contextLines services lead)) }

/-- The contact of a campaign with an address. -/
def existingContact
    (campaignId : Nat)
    (email : String)
    (view : Database) : Option Nat :=
  view.contacts.firstWhere fun contact =>
    contact.campaignId == campaignId && contact.email == email

/-- An entry of the skipped leads. -/
structure SkippedLead where
  reason : String
  email : Option String := none
  contactId : Option Nat := none
  raw : Option (List (String × LeadValue)) := none
  deriving DecidableEq, Repr

/-- The response of `ingest_leads`. A created contact is named by its address, which is
unique in the campaign. -/
structure IngestReport where
  created : List String := []
  skipped : List SkippedLead := []
  deriving DecidableEq, Repr

/-- A lead is reported as created. -/
def IngestReport.create
    (report : IngestReport)
    (email : String) : IngestReport :=
  { report with created := report.created ++ [email] }

/-- A lead is reported as skipped. -/
def IngestReport.skip
    (report : IngestReport)
    (entry : SkippedLead) : IngestReport :=
  { report with skipped := report.skipped ++ [entry] }

/-- One lead of `ingest_leads`. -/
def ingestLead
    (services : Services)
    (campaignId : Nat)
    (lead : List (String × LeadValue))
    (report : IngestReport) : Program IngestReport :=
  match normalizeLeadPayload services lead with
  | .error text => pure (report.skip { reason := text, raw := some lead })
  | .ok payload => do
      if ← query fun view => view.isEmailSuppressed payload.email none then
        return report.skip { reason := "suppressed", email := some payload.email }
      match ← query (existingContact campaignId payload.email) with
      | some key =>
          pure (report.skip
            { reason := "already_exists", email := some payload.email, contactId := some key })
      | none => do
          stage (.insertContact (newContact campaignId payload))
          match ← attempt flush with
          | .ok _ => pure (report.create payload.email)
          | .error .integrity => do
              rollback
              pure (report.skip
                { reason := "duplicate_at_db_level", email := some payload.email })
          | .error failure => raise failure

/-- The loop of `ingest_leads`. -/
def ingestEach
    (services : Services)
    (campaignId : Nat) :
    List (List (String × LeadValue)) → IngestReport → Program IngestReport
  | [], report => pure report
  | lead :: rest, report => do
      let next ← ingestLead services campaignId lead report
      ingestEach services campaignId rest next

/-- `ingest_leads`. -/
def ingestLeads
    (deployment : Deployment)
    (organization : String)
    (campaignId : Nat)
    (leads : List (List (String × LeadValue))) : Program IngestReport :=
  session do
    let _ ← getCampaignOr404 organization campaignId
    let report ← ingestEach deployment.services campaignId leads {}
    commit
    pure report

/-! ## Lifecycle actions -/

/-- `start_campaign`. -/
def startCampaign
    (organization : String)
    (campaignId : Nat) : Program Unit :=
  session do
    let campaign ← getCampaignOr404 organization campaignId
    if campaignIsIntegrationManaged (some campaign) then
      raise (.http 409 ("This campaign is managed by an external integration and cannot " ++
        "be started through the native campaign API."))
    let contacts ← query fun view => (view.contacts.keysWhere fun contact =>
      contact.campaignId == campaignId && contact.status == .new).filterMap fun key =>
        (view.contacts.get key).map fun contact => (key, contact)
    if contacts.isEmpty then return
    let now ← utcnow
    forEach contacts fun (key, contact) => do
      let _ ← assign key contact { nextActionAt := some (some now) }
    commit

/-- `_get_contact_or_404`. -/
def getContactOr404
    (organization : String)
    (contactId : Nat) : Program Contact := do
  let found ← query fun view => (view.contacts.get contactId).filter fun contact =>
    view.organizationOf contact == some organization
  match found with
  | some contact => pure contact
  | none => raise (.http 404 "Contact not found")

/-- A manual transition with the refusal of a missing edge. -/
def moveContact
    (organization : String)
    (contactId : Nat)
    (event : StateTransitionEvent)
    (verb advice : String)
    (patch : ContactPatch) : Program Unit :=
  session do
    let contact ← getContactOr404 organization contactId
    let (moved, success) ← transitionContactState contactId contact event
    if !success then
      raise (.http 400 ("Cannot " ++ verb ++ " state " ++ contact.status.value ++ ". " ++
        advice))
    let _ ← assign contactId moved patch
    commit

/-- `pause_contact`. -/
def pauseContact
    (organization : String)
    (contactId : Nat) : Program Unit :=
  moveContact organization contactId .manualPause "pause contact in"
    "Only NEW or ACTIVE contacts can be paused." { nextActionAt := some none }

/-- `resume_contact`. -/
def resumeContact
    (organization : String)
    (contactId : Nat) : Program Unit :=
  moveContact organization contactId .manualResume "resume contact in"
    "Only PAUSED, NEEDS_REVIEW, or SEQUENCE_COMPLETE contacts can be resumed." {}

/-- `mark_won`. -/
def markWon
    (organization : String)
    (contactId : Nat) : Program Unit :=
  moveContact organization contactId .manualWon "mark contact as won from"
    "Contact must be in an active sales state." { nextActionAt := some none }

/-- `force_followup`. -/
def forceFollowup
    (deployment : Deployment)
    (organization : String)
    (contactId : Nat) :
    Program (Option OutreachAction) :=
  session do
    let contact ← getContactOr404 organization contactId
    let campaign ← loadCampaign contact
    if campaignIsIntegrationManaged campaign then
      raise (.http 409 ("This contact is managed by an external integration; follow-ups " ++
        "cannot be forced through the native API."))
    let now ← utcnow
    if !(← ofExcept (canSendFollowup deployment.services now contact)) then
      raise (.http 400 ("Cannot force follow-up for contact in state " ++
        contact.status.value ++ ". Contact must be ACTIVE to send follow-ups."))
    let dueAt ← utcnow
    let _ ← assign contactId contact { nextActionAt := some (some dueAt) }
    commit
    let current ← required (← loadContact contactId)
    let action ← sendFollowupIfDue deployment .forcedFollowUp contactId current
    commit
    pure action

/-! ## Messages and suppression -/

/-- `_get_message_or_404` with the message's contact. -/
def getMessageOr404
    (organization : String)
    (messageId : Nat) :
    Program (Message × Contact) := do
  let found ← query fun view => (view.messages.get messageId).bind fun message =>
    ((view.contacts.get message.contactId).filter fun contact =>
      view.organizationOf contact == some organization).map fun contact => (message, contact)
  match found with
  | some row => pure row
  | none => raise (.http 404 "Message not found")

/-- `_owned_by_active_external_dispatch`. -/
def ownedByActiveExternalDispatch
    (messageId : Nat)
    (view : Database) : Bool :=
  view.dispatches.existsWhere fun dispatch =>
    dispatch.messageId == some messageId &&
      (dispatch.state == .queued || dispatch.state == .sending)

/-- The refusals of `approve_and_send_draft` before the final checks. -/
def checkApprovable
    (campaign : Option Campaign)
    (messageId : Nat)
    (message : Message) :
    Program Unit := do
  if campaignIsIntegrationManaged campaign then
    raise (.http 409 ("This message belongs to an external integration (LeadBoost) and " ++
      "cannot be approved or sent through the native approval path."))
  if ← query (ownedByActiveExternalDispatch messageId) then
    raise (.http 409 ("This message is owned by an external dispatch workflow " ++
      "(LeadBoost) and cannot be approved manually while that dispatch is queued or " ++
      "sending."))
  if message.status ≠ .draft then
    raise (.http 400 ("Message is not a draft (status=" ++ message.status.value ++ ")"))

/-- The final grounding and live-sending checks of an approval. -/
def checkSendable
    (deployment : Deployment)
    (contact : Contact)
    (campaign : Campaign)
    (message : Message)
    (transcript : String) : Program Unit := do
  let grounding := deployment.services.validateGrounding message.body
    { proofPoints := campaign.proofPoints
      contextNotes := contact.contextNotes
      conversationTranscript := some transcript
      valueProp := some campaign.valueProp }
  if grounding.hardBlock then
    raise (.http 409 ("Draft failed final grounding recheck and cannot be sent: " ++
      grounding.validationNotes ++ ". Unsupported/fabricated claims: " ++
      deployment.services.showList grounding.unsupportedClaims ++
      ". Edit the draft or the campaign/contact data, then try approval again."))
  if !deployment.settings.liveSendingEnabled then
    raise (.http 409 ("Live sending is disabled (LIVE_SENDING_ENABLED=false) -- draft " ++
      "was not sent. Enable LIVE_SENDING_ENABLED and retry approval to actually send."))

/-- The subject of an approved message. -/
def approvedSubject
    (message : Message)
    (messages : List Message)
    (campaign : Campaign) :
    String :=
  (truthy message.subject).getD
    (((messages.head?.bind fun first => truthy first.subject).map fun subject =>
      "Re: " ++ subject).getD campaign.senderOrg)

/-- The part of `approve_and_send_draft` that follows the loading of the message. -/
def approveMessage
    (deployment : Deployment)
    (messageId : Nat)
    (message : Message)
    (contact : Contact) : Program Unit := do
  let loaded ← loadCampaign contact
  checkApprovable loaded messageId message
  if ← query fun view => view.isEmailSuppressed contact.email none then
    raise (.http 400 "This contact is on the suppression list — cannot send")
  let campaign ← required loaded
  let (messages, transcript) ← query fun view =>
    (conversation message.contactId view,
      deployment.services.buildConversationContext view message.contactId)
  checkSendable deployment contact campaign message transcript
  let subject := approvedSubject message messages campaign
  let result ← sendEmail deployment.settings (.approval messageId) message.contactId
    { toEmail := contact.email
      fromEmail := campaign.senderEmail
      fromName := campaign.senderName
      subject := subject
      bodyText := message.body
      replyTo := campaign.replyToEmail
      inReplyToHeader := message.inReplyToHeader
      referencesHeader := message.referencesHeader }
  stage (.recordSend messageId
    { status := sentStatus result.outcome
      messageIdHeader := result.messageId
      subject := some subject
      errorMessage := result.error })
  commit

/-- `approve_and_send_draft`. -/
def approveAndSendDraft
    (deployment : Deployment)
    (organization : String)
    (messageId : Nat) :
    Program Unit :=
  session do
    begin
    let (message, contact) ← getMessageOr404 organization messageId
    approveMessage deployment messageId message contact

/-- `suppress_email` on the submitted address. -/
def suppressEmail
    (deployment : Deployment)
    (organization : String)
    (submitted : String)
    (reason : Option String) : Program Unit :=
  session do
    let email ← validated deployment.services submitted
    let existing ← query fun view => view.suppressions.existsWhere fun entry =>
      entry.email == email && entry.organizationId == some organization
    if existing then return
    stage (.insertSuppression
      { email := email, organizationId := some organization, reason := reason })
    commit

/-! ## Mailboxes -/

/-- `MailboxCreate` after its validation. -/
structure MailboxCreate where
  emailAddress : String
  smtpHost : String
  smtpPort : Nat
  smtpUseTls : Bool
  smtpUsername : String
  smtpPassword : String
  imapHost : Option String := none
  imapPort : Option Nat := none
  imapUsername : Option String := none
  imapPassword : Option String := none
  deriving DecidableEq, Repr

/-- `MailboxCreate._imap_all_or_none`. -/
def MailboxCreate.imapAllOrNone (payload : MailboxCreate) : Bool :=
  let imap := [payload.imapHost.isSome, payload.imapPort.isSome, payload.imapUsername.isSome,
    payload.imapPassword.isSome]
  !(imap.any id && imap.any not)

/-- `encrypt_secret`, with the refusal of the routes. -/
def encrypted
    (services : Services)
    (secret : Option String) : Program (Option String) :=
  match secret with
  | none => pure none
  | some plain =>
      match services.encryptSecret plain with
      | some cipher => pure (some cipher)
      | none => raise (.http 503 "Mailbox credential encryption is not configured")

/-- `_DUPLICATE`. -/
def duplicateMailbox : Failure :=
  .http 409 "A mailbox with this email address already exists for this organization"

/-- `create_mailbox`. -/
def createMailbox
    (deployment : Deployment)
    (organization : String)
    (payload : MailboxCreate) :
    Program Unit :=
  session do
    let smtpPassword ← encrypted deployment.services (some payload.smtpPassword)
    let imapPassword ← encrypted deployment.services payload.imapPassword
    let taken ← query fun view => view.mailboxes.existsWhere fun mailbox =>
      mailbox.organizationId == organization && mailbox.emailAddress == payload.emailAddress
    if taken then raise duplicateMailbox
    let reference ← ask .newReference
    let now ← utcnow
    stage (.insertMailbox
      { publicReference := reference
        organizationId := organization
        emailAddress := payload.emailAddress
        smtpHost := payload.smtpHost
        smtpPort := payload.smtpPort
        smtpUseTls := payload.smtpUseTls
        smtpUsername := payload.smtpUsername
        smtpPasswordEnc := smtpPassword.getD ""
        imapHost := payload.imapHost
        imapPort := payload.imapPort
        imapUsername := payload.imapUsername
        imapPasswordEnc := imapPassword
        updatedAt := now })
    match ← attempt commit with
    | .ok _ => pure ()
    | .error .integrity => do
        rollback
        raise duplicateMailbox
    | .error failure => raise failure

/-- `MailboxUpdate` after its validation. -/
structure MailboxUpdate where
  status : Option MailboxStatus := none
  smtpPassword : Option String := none
  imapPassword : Option String := none
  imapHost : Option String := none
  imapPort : Option Nat := none
  imapUsername : Option String := none
  smtpHost : Option String := none
  smtpPort : Option Nat := none
  smtpUseTls : Option Bool := none
  smtpUsername : Option String := none
  deriving DecidableEq, Repr

/-- `MailboxUpdate._imap_config_all_or_none`. -/
def MailboxUpdate.imapConfigAllOrNone (payload : MailboxUpdate) : Bool :=
  let config := [payload.imapHost.isSome, payload.imapPort.isSome, payload.imapUsername.isSome]
  !(config.any id && (config.any not || payload.imapPassword.isNone))

/-- The row of `_get_owned` with its key. -/
def ownedMailbox
    (organization publicReference : String)
    (view : Database) :
    Option (Nat × Mailbox) :=
  (view.mailboxes.firstWhere fun mailbox =>
      mailbox.publicReference == publicReference &&
        mailbox.organizationId == organization).bind fun key =>
    (view.mailboxes.get key).map fun mailbox => (key, mailbox)

/-- An assignment to a loaded attribute: a value that it already has is no change. -/
def assigned
    [DecidableEq α]
    (loaded : Option α)
    (value : Option α) : Option α :=
  value.filter fun present => loaded ≠ some present

/-- The columns that `update_mailbox` changes on the row it loaded. A fresh ciphertext
always differs from the stored one. -/
def mailboxPatch
    (payload : MailboxUpdate)
    (mailbox : Mailbox)
    (smtpPassword imapPassword : Option String) : MailboxPatch where
  status := assigned (some mailbox.status) payload.status
  smtpHost := assigned (some mailbox.smtpHost) payload.smtpHost
  smtpPort := assigned (some mailbox.smtpPort) payload.smtpPort
  smtpUseTls := assigned (some mailbox.smtpUseTls) payload.smtpUseTls
  smtpUsername := assigned (some mailbox.smtpUsername) payload.smtpUsername
  smtpPasswordEnc := smtpPassword
  imapHost := assigned mailbox.imapHost payload.imapHost
  imapPort := payload.imapHost.bind fun _ => assigned mailbox.imapPort payload.imapPort
  imapUsername :=
    payload.imapHost.bind fun _ => assigned mailbox.imapUsername payload.imapUsername
  imapPasswordEnc := imapPassword

/-- The part of `update_mailbox` that follows the loading of the row. -/
def updateLoadedMailbox
    (deployment : Deployment)
    (payload : MailboxUpdate)
    (key : Nat)
    (mailbox : Mailbox) : Program Unit := do
  if payload.imapPassword.isSome && payload.imapHost.isNone && mailbox.imapHost.isNone then
    raise (.http 409 "Mailbox has no IMAP configuration")
  let smtpPassword ← encrypted deployment.services payload.smtpPassword
  let imapPassword ← encrypted deployment.services payload.imapPassword
  let now ← utcnow
  stage (.updateMailbox key
    ((mailboxPatch payload mailbox smtpPassword imapPassword).dated now))
  commit

/-- `update_mailbox`. -/
def updateMailbox
    (deployment : Deployment)
    (organization publicReference : String)
    (payload : MailboxUpdate) : Program Unit :=
  session do
    match ← query (ownedMailbox organization publicReference) with
    | none => raise (.http 404 "Mailbox not found")
    | some (key, mailbox) => updateLoadedMailbox deployment payload key mailbox

/-! ## Operations -/

/-- Everything that runs as a program over a session: the API requests, the jobs
of the scheduler and the release of claims at shutdown. -/
inductive Operation where
  | createCampaign (organization : String) (payload : CampaignCreate)
  | addContacts (organization : String) (campaignId : Nat) (contacts : List ContactCreate)
  | ingestLeads (organization : String) (campaignId : Nat)
      (leads : List (List (String × LeadValue)))
  | startCampaign (organization : String) (campaignId : Nat)
  | pauseContact (organization : String) (contactId : Nat)
  | resumeContact (organization : String) (contactId : Nat)
  | markWon (organization : String) (contactId : Nat)
  | forceFollowup (organization : String) (contactId : Nat)
  | approveAndSendDraft (organization : String) (messageId : Nat)
  | suppressEmail (organization : String) (email : String) (reason : Option String)
  | receiveInboundEmail (organization : String) (payload : InboundEmail)
  | createMailbox (organization : String) (payload : MailboxCreate)
  | updateMailbox (organization publicReference : String) (payload : MailboxUpdate)
  | dispatchNewContactsJob (workerId : String) (locked : List Nat)
  | dispatchFollowupsJob (workerId : String) (locked : List Nat)
  | pollRepliesJob
  | pollMailboxInboxesJob
  | releaseAllClaims (workerId : String)

/-- The program of an operation, without its response. -/
def Operation.program (deployment : Deployment) : Operation → Program Unit
  | createCampaign organization payload => Native.createCampaign organization payload
  | addContacts organization campaignId contacts =>
      Native.addContacts deployment organization campaignId contacts
  | ingestLeads organization campaignId leads => do
      let _ ← Native.ingestLeads deployment organization campaignId leads
  | startCampaign organization campaignId => Native.startCampaign organization campaignId
  | pauseContact organization contactId => Native.pauseContact organization contactId
  | resumeContact organization contactId => Native.resumeContact organization contactId
  | markWon organization contactId => Native.markWon organization contactId
  | forceFollowup organization contactId => do
      let _ ← Native.forceFollowup deployment organization contactId
  | approveAndSendDraft organization messageId =>
      Native.approveAndSendDraft deployment organization messageId
  | suppressEmail organization email reason =>
      Native.suppressEmail deployment organization email reason
  | receiveInboundEmail organization payload => do
      let _ ← Native.receiveInboundEmail deployment organization payload
  | createMailbox organization payload =>
      Native.createMailbox deployment organization payload
  | updateMailbox organization publicReference payload =>
      Native.updateMailbox deployment organization publicReference payload
  | dispatchNewContactsJob workerId locked =>
      Native.dispatchNewContactsJob deployment workerId locked
  | dispatchFollowupsJob workerId locked =>
      Native.dispatchFollowupsJob deployment workerId locked
  | pollRepliesJob => Native.pollRepliesJob deployment
  | pollMailboxInboxesJob => do
      let _ ← pollAllMailboxesReport deployment
  | releaseAllClaims workerId => sessionScope (Native.releaseAllClaims workerId)

end Native
end MailerAgent
