import MailerAgent.Access.Requests
import MailerAgent.Intake.Conversation
import MailerAgent.Intake.Requests
import MailerAgent.Native.Ownership
import Mathlib.Algebra.Field.Rat

/-!
# What an organization reads

The routes that read for an organization: its campaigns, contacts, threads, mailboxes and
suppressions, the state and the conversation of an outreach action, and the metrics of the
tenant router of `api/system.py`. A route that runs several queries may see another state in
each of them. The times of creation of campaigns, contacts and mailboxes, which are written
once and which no other modelled code reads, are given beside the database.
-/

namespace MailerAgent
namespace Access

open Relational Native Intake

/-- The states that the queries of a request see, in their order. -/
abbrev Snapshots := Nat → Database

/-- `created_at` of rows that keep it. -/
structure CreationTimes where
  campaigns : Nat → Instant
  contacts : Nat → Instant
  mailboxes : Nat → Instant

/-! ## Campaigns and contacts -/

/-- `CampaignOut`. -/
structure CampaignOut where
  id : Nat
  name : String
  organizationId : Option String
  senderName : String
  senderOrg : String
  senderEmail : String
  isActive : Bool
  followUpDays : List Int
  timezone : String
  createdAt : Instant
  deriving DecidableEq

/-- The response for a campaign. -/
def CampaignOut.ofRow
    (times : CreationTimes)
    (entry : Nat × Campaign) : CampaignOut where
  id := entry.1
  name := entry.2.name
  organizationId := entry.2.organizationId
  senderName := entry.2.senderName
  senderOrg := entry.2.senderOrg
  senderEmail := entry.2.senderEmail
  isActive := entry.2.isActive
  followUpDays := entry.2.followUpDays
  timezone := entry.2.timezone
  createdAt := times.campaigns entry.1

/-- `ContactOut`. -/
structure ContactOut where
  id : Nat
  campaignId : Nat
  name : Option String
  email : String
  title : Option String
  company : Option String
  status : ContactStatus
  followUpIndex : Nat
  nextActionAt : Option Instant
  createdAt : Instant
  deriving DecidableEq

/-- The response for a contact. -/
def ContactOut.ofRow
    (times : CreationTimes)
    (entry : Nat × Contact) : ContactOut where
  id := entry.1
  campaignId := entry.2.campaignId
  name := entry.2.name
  email := entry.2.email
  title := entry.2.title
  company := entry.2.company
  status := entry.2.status
  followUpIndex := entry.2.followUpIndex
  nextActionAt := entry.2.nextActionAt
  createdAt := times.contacts entry.1

/-- `MessageOut`. -/
structure MessageOut where
  id : Nat
  direction : MessageDirection
  messageType : Option MessageType
  subject : Option String
  body : String
  status : MessageStatus
  detectedIntent : Option String
  createdAt : Instant
  deriving DecidableEq

/-- The response for a message. -/
def MessageOut.ofRow (entry : Nat × Message) : MessageOut where
  id := entry.1
  direction := entry.2.direction
  messageType := entry.2.messageType
  subject := entry.2.subject
  body := entry.2.body
  status := entry.2.status
  detectedIntent := entry.2.detectedIntent
  createdAt := entry.2.createdAt

/-- `ThreadOut`. -/
structure ThreadOut where
  contact : ContactOut
  messages : List MessageOut
  deriving DecidableEq

section Queries

variable (times : CreationTimes) (organization : String) (database : Database)

/-- The query of `list_campaigns`, newest first. -/
def listCampaigns : List CampaignOut :=
  ((database.campaigns.entriesWhere fun row => row.organizationId == some organization).map
    (CampaignOut.ofRow times)).mergeSort fun first second =>
      decide (second.createdAt ≤ first.createdAt)

/-- `_get_campaign_or_404`. -/
def campaignOr404 (campaignId : Nat) : Except HttpFailure Campaign :=
  match (database.campaigns.get campaignId).filter fun campaign =>
      campaign.organizationId == some organization with
  | some campaign => .ok campaign
  | none => .error ⟨404, "Campaign not found"⟩

/-- `_get_contact_or_404`. -/
def contactOr404 (contactId : Nat) : Except HttpFailure Contact :=
  match (database.contacts.get contactId).filter (database.owns organization) with
  | some contact => .ok contact
  | none => .error ⟨404, "Contact not found"⟩

/-- The contacts of a campaign. -/
def contactsOf (campaignId : Nat) : List ContactOut :=
  (database.contacts.entriesWhere fun contact => contact.campaignId == campaignId).map
    (ContactOut.ofRow times)

/-- `contact.messages`, in the order of `created_at`. -/
def messagesOf (contactId : Nat) : List MessageOut :=
  ((database.messages.entriesWhere fun message => message.contactId == contactId).map
    MessageOut.ofRow).mergeSort fun first second => decide (first.createdAt ≤ second.createdAt)

/-! ## Mailboxes, suppressions and outreach actions -/

/-- `MailboxOut`: no password and no ciphertext. -/
structure MailboxOut where
  publicReference : String
  emailAddress : String
  smtpHost : String
  smtpPort : Nat
  smtpUseTls : Bool
  smtpUsername : String
  imapHost : Option String
  imapPort : Option Nat
  imapUsername : Option String
  status : MailboxStatus
  createdAt : Instant
  updatedAt : Instant
  deriving DecidableEq

/-- The response for a mailbox. -/
def MailboxOut.ofRow (entry : Nat × Mailbox) : MailboxOut where
  publicReference := entry.2.publicReference
  emailAddress := entry.2.emailAddress
  smtpHost := entry.2.smtpHost
  smtpPort := entry.2.smtpPort
  smtpUseTls := entry.2.smtpUseTls
  smtpUsername := entry.2.smtpUsername
  imapHost := entry.2.imapHost
  imapPort := entry.2.imapPort
  imapUsername := entry.2.imapUsername
  status := entry.2.status
  createdAt := times.mailboxes entry.1
  updatedAt := entry.2.updatedAt

/-- The query of `list_mailboxes`, by `(created_at, id)`. -/
def listMailboxes : List MailboxOut :=
  ((database.mailboxes.entriesWhere fun row => row.organizationId == organization).mergeSort
    fun first second =>
      decide (times.mailboxes first.1 < times.mailboxes second.1 ∨
        times.mailboxes first.1 = times.mailboxes second.1 ∧ first.1 ≤ second.1)).map
    (MailboxOut.ofRow times)

/-- `_get_owned`. -/
def mailboxOr404 (publicReference : String) : Except HttpFailure MailboxOut :=
  match ownedMailbox organization publicReference database with
  | some entry => .ok (.ofRow times entry)
  | none => .error ⟨404, "Mailbox not found"⟩

/-- The query of `check_suppressed`. -/
def checkSuppressed (email : String) : Bool :=
  database.suppressions.existsWhere fun row =>
    row.email == email && row.organizationId == some organization

/-- `LeadBoostOutreachActionStatus`. -/
structure LeadBoostOutreachActionStatus where
  accepted : Bool
  state : ExternalDispatchState
  mailingAgentReference : String
  updatedAt : Instant
  deriving DecidableEq

/-- `get_leadboost_outreach_action`; generation reads as queued. -/
def getLeadboostOutreachAction (idempotencyKey : String) :
    Except HttpFailure LeadBoostOutreachActionStatus :=
  match (findDispatch database organization idempotencyKey).bind database.dispatches.get with
  | none => .error ⟨404, "Outreach action not found"⟩
  | some row =>
      .ok
        { accepted := true
          state := if row.state = .generating then .queued else row.state
          mailingAgentReference := row.publicReference
          updatedAt := row.updatedAt }

/-! ## Metrics -/

/-- The members of `ContactStatus`. -/
def contactStatuses : List ContactStatus :=
  [.new, .active, .replied, .engaged, .qualifying, .evaluating, .meetingRequested,
    .meetingScheduled, .negotiating, .nurture, .sequenceComplete, .closedWon, .closedLost,
    .suppressed, .paused, .needsReview]

/-- The contacts of the organization by status. -/
def contactStates : List (ContactStatus × Nat) :=
  let statuses := (database.contacts.select (database.owns organization)).map Contact.status
  contactStatuses.map fun status => (status, statuses.count status)

/-- `part / whole if whole else 0`. -/
def rate (part whole : Nat) : ℚ :=
  if whole = 0 then 0 else (part : ℚ) / whole

/-- The messages of the organization. -/
def ownMessages : List Message :=
  database.messages.select (inOrganization database (some organization))

/-- The inbound messages of the organization. -/
def ownInbound : List Message :=
  (ownMessages organization database).filter fun message => message.direction == .inbound

/-- The message part of `get_system_health`. -/
structure MessageStatistics where
  total : Nat
  sent : Nat
  failed : Nat
  unknown : Nat
  successRate : ℚ
  deriving DecidableEq

/-- The aggregate query over the messages. -/
def messageStatistics : MessageStatistics :=
  let statuses := (ownMessages organization database).map Message.status
  { total := statuses.length
    sent := statuses.count .sent
    failed := statuses.count .failed
    unknown := statuses.count .unknown
    successRate := rate (statuses.count .sent) statuses.length }

/-- The classification part of `get_system_health`. -/
structure ClassificationStatistics where
  success : Nat
  total : Nat
  successRate : ℚ
  deriving DecidableEq

/-- The aggregate query over the inbound messages. -/
def classificationStatistics : ClassificationStatistics :=
  let outcomes := (ownInbound organization database).map Message.classificationSuccess
  { success := outcomes.count (some true)
    total := outcomes.length
    successRate := rate (outcomes.count (some true)) outcomes.length }

/-- The reasons of the failed classifications, with their counts. -/
def failureReasons : List (String × Nat) :=
  let reasons := ((ownInbound organization database).filter fun message =>
    message.classificationSuccess == some false).filterMap Message.classificationFailureReason
  reasons.dedup.map fun reason => (reason, reasons.count reason)

end Queries

/-- The response of `get_system_health`. -/
structure SystemHealth where
  organizationId : String
  contactStates : List (ContactStatus × Nat)
  messages : MessageStatistics
  classification : ClassificationStatistics
  deriving DecidableEq

/-- The response of `get_classification_metrics`; `failed` is absent without messages. -/
structure ClassificationMetrics where
  total : Nat
  success : Nat
  successRate : ℚ
  failed : Option Nat
  failureReasons : List (String × Nat)
  deriving DecidableEq

/-- The response of `get_state_distribution`. -/
structure StateDistribution where
  distribution : List (ContactStatus × Nat)
  total : Nat
  percentages : List (ContactStatus × ℚ)
  deriving DecidableEq

/-- `get_system_health`: three queries. -/
def getSystemHealth
    (organization : String)
    (seen : Snapshots) : SystemHealth where
  organizationId := organization
  contactStates := contactStates organization (seen 0)
  messages := messageStatistics organization (seen 1)
  classification := classificationStatistics organization (seen 2)

/-- `get_classification_metrics`: a second query if there are messages. -/
def getClassificationMetrics
    (organization : String)
    (seen : Snapshots) :
    ClassificationMetrics :=
  let counted := classificationStatistics organization (seen 0)
  if counted.total = 0 then ⟨0, 0, 0, none, []⟩
  else
    { total := counted.total
      success := counted.success
      successRate := (counted.success : ℚ) / counted.total
      failed := some (counted.total - counted.success)
      failureReasons := failureReasons organization (seen 1) }

/-- `get_state_distribution`. -/
def getStateDistribution
    (organization : String)
    (database : Database) : StateDistribution :=
  let distribution := contactStates organization database
  let total := (distribution.map Prod.snd).foldl (· + ·) 0
  { distribution := distribution
    total := total
    percentages := distribution.map fun (status, count) =>
      (status, if 0 < total then (count : ℚ) / total * 100 else 0) }

/-! ## Routes -/

/-- A request that reads for an organization. -/
inductive ReadRequest where
  | listCampaigns
  | getCampaign (campaignId : Nat)
  | listContacts (campaignId : Nat)
  | getContact (contactId : Nat)
  | getThread (contactId : Nat)
  | listMailboxes
  | getMailbox (publicReference : String)
  | checkSuppressed (email : String)
  | getLeadboostOutreachAction (idempotencyKey : String)
  | getLeadboostOutreachConversation (idempotencyKey : String) (limit : Nat)
  | getSystemHealth
  | getClassificationMetrics
  | getStateDistribution

/-- What such a request returns. -/
inductive ReadResponse where
  | campaigns (campaigns : List CampaignOut)
  | campaign (campaign : CampaignOut)
  | contacts (contacts : List ContactOut)
  | contact (contact : ContactOut)
  | thread (thread : ThreadOut)
  | mailboxes (mailboxes : List MailboxOut)
  | mailbox (mailbox : MailboxOut)
  | suppressed (email : String) (suppressed : Bool)
  | action (status : LeadBoostOutreachActionStatus)
  | conversation (conversation : Option LeadBoostConversation)
  | health (health : SystemHealth)
  | classification (metrics : ClassificationMetrics)
  | distribution (distribution : StateDistribution)
  deriving DecidableEq

/-- The handler of a request, with the states that its queries see. -/
def ReadRequest.respond
    (times : CreationTimes)
    (organization : String)
    (seen : Snapshots) :
    ReadRequest → Except HttpFailure ReadResponse
  | listCampaigns => .ok (.campaigns (Access.listCampaigns times organization (seen 0)))
  | getCampaign campaignId =>
      (campaignOr404 organization (seen 0) campaignId).map fun campaign =>
        .campaign (.ofRow times (campaignId, campaign))
  | listContacts campaignId =>
      (campaignOr404 organization (seen 0) campaignId).map fun _ =>
        .contacts (contactsOf times (seen 1) campaignId)
  | getContact contactId =>
      (contactOr404 organization (seen 0) contactId).map fun contact =>
        .contact (.ofRow times (contactId, contact))
  | getThread contactId =>
      (contactOr404 organization (seen 0) contactId).map fun contact =>
        .thread ⟨.ofRow times (contactId, contact), messagesOf (seen 1) contactId⟩
  | listMailboxes => .ok (.mailboxes (Access.listMailboxes times organization (seen 0)))
  | getMailbox publicReference =>
      (mailboxOr404 times organization (seen 0) publicReference).map .mailbox
  | checkSuppressed email =>
      .ok (.suppressed email (Access.checkSuppressed organization (seen 0) email))
  | getLeadboostOutreachAction idempotencyKey =>
      (Access.getLeadboostOutreachAction organization (seen 0) idempotencyKey).map .action
  | getLeadboostOutreachConversation idempotencyKey limit =>
      .ok (.conversation (Intake.getLeadboostOutreachConversation (seen 0) organization
        idempotencyKey limit))
  | getSystemHealth => .ok (.health (Access.getSystemHealth organization seen))
  | getClassificationMetrics =>
      .ok (.classification (Access.getClassificationMetrics organization seen))
  | getStateDistribution =>
      .ok (.distribution (Access.getStateDistribution organization (seen 0)))

/-! ## Equal rows, equal responses -/

section Agreement

variable {organization : String} {left right : Database} {times : CreationTimes}

/-- The list of campaigns is a function of the rows of the organization. -/
theorem listCampaigns_congr (agree : Database.AgreeOn organization left right) :
    listCampaigns times organization left = listCampaigns times organization right := by
  unfold listCampaigns
  rw [agree.campaigns.entriesWhere_eq (fun _ => id) (fun _ => id) fun _ _ _ _ _ => rfl]

theorem campaignOr404_congr
    (agree : Database.AgreeOn organization left right)
    (campaignId : Nat) :
    campaignOr404 organization left campaignId = campaignOr404 organization right campaignId := by
  unfold campaignOr404
  rw [agree.campaigns campaignId]

theorem contactOr404_congr
    (agree : Database.AgreeOn organization left right)
    (contactId : Nat) :
    contactOr404 organization left contactId = contactOr404 organization right contactId := by
  unfold contactOr404
  rw [agree.contacts contactId]

/-- A campaign that is not refused belongs to the organization. -/
theorem ownsCampaign_of_campaignOr404
    {campaignId : Nat}
    {campaign : Campaign}
    (found : campaignOr404 organization left campaignId = .ok campaign) :
    left.OwnsCampaign organization campaignId := by
  unfold campaignOr404 at found
  split at found
  · next stored filtered =>
      obtain ⟨present, owner⟩ := Option.filter_eq_some_iff.mp filtered
      exact ⟨stored, present, beq_iff_eq.mp owner⟩
  · cases found

/-- A contact that is not refused belongs to the organization. -/
theorem owns_of_contactOr404
    {contactId : Nat}
    {contact : Contact}
    (found : contactOr404 organization left contactId = .ok contact) :
    (left.contacts.get contactId).any (left.owns organization) = true := by
  unfold contactOr404 at found
  split at found
  · next stored filtered =>
      obtain ⟨present, owner⟩ := Option.filter_eq_some_iff.mp filtered
      exact (Option.any_eq_true _ _).mpr ⟨stored, present, owner⟩
  · cases found

/-- Both states agree on whose a campaign is. -/
theorem ownsCampaign_congr
    {campaignId : Nat}
    (agree : Database.AgreeOn organization left right)
    (owns : left.OwnsCampaign organization campaignId) :
    right.OwnsCampaign organization campaignId := by
  obtain ⟨campaign, found, owner⟩ := owns
  obtain ⟨kept, -⟩ := agree.campaigns.get found (by rw [owner, beq_self_eq_true])
  exact ⟨campaign, kept, owner⟩

theorem owns_of_campaignId
    {database : Database}
    {contact : Contact}
    (owns : database.OwnsCampaign organization contact.campaignId) :
    database.owns organization contact = true := by
  obtain ⟨campaign, found, owner⟩ := owns
  simp [Database.owns, Database.organizationOf, Database.campaignOf, found, owner]

/-- The contacts of an own campaign are own rows. -/
theorem contactsOf_congr
    {campaignId : Nat}
    (agree : Database.AgreeOn organization left right)
    (owns : left.OwnsCampaign organization campaignId) :
    contactsOf times left campaignId = contactsOf times right campaignId := by
  unfold contactsOf
  congr 1
  refine agree.contacts.entriesWhere_eq ?_ ?_ fun _ _ _ _ _ => rfl
  · intro contact here
    obtain rfl := beq_iff_eq.mp here
    exact owns_of_campaignId owns
  · intro contact here
    obtain rfl := beq_iff_eq.mp here
    exact owns_of_campaignId (ownsCampaign_congr agree owns)

/-- The messages of a contact of the organization are messages of the organization. -/
theorem inOrganization_of_contactId
    {database : Database}
    {contactId : Nat}
    (owns : (database.contacts.get contactId).any (database.owns organization) = true)
    (message : Message)
    (here : (message.contactId == contactId) = true) :
    inOrganization database (some organization) message = true := by
  obtain rfl := beq_iff_eq.mp here
  exact owns

/-- Both states agree on whose a contact is. -/
theorem owns_congr
    {contactId : Nat}
    (agree : Database.AgreeOn organization left right) :
    (left.contacts.get contactId).any (left.owns organization) =
      (right.contacts.get contactId).any (right.owns organization) :=
  agree.scope_contacts contactId

theorem entriesWhere_contactId
    {contactId : Nat}
    (agree : Database.AgreeOn organization left right)
    (owns : (left.contacts.get contactId).any (left.owns organization) = true) :
    left.messages.entriesWhere (fun message => message.contactId == contactId) =
      right.messages.entriesWhere fun message => message.contactId == contactId :=
  agree.messages.entriesWhere_eq (inOrganization_of_contactId owns)
    (inOrganization_of_contactId ((owns_congr agree).symm.trans owns)) fun _ _ _ _ _ => rfl

/-- The thread of an own contact is made of own messages. -/
theorem messagesOf_congr
    {contactId : Nat}
    (agree : Database.AgreeOn organization left right)
    (owns : (left.contacts.get contactId).any (left.owns organization) = true) :
    messagesOf left contactId = messagesOf right contactId := by
  unfold messagesOf
  rw [entriesWhere_contactId agree owns]

theorem listMailboxes_congr (agree : Database.AgreeOn organization left right) :
    listMailboxes times organization left = listMailboxes times organization right := by
  unfold listMailboxes
  rw [agree.mailboxes.entriesWhere_eq (fun _ => id) (fun _ => id) fun _ _ _ _ _ => rfl]

/-- A mailbox of another organization is as good as none. -/
theorem mailboxOr404_congr
    (agree : Database.AgreeOn organization left right)
    (publicReference : String) :
    mailboxOr404 times organization left publicReference =
      mailboxOr404 times organization right publicReference := by
  have same : ownedMailbox organization publicReference left =
      ownedMailbox organization publicReference right := by
    unfold ownedMailbox
    rw [Table.firstWhere_entry, Table.firstWhere_entry]
    congr 1
    refine agree.mailboxes.entriesWhere_eq ?_ ?_ fun _ _ _ _ _ => rfl
    · exact fun _ holds => (Bool.and_eq_true _ _ ▸ holds).2
    · exact fun _ holds => (Bool.and_eq_true _ _ ▸ holds).2
  unfold mailboxOr404
  rw [same]

theorem checkSuppressed_congr
    (agree : Database.AgreeOn organization left right)
    (email : String) :
    checkSuppressed organization left email = checkSuppressed organization right email := by
  have wider : ∀ (_ : Nat) (row : SuppressionEntry),
      (row.email == email && row.organizationId == some organization) = true →
        (row.organizationId == some organization) = true :=
    fun _ _ holds => (Bool.and_eq_true _ _ ▸ holds).2
  unfold checkSuppressed
  rw [Table.existsWhere_eq_any_select _ fun key row _ => wider key row,
    Table.existsWhere_eq_any_select _ fun key row _ => wider key row,
    agree.suppressions.select_eq]

theorem getLeadboostOutreachAction_congr
    (agree : Database.AgreeOn organization left right)
    (idempotencyKey : String) :
    getLeadboostOutreachAction organization left idempotencyKey =
      getLeadboostOutreachAction organization right idempotencyKey := by
  have wider : ∀ row : ExternalDispatch,
      (row.organizationId == organization && row.idempotencyKey == idempotencyKey) = true →
        (row.organizationId == organization) = true :=
    fun _ holds => (Bool.and_eq_true _ _ ▸ holds).1
  unfold getLeadboostOutreachAction findDispatch
  rw [Table.firstWhere_bind_get, Table.firstWhere_bind_get,
    Table.select_select left.dispatches _ wider, Table.select_select right.dispatches _ wider,
    agree.dispatches.select_eq]

/-! ### The conversation -/

theorem ownMailbox_congr
    (agree : Database.AgreeOn organization left right)
    (mailboxId : Option Nat) :
    ownMailbox left organization mailboxId = ownMailbox right organization mailboxId := by
  unfold ownMailbox
  cases mailboxId with
  | none => rfl
  | some key => exact agree.mailboxes key

/-- What is joined to a message of an own contact is own as well. -/
theorem joinedRows_congr
    (agree : Database.AgreeOn organization left right)
    (contactId key : Nat)
    (message : Message) :
    joinedRows left organization contactId key message =
      joinedRows right organization contactId key message := by
  have own : ∀ row : ExternalDispatch, produces organization contactId key row = true →
      (row.organizationId == organization) = true :=
    fun _ holds => beq_iff_eq.mpr (produces_iff.mp holds).2.1
  unfold joinedRows
  rw [Table.select_select left.dispatches _ own, Table.select_select right.dispatches _ own,
    agree.dispatches.select_eq]
  simp only [ownMailbox_congr agree]

theorem ownedRows_congr
    {contactId : Nat}
    (agree : Database.AgreeOn organization left right)
    (owns : (left.contacts.get contactId).any (left.owns organization) = true) :
    ownedRows left organization contactId = ownedRows right organization contactId := by
  have keys : left.messages.keysWhere (fun message => message.contactId == contactId) =
      right.messages.keysWhere fun message => message.contactId == contactId :=
    Table.keysWhere_congr (agree.messages.any_eq (inOrganization_of_contactId owns)
      (inOrganization_of_contactId ((owns_congr agree).symm.trans owns)) fun _ _ _ _ _ => rfl)
  unfold ownedRows
  rw [← keys]
  congr 1
  refine List.flatMap_congr fun key member => ?_
  obtain ⟨message, found, here⟩ := (Table.mem_keysWhere _ _ _).mp member
  rw [found, (agree.messages.get found (inOrganization_of_contactId owns message here)).1]
  exact joinedRows_congr agree contactId key message

theorem conversationRoot_congr
    (agree : Database.AgreeOn organization left right)
    (idempotencyKey : String) :
    conversationRoot left organization idempotencyKey =
      conversationRoot right organization idempotencyKey := by
  unfold conversationRoot Table.firstWhere
  congr 1
  have owner : ∀ {database : Database} {row : ExternalDispatch},
      (row.organizationId == organization && row.idempotencyKey == idempotencyKey &&
        (database.contacts.get row.contactId).any fun contact =>
          database.organizationOf contact == some organization) = true →
      (row.organizationId == organization) = true := by
    intro database row holds
    rw [Bool.and_eq_true, Bool.and_eq_true] at holds
    exact holds.1.1
  exact Table.keysWhere_congr (agree.dispatches.any_eq (fun _ => owner) (fun _ => owner)
    fun _ _ _ _ _ => congrArg _ (owns_congr agree))

/-- Nothing of another organization changes the conversation. -/
theorem getLeadboostOutreachConversation_congr
    (agree : Database.AgreeOn organization left right)
    (idempotencyKey : String)
    (limit : Nat) :
    getLeadboostOutreachConversation left organization idempotencyKey limit =
      getLeadboostOutreachConversation right organization idempotencyKey limit := by
  unfold getLeadboostOutreachConversation
  rw [← conversationRoot_congr agree]
  cases first : conversationRoot left organization idempotencyKey with
  | none => rfl
  | some key =>
      obtain ⟨root, found, holds⟩ := Table.firstWhere_eq_some first
      simp only [Bool.and_eq_true] at holds
      have owns : (left.contacts.get root.contactId).any (left.owns organization) = true :=
        holds.2
      have kept := (agree.dispatches.get found holds.1.1).1
      simp only [Option.bind_eq_bind, Option.bind_some, found, kept, conversationRows,
        ownedRows_congr agree owns, ownMailbox_congr agree]
      rfl

/-! ### Metrics -/

/-- The counts by status are of own contacts. -/
theorem contactStates_congr (agree : Database.AgreeOn organization left right) :
    contactStates organization left = contactStates organization right := by
  unfold contactStates
  rw [agree.contacts.select_eq]

/-- The statistics of the tenant are about own messages. -/
theorem ownMessages_congr (agree : Database.AgreeOn organization left right) :
    ownMessages organization left = ownMessages organization right :=
  agree.messages.select_eq

theorem messageStatistics_congr (agree : Database.AgreeOn organization left right) :
    messageStatistics organization left = messageStatistics organization right := by
  unfold messageStatistics
  rw [ownMessages_congr agree]

theorem classificationStatistics_congr (agree : Database.AgreeOn organization left right) :
    classificationStatistics organization left =
      classificationStatistics organization right := by
  unfold classificationStatistics ownInbound
  rw [ownMessages_congr agree]

theorem failureReasons_congr (agree : Database.AgreeOn organization left right) :
    failureReasons organization left = failureReasons organization right := by
  unfold failureReasons ownInbound
  rw [ownMessages_congr agree]

/-! ### Requests -/

/-- A request whose queries see the same rows of the organization as one state answers as if
it had only seen this state. -/
theorem ReadRequest.respond_congr
    {seen : Snapshots}
    {database : Database}
    (agree : ∀ position, Database.AgreeOn organization (seen position) database)
    (request : ReadRequest) :
    request.respond times organization seen =
      request.respond times organization fun _ => database := by
  have between := (agree 1).trans (agree 0).symm
  cases request with
  | listCampaigns => simp only [respond, listCampaigns_congr (agree 0)]
  | getCampaign campaignId => simp only [respond, campaignOr404_congr (agree 0)]
  | listContacts campaignId =>
      simp only [respond, ← campaignOr404_congr (agree 0)]
      cases found : campaignOr404 organization (seen 0) campaignId with
      | error failure => rfl
      | ok campaign =>
          have owns := ownsCampaign_congr between.symm (ownsCampaign_of_campaignOr404 found)
          simp only [Except.map, contactsOf_congr (agree 1) owns]
  | getContact contactId => simp only [respond, contactOr404_congr (agree 0)]
  | getThread contactId =>
      simp only [respond, ← contactOr404_congr (agree 0)]
      cases found : contactOr404 organization (seen 0) contactId with
      | error failure => rfl
      | ok contact =>
          have owns := (owns_congr between).trans (owns_of_contactOr404 found)
          simp only [Except.map, messagesOf_congr (agree 1) owns]
  | listMailboxes => simp only [respond, listMailboxes_congr (agree 0)]
  | getMailbox publicReference => simp only [respond, mailboxOr404_congr (agree 0)]
  | checkSuppressed email => simp only [respond, checkSuppressed_congr (agree 0)]
  | getLeadboostOutreachAction idempotencyKey =>
      simp only [respond, getLeadboostOutreachAction_congr (agree 0)]
  | getLeadboostOutreachConversation idempotencyKey limit =>
      simp only [respond, getLeadboostOutreachConversation_congr (agree 0)]
  | getSystemHealth =>
      simp only [respond, Access.getSystemHealth, contactStates_congr (agree 0),
        messageStatistics_congr (agree 1), classificationStatistics_congr (agree 2)]
  | getClassificationMetrics =>
      simp only [respond, Access.getClassificationMetrics,
        classificationStatistics_congr (agree 0), failureReasons_congr (agree 1)]
  | getStateDistribution =>
      simp only [respond, Access.getStateDistribution, contactStates_congr (agree 0)]

end Agreement

end Access
end MailerAgent
