import MailerAgent.Foundation.Table
import MailerAgent.Models.Rows

/-!
# The database

All tables with their unique indexes and foreign keys. An insertion that would
violate a constraint fails with an integrity error (`none`); nothing in the
repository deletes a row of these tables. `WellFormed` says that the constraints
hold of the stored rows; the operations below keep it.
-/

namespace MailerAgent

open Relational

/-- The committed contents of the tables. -/
structure Database where
  campaigns : Table Campaign := .empty
  contacts : Table Contact := .empty
  messages : Table Message := .empty
  dispatches : Table ExternalDispatch := .empty
  suppressions : Table SuppressionEntry := .empty
  mailboxes : Table Mailbox := .empty
  unmatched : Table UnmatchedInboundMessage := .empty
  deriving DecidableEq, Repr

/-- `uq_campaigns_org_integration_source`. -/
def Campaign.integrationKey (campaign : Campaign) : Option (String × String) :=
  match campaign.organizationId, campaign.integrationSource with
  | some organization, some source => some (organization, source)
  | _, _ => none

/-- `uq_contacts_campaign_email`. -/
def Contact.campaignEmail (contact : Contact) : Option (Nat × String) :=
  some (contact.campaignId, contact.email)

/-- `uq_messages_message_id_no_mailbox`. -/
def Message.globalIdentity (message : Message) : Option String :=
  if message.mailboxId = none then message.messageIdHeader else none

/-- `uq_messages_mailbox_message_id`. -/
def Message.mailboxIdentity (message : Message) : Option (Nat × String) :=
  match message.mailboxId, message.messageIdHeader with
  | some mailbox, some header => some (mailbox, header)
  | _, _ => none

/-- `uq_external_dispatches_org_idempotency_key`. -/
def ExternalDispatch.idempotency (dispatch : ExternalDispatch) :
    Option (String × String) :=
  some (dispatch.organizationId, dispatch.idempotencyKey)

/-- `uq_external_dispatches_public_reference`. -/
def ExternalDispatch.reference (dispatch : ExternalDispatch) : Option String :=
  some dispatch.publicReference

/-- `uq_suppression_email_org`. -/
def SuppressionEntry.emailOrganization (entry : SuppressionEntry) :
    Option (String × String) :=
  entry.organizationId.map fun organization => (entry.email, organization)

/-- `uq_mailboxes_org_email`. -/
def Mailbox.organizationEmail (mailbox : Mailbox) : Option (String × String) :=
  some (mailbox.organizationId, mailbox.emailAddress)

/-- `uq_mailboxes_public_reference`. -/
def Mailbox.reference (mailbox : Mailbox) : Option String :=
  some mailbox.publicReference

/-- `uq_unmatched_inbound_mailbox_message_id`. -/
def UnmatchedInboundMessage.mailboxIdentity (row : UnmatchedInboundMessage) :
    Option (Nat × String) :=
  some (row.mailboxId, row.messageIdHeader)

namespace Database

/-- The campaign of a contact. -/
def campaignOf
    (database : Database)
    (contact : Contact) : Option Campaign :=
  database.campaigns.get contact.campaignId

/-- The organization that owns a contact, through its campaign. -/
def organizationOf
    (database : Database)
    (contact : Contact) : Option String :=
  (database.campaignOf contact).bind Campaign.organizationId

/-- `contact_is_integration_managed`. -/
def contactIsIntegrationManaged
    (database : Database)
    (contact : Contact) : Bool :=
  (database.campaignOf contact).any fun campaign => campaign.integrationSource.isSome

/-- `is_email_suppressed`; without an organization any entry counts. -/
def isEmailSuppressed
    (database : Database)
    (email : String)
    (organization : Option String) : Bool :=
  database.suppressions.existsWhere fun entry =>
    entry.email == email && organization.all fun org => entry.organizationId == some org

/-- Insert a campaign. -/
def insertCampaign
    (database : Database)
    (row : Campaign) : Option Database :=
  if database.campaigns.clashes Campaign.integrationKey row then none
  else some { database with campaigns := database.campaigns.insert row }

/-- Insert a contact. -/
def insertContact
    (database : Database)
    (row : Contact) : Option Database :=
  if row.campaignId < database.campaigns.size then
    if database.contacts.clashes Contact.campaignEmail row then none
    else some { database with contacts := database.contacts.insert row }
  else none

/-- Whether a message row violates a unique index or a foreign key. -/
def messageRejected
    (database : Database)
    (row : Message) : Bool :=
  !(row.contactId < database.contacts.size) ||
    !(row.mailboxId.all fun mailbox => mailbox < database.mailboxes.size) ||
    database.messages.clashes Message.globalIdentity row ||
    database.messages.clashes Message.mailboxIdentity row ||
    database.messages.clashes Message.replyReference row

/-- Insert a message. -/
def insertMessage
    (database : Database)
    (row : Message) : Option Database :=
  if database.messageRejected row then none
  else some { database with messages := database.messages.insert row }

/-- Whether a dispatch row violates a unique index or a foreign key. -/
def dispatchRejected
    (database : Database)
    (row : ExternalDispatch) : Bool :=
  !(row.campaignId < database.campaigns.size) ||
    !(row.contactId < database.contacts.size) ||
    !(row.messageId.all fun message => message < database.messages.size) ||
    !(row.mailboxId.all fun mailbox => mailbox < database.mailboxes.size) ||
    database.dispatches.clashes ExternalDispatch.idempotency row ||
    database.dispatches.clashes ExternalDispatch.reference row

/-- Insert a dispatch. -/
def insertDispatch
    (database : Database)
    (row : ExternalDispatch) : Option Database :=
  if database.dispatchRejected row then none
  else some { database with dispatches := database.dispatches.insert row }

/-- Insert a suppression entry. -/
def insertSuppression
    (database : Database)
    (row : SuppressionEntry) :
    Option Database :=
  if database.suppressions.clashes SuppressionEntry.emailOrganization row then none
  else some { database with suppressions := database.suppressions.insert row }

/-- Insert a mailbox. -/
def insertMailbox
    (database : Database)
    (row : Mailbox) : Option Database :=
  if database.mailboxes.clashes Mailbox.organizationEmail row ||
      database.mailboxes.clashes Mailbox.reference row then none
  else some { database with mailboxes := database.mailboxes.insert row }

/-- Insert a retained message. -/
def insertUnmatched
    (database : Database)
    (row : UnmatchedInboundMessage) :
    Option Database :=
  if row.mailboxId < database.mailboxes.size then
    if database.unmatched.clashes UnmatchedInboundMessage.mailboxIdentity row then none
    else some { database with unmatched := database.unmatched.insert row }
  else none

/-- Rewrite one campaign. -/
def modifyCampaign
    (database : Database)
    (key : Nat)
    (change : Campaign → Campaign) :
    Database :=
  { database with campaigns := database.campaigns.modify key change }

/-- Rewrite one contact. -/
def modifyContact
    (database : Database)
    (key : Nat)
    (change : Contact → Contact) :
    Database :=
  { database with contacts := database.contacts.modify key change }

/-- Rewrite one message. -/
def modifyMessage
    (database : Database)
    (key : Nat)
    (change : Message → Message) :
    Database :=
  { database with messages := database.messages.modify key change }

/-- Rewrite one dispatch. -/
def modifyDispatch
    (database : Database)
    (key : Nat)
    (change : ExternalDispatch → ExternalDispatch) : Database :=
  { database with dispatches := database.dispatches.modify key change }

/-- Rewrite one mailbox. -/
def modifyMailbox
    (database : Database)
    (key : Nat)
    (change : Mailbox → Mailbox) :
    Database :=
  { database with mailboxes := database.mailboxes.modify key change }

/-- Rewrite one retained message. -/
def modifyUnmatched
    (database : Database)
    (key : Nat)
    (change : UnmatchedInboundMessage → UnmatchedInboundMessage) : Database :=
  { database with unmatched := database.unmatched.modify key change }

/-- Whether another row of a table already has the key of a row. -/
def keyTaken
    {Row Key : Type}
    [DecidableEq Key]
    (table : Table Row)
    (key : Row → Option Key)
    (position : Nat)
    (row : Row) : Bool :=
  (key row).any fun value =>
    (table.keysWhere fun stored => key stored == some value).any fun other =>
      other != position

/-- Update of a message that may change its Message-ID; `none` is the integrity
error of a unique index. -/
def updateMessage
    (database : Database)
    (key : Nat)
    (change : Message → Message) :
    Option Database :=
  match database.messages.get key with
  | none => some database
  | some row =>
      if keyTaken database.messages Message.globalIdentity key (change row) ||
          keyTaken database.messages Message.mailboxIdentity key (change row) then none
      else some (database.modifyMessage key change)

/-- Update of a mailbox that may change its address. -/
def updateMailbox
    (database : Database)
    (key : Nat)
    (change : Mailbox → Mailbox) :
    Option Database :=
  match database.mailboxes.get key with
  | none => some database
  | some row =>
      if keyTaken database.mailboxes Mailbox.organizationEmail key (change row) then none
      else some (database.modifyMailbox key change)

/-- Guarded update of one dispatch; `none` is a row count of zero. -/
def updateDispatchWhere
    (database : Database)
    (key : Nat)
    (condition : ExternalDispatch → Bool)
    (change : ExternalDispatch → ExternalDispatch) : Option Database :=
  (database.dispatches.updateWhere key condition change).map fun dispatches =>
    { database with dispatches := dispatches }

/-- The unique indexes and foreign keys hold. -/
structure WellFormed (database : Database) : Prop where
  campaignIntegration : database.campaigns.UniqueBy Campaign.integrationKey
  contactEmail : database.contacts.UniqueBy Contact.campaignEmail
  messageGlobal : database.messages.UniqueBy Message.globalIdentity
  messageMailbox : database.messages.UniqueBy Message.mailboxIdentity
  messageReference : database.messages.UniqueBy Message.replyReference
  dispatchIdempotency : database.dispatches.UniqueBy ExternalDispatch.idempotency
  dispatchReference : database.dispatches.UniqueBy ExternalDispatch.reference
  suppressionEmail :
    database.suppressions.UniqueBy SuppressionEntry.emailOrganization
  mailboxEmail : database.mailboxes.UniqueBy Mailbox.organizationEmail
  mailboxReference : database.mailboxes.UniqueBy Mailbox.reference
  unmatchedIdentity :
    database.unmatched.UniqueBy UnmatchedInboundMessage.mailboxIdentity
  contactCampaign : ∀ key row, database.contacts.get key = some row →
    row.campaignId < database.campaigns.size
  messageContact : ∀ key row, database.messages.get key = some row →
    row.contactId < database.contacts.size
  messageMailboxRow : ∀ key row mailbox, database.messages.get key = some row →
    row.mailboxId = some mailbox → mailbox < database.mailboxes.size
  dispatchCampaign : ∀ key row, database.dispatches.get key = some row →
    row.campaignId < database.campaigns.size
  dispatchContact : ∀ key row, database.dispatches.get key = some row →
    row.contactId < database.contacts.size
  dispatchMessage : ∀ key row message, database.dispatches.get key = some row →
    row.messageId = some message → message < database.messages.size
  unmatchedMailbox : ∀ key row, database.unmatched.get key = some row →
    row.mailboxId < database.mailboxes.size

theorem wellFormed_empty : WellFormed {} where
  campaignIntegration := Table.UniqueBy.empty
  contactEmail := Table.UniqueBy.empty
  messageGlobal := Table.UniqueBy.empty
  messageMailbox := Table.UniqueBy.empty
  messageReference := Table.UniqueBy.empty
  dispatchIdempotency := Table.UniqueBy.empty
  dispatchReference := Table.UniqueBy.empty
  suppressionEmail := Table.UniqueBy.empty
  mailboxEmail := Table.UniqueBy.empty
  mailboxReference := Table.UniqueBy.empty
  unmatchedIdentity := Table.UniqueBy.empty
  contactCampaign _ _ found := Table.not_found_empty found
  messageContact _ _ found := Table.not_found_empty found
  messageMailboxRow _ _ _ found := Table.not_found_empty found
  dispatchCampaign _ _ found := Table.not_found_empty found
  dispatchContact _ _ found := Table.not_found_empty found
  dispatchMessage _ _ _ found := Table.not_found_empty found
  unmatchedMailbox _ _ found := Table.not_found_empty found

/-! ## What a successful insertion found and did -/

theorem insertCampaign_eq_some
    {database updated : Database}
    {row : Campaign}
    (inserted : database.insertCampaign row = some updated) :
    database.campaigns.clashes Campaign.integrationKey row = false ∧
      updated = { database with campaigns := database.campaigns.insert row } := by
  unfold insertCampaign at inserted
  split at inserted
  · cases inserted
  · next free => exact ⟨by simpa using free, (Option.some.inj inserted).symm⟩

theorem insertContact_eq_some
    {database updated : Database}
    {row : Contact}
    (inserted : database.insertContact row = some updated) :
    row.campaignId < database.campaigns.size ∧
      database.contacts.clashes Contact.campaignEmail row = false ∧
      updated = { database with contacts := database.contacts.insert row } := by
  unfold insertContact at inserted
  split at inserted
  · next present =>
      split at inserted
      · cases inserted
      · next free =>
          exact ⟨present, by simpa using free, (Option.some.inj inserted).symm⟩
  · cases inserted

theorem insertMessage_eq_some
    {database updated : Database}
    {row : Message}
    (inserted : database.insertMessage row = some updated) :
    database.messageRejected row = false ∧
      updated = { database with messages := database.messages.insert row } := by
  unfold insertMessage at inserted
  split at inserted
  · cases inserted
  · next free => exact ⟨by simpa using free, (Option.some.inj inserted).symm⟩

theorem insertDispatch_eq_some
    {database updated : Database}
    {row : ExternalDispatch}
    (inserted : database.insertDispatch row = some updated) :
    database.dispatchRejected row = false ∧
      updated = { database with dispatches := database.dispatches.insert row } := by
  unfold insertDispatch at inserted
  split at inserted
  · cases inserted
  · next free => exact ⟨by simpa using free, (Option.some.inj inserted).symm⟩

theorem insertSuppression_eq_some
    {database updated : Database}
    {row : SuppressionEntry}
    (inserted : database.insertSuppression row = some updated) :
    database.suppressions.clashes SuppressionEntry.emailOrganization row = false ∧
      updated = { database with suppressions := database.suppressions.insert row } := by
  unfold insertSuppression at inserted
  split at inserted
  · cases inserted
  · next free => exact ⟨by simpa using free, (Option.some.inj inserted).symm⟩

theorem insertMailbox_eq_some
    {database updated : Database}
    {row : Mailbox}
    (inserted : database.insertMailbox row = some updated) :
    database.mailboxes.clashes Mailbox.organizationEmail row = false ∧
      database.mailboxes.clashes Mailbox.reference row = false ∧
      updated = { database with mailboxes := database.mailboxes.insert row } := by
  unfold insertMailbox at inserted
  split at inserted
  · cases inserted
  · next free =>
      simp only [Bool.not_eq_true, Bool.or_eq_false_iff] at free
      exact ⟨free.1, free.2, (Option.some.inj inserted).symm⟩

theorem insertUnmatched_eq_some
    {database updated : Database}
    {row : UnmatchedInboundMessage}
    (inserted : database.insertUnmatched row = some updated) :
    row.mailboxId < database.mailboxes.size ∧
      database.unmatched.clashes UnmatchedInboundMessage.mailboxIdentity row = false ∧
      updated = { database with unmatched := database.unmatched.insert row } := by
  unfold insertUnmatched at inserted
  split at inserted
  · next present =>
      split at inserted
      · cases inserted
      · next free =>
          exact ⟨present, by simpa using free, (Option.some.inj inserted).symm⟩
  · cases inserted

/-- What the constraints say of an admissible message row. -/
theorem messageRejected_eq_false
    {database : Database}
    {row : Message}
    (admissible : database.messageRejected row = false) :
    row.contactId < database.contacts.size ∧
      (∀ mailbox, row.mailboxId = some mailbox → mailbox < database.mailboxes.size) ∧
      database.messages.clashes Message.globalIdentity row = false ∧
      database.messages.clashes Message.mailboxIdentity row = false ∧
      database.messages.clashes Message.replyReference row = false := by
  unfold messageRejected at admissible
  simp only [Bool.or_eq_false_iff, Bool.not_eq_false', decide_eq_true_eq] at admissible
  obtain ⟨⟨⟨⟨contact, mailbox⟩, global⟩, perMailbox⟩, reference⟩ := admissible
  refine ⟨contact, ?_, global, perMailbox, reference⟩
  intro key equal
  rw [equal] at mailbox
  simpa using mailbox

/-- What the constraints say of an admissible dispatch row. -/
theorem dispatchRejected_eq_false
    {database : Database}
    {row : ExternalDispatch}
    (admissible : database.dispatchRejected row = false) :
    row.campaignId < database.campaigns.size ∧
      row.contactId < database.contacts.size ∧
      (∀ message, row.messageId = some message → message < database.messages.size) ∧
      database.dispatches.clashes ExternalDispatch.idempotency row = false ∧
      database.dispatches.clashes ExternalDispatch.reference row = false := by
  unfold dispatchRejected at admissible
  simp only [Bool.or_eq_false_iff, Bool.not_eq_false', decide_eq_true_eq] at admissible
  obtain ⟨⟨⟨⟨⟨campaign, contact⟩, message⟩, -⟩, idempotency⟩, reference⟩ := admissible
  refine ⟨campaign, contact, ?_, idempotency, reference⟩
  intro key equal
  rw [equal] at message
  simpa using message

theorem keyTaken_eq_false
    {Row Key : Type}
    [DecidableEq Key]
    {table : Table Row}
    {key : Row → Option Key}
    {position : Nat}
    {row : Row}
    (free : keyTaken table key position row = false)
    {value : Key}
    (valued : key row = some value)
    {other : Nat}
    {stored : Row}
    (elsewhere : other ≠ position)
    (found : table.get other = some stored) :
    key stored ≠ some value := by
  intro equal
  unfold keyTaken at free
  rw [valued] at free
  simp only [Option.any_some, List.any_eq_false] at free
  have member : other ∈ table.keysWhere fun stored => key stored == some value :=
    (table.mem_keysWhere _ other).mpr ⟨stored, found, by simp [equal]⟩
  exact free other member (by simpa using elsewhere)

/-- A successful update of a message: it rewrote the row, or there was none. -/
theorem updateMessage_eq_some
    {database updated : Database}
    {key : Nat}
    {change : Message → Message}
    (applied : database.updateMessage key change = some updated) :
    updated = database.modifyMessage key change ∧
      ∀ row, database.messages.get key = some row →
        keyTaken database.messages Message.globalIdentity key (change row) = false ∧
        keyTaken database.messages Message.mailboxIdentity key (change row) = false := by
  unfold updateMessage at applied
  split at applied
  · next absent =>
      have unchanged : database.messages.modify key change = database.messages := by
        apply Table.ext_get
        intro position
        rw [Table.get_modify]
        split
        · next here => rw [here, absent]; rfl
        · rfl
      constructor
      · unfold modifyMessage
        rw [unchanged]
        exact (Option.some.inj applied).symm
      · intro row present
        rw [absent] at present
        cases present
  · next row found =>
      split at applied
      · cases applied
      · next free =>
          simp only [Bool.not_eq_true, Bool.or_eq_false_iff] at free
          refine ⟨(Option.some.inj applied).symm, ?_⟩
          intro stored present
          obtain rfl : row = stored := Option.some.inj (found.symm.trans present)
          exact free

/-! ## Well-formedness is kept -/

/-- Foreign keys into a table survive an insertion. -/
theorem lt_size_insert
    {Row : Type}
    {table : Table Row}
    {key : Nat}
    (row : Row)
    (valid : key < table.size) :
    key < (table.insert row).size := by
  rw [Table.size_insert]
  exact Nat.lt_succ_of_lt valid

namespace WellFormed

variable {database updated : Database}

theorem insertCampaign
    {row : Campaign}
    (wellFormed : database.WellFormed)
    (inserted : database.insertCampaign row = some updated) :
    updated.WellFormed := by
  obtain ⟨free, rfl⟩ := insertCampaign_eq_some inserted
  exact { wellFormed with
    campaignIntegration := wellFormed.campaignIntegration.insert free
    contactCampaign := fun key contact found =>
      lt_size_insert row (wellFormed.contactCampaign key contact found)
    dispatchCampaign := fun key dispatch found =>
      lt_size_insert row (wellFormed.dispatchCampaign key dispatch found) }

theorem insertContact
    {row : Contact}
    (wellFormed : database.WellFormed)
    (inserted : database.insertContact row = some updated) :
    updated.WellFormed := by
  obtain ⟨campaign, free, rfl⟩ := insertContact_eq_some inserted
  refine { wellFormed with
    contactEmail := wellFormed.contactEmail.insert free
    contactCampaign := ?_
    messageContact := fun key message found =>
      lt_size_insert row (wellFormed.messageContact key message found)
    dispatchContact := fun key dispatch found =>
      lt_size_insert row (wellFormed.dispatchContact key dispatch found) }
  intro key contact found
  rcases Table.get_insert_cases found with old | ⟨-, rfl⟩
  · exact wellFormed.contactCampaign key contact old
  · exact campaign

theorem insertMessage
    {row : Message}
    (wellFormed : database.WellFormed)
    (inserted : database.insertMessage row = some updated) :
    updated.WellFormed := by
  obtain ⟨admissible, rfl⟩ := insertMessage_eq_some inserted
  obtain ⟨contact, mailbox, global, perMailbox, reference⟩ :=
    messageRejected_eq_false admissible
  refine { wellFormed with
    messageGlobal := wellFormed.messageGlobal.insert global
    messageMailbox := wellFormed.messageMailbox.insert perMailbox
    messageReference := wellFormed.messageReference.insert reference
    messageContact := ?_
    messageMailboxRow := ?_
    dispatchMessage := fun key dispatch message found equal =>
      lt_size_insert row (wellFormed.dispatchMessage key dispatch message found equal) }
  · intro key message found
    rcases Table.get_insert_cases found with old | ⟨-, rfl⟩
    · exact wellFormed.messageContact key message old
    · exact contact
  · intro key message stored found equal
    rcases Table.get_insert_cases found with old | ⟨-, rfl⟩
    · exact wellFormed.messageMailboxRow key message stored old equal
    · exact mailbox stored equal

theorem insertDispatch
    {row : ExternalDispatch}
    (wellFormed : database.WellFormed)
    (inserted : database.insertDispatch row = some updated) :
    updated.WellFormed := by
  obtain ⟨admissible, rfl⟩ := insertDispatch_eq_some inserted
  obtain ⟨campaign, contact, message, idempotency, reference⟩ :=
    dispatchRejected_eq_false admissible
  refine { wellFormed with
    dispatchIdempotency := wellFormed.dispatchIdempotency.insert idempotency
    dispatchReference := wellFormed.dispatchReference.insert reference
    dispatchCampaign := ?_
    dispatchContact := ?_
    dispatchMessage := ?_ }
  · intro key dispatch found
    rcases Table.get_insert_cases found with old | ⟨-, rfl⟩
    · exact wellFormed.dispatchCampaign key dispatch old
    · exact campaign
  · intro key dispatch found
    rcases Table.get_insert_cases found with old | ⟨-, rfl⟩
    · exact wellFormed.dispatchContact key dispatch old
    · exact contact
  · intro key dispatch stored found equal
    rcases Table.get_insert_cases found with old | ⟨-, rfl⟩
    · exact wellFormed.dispatchMessage key dispatch stored old equal
    · exact message stored equal

theorem insertSuppression
    {row : SuppressionEntry}
    (wellFormed : database.WellFormed)
    (inserted : database.insertSuppression row = some updated) :
    updated.WellFormed := by
  obtain ⟨free, rfl⟩ := insertSuppression_eq_some inserted
  exact { wellFormed with
    suppressionEmail := wellFormed.suppressionEmail.insert free }

theorem insertMailbox
    {row : Mailbox}
    (wellFormed : database.WellFormed)
    (inserted : database.insertMailbox row = some updated) :
    updated.WellFormed := by
  obtain ⟨emailFree, referenceFree, rfl⟩ := insertMailbox_eq_some inserted
  exact { wellFormed with
    mailboxEmail := wellFormed.mailboxEmail.insert emailFree
    mailboxReference := wellFormed.mailboxReference.insert referenceFree
    messageMailboxRow := fun key message mailbox found equal =>
      lt_size_insert row (wellFormed.messageMailboxRow key message mailbox found equal)
    unmatchedMailbox := fun key retained found =>
      lt_size_insert row (wellFormed.unmatchedMailbox key retained found) }

theorem insertUnmatched
    {row : UnmatchedInboundMessage}
    (wellFormed : database.WellFormed)
    (inserted : database.insertUnmatched row = some updated) :
    updated.WellFormed := by
  obtain ⟨mailbox, free, rfl⟩ := insertUnmatched_eq_some inserted
  refine { wellFormed with
    unmatchedIdentity := wellFormed.unmatchedIdentity.insert free
    unmatchedMailbox := ?_ }
  intro key retained found
  rcases Table.get_insert_cases found with old | ⟨-, rfl⟩
  · exact wellFormed.unmatchedMailbox key retained old
  · exact mailbox

theorem modifyCampaign
    {key : Nat}
    {change : Campaign → Campaign}
    (wellFormed : database.WellFormed)
    (kept : ∀ row, database.campaigns.get key = some row →
      (change row).integrationKey = row.integrationKey) :
    (database.modifyCampaign key change).WellFormed :=
  { wellFormed with
    campaignIntegration := wellFormed.campaignIntegration.modify kept
    contactCampaign := fun position contact found => by
      simpa [Database.modifyCampaign] using
        wellFormed.contactCampaign position contact found
    dispatchCampaign := fun position dispatch found => by
      simpa [Database.modifyCampaign] using
        wellFormed.dispatchCampaign position dispatch found }

theorem modifyContact
    {key : Nat}
    {change : Contact → Contact}
    (wellFormed : database.WellFormed)
    (kept : ∀ row, database.contacts.get key = some row →
      (change row).campaignId = row.campaignId ∧ (change row).email = row.email) :
    (database.modifyContact key change).WellFormed := by
  refine { wellFormed with
    contactEmail := wellFormed.contactEmail.modify ?_
    contactCampaign := ?_
    messageContact := fun position message found => by
      simpa [Database.modifyContact] using
        wellFormed.messageContact position message found
    dispatchContact := fun position dispatch found => by
      simpa [Database.modifyContact] using
        wellFormed.dispatchContact position dispatch found }
  · intro row found
    simp [Contact.campaignEmail, kept row found]
  · intro position contact found
    obtain ⟨before, old, rfl⟩ := Table.get_modify_cases found
    split
    · next here =>
        rw [(kept before (here ▸ old)).1]
        exact wellFormed.contactCampaign position before old
    · exact wellFormed.contactCampaign position before old

theorem updateMessage
    {key : Nat}
    {change : Message → Message}
    (wellFormed : database.WellFormed)
    (kept : ∀ row, database.messages.get key = some row →
      (change row).contactId = row.contactId ∧
      (change row).mailboxId = row.mailboxId ∧
      (change row).replyReference = row.replyReference)
    (applied : database.updateMessage key change = some updated) :
    updated.WellFormed := by
  obtain ⟨rfl, free⟩ := updateMessage_eq_some applied
  refine { wellFormed with
    messageGlobal := wellFormed.messageGlobal.modify_fresh ?_
    messageMailbox := wellFormed.messageMailbox.modify_fresh ?_
    messageReference := wellFormed.messageReference.modify
      fun row found => (kept row found).2.2
    messageContact := ?_
    messageMailboxRow := ?_
    dispatchMessage := fun position dispatch message found equal => by
      simpa [Database.modifyMessage] using
        wellFormed.dispatchMessage position dispatch message found equal }
  · intro row value found valued other stored elsewhere foundOther
    exact keyTaken_eq_false (free row found).1 valued elsewhere foundOther
  · intro row value found valued other stored elsewhere foundOther
    exact keyTaken_eq_false (free row found).2 valued elsewhere foundOther
  · intro position message found
    obtain ⟨before, old, rfl⟩ := Table.get_modify_cases found
    split
    · next here =>
        rw [(kept before (here ▸ old)).1]
        exact wellFormed.messageContact position before old
    · exact wellFormed.messageContact position before old
  · intro position message mailbox found equal
    obtain ⟨before, old, rfl⟩ := Table.get_modify_cases found
    split at equal
    · next here =>
        rw [(kept before (here ▸ old)).2.1] at equal
        exact wellFormed.messageMailboxRow position before mailbox old equal
    · exact wellFormed.messageMailboxRow position before mailbox old equal

/-- Rewriting a message without touching an indexed column. -/
theorem modifyMessage
    {key : Nat}
    {change : Message → Message}
    (wellFormed : database.WellFormed)
    (kept : ∀ row, database.messages.get key = some row →
      (change row).contactId = row.contactId ∧
      (change row).mailboxId = row.mailboxId ∧
      (change row).replyReference = row.replyReference)
    (sameHeader : ∀ row, database.messages.get key = some row →
      (change row).messageIdHeader = row.messageIdHeader) :
    (database.modifyMessage key change).WellFormed := by
  refine { wellFormed with
    messageGlobal := wellFormed.messageGlobal.modify ?_
    messageMailbox := wellFormed.messageMailbox.modify ?_
    messageReference := wellFormed.messageReference.modify
      fun row found => (kept row found).2.2
    messageContact := ?_
    messageMailboxRow := ?_
    dispatchMessage := fun position dispatch message found equal => by
      simpa [Database.modifyMessage] using
        wellFormed.dispatchMessage position dispatch message found equal }
  · intro row found
    simp [Message.globalIdentity, kept row found, sameHeader row found]
  · intro row found
    simp [Message.mailboxIdentity, kept row found, sameHeader row found]
  · intro position message found
    obtain ⟨before, old, rfl⟩ := Table.get_modify_cases found
    split
    · next here =>
        rw [(kept before (here ▸ old)).1]
        exact wellFormed.messageContact position before old
    · exact wellFormed.messageContact position before old
  · intro position message mailbox found equal
    obtain ⟨before, old, rfl⟩ := Table.get_modify_cases found
    split at equal
    · next here =>
        rw [(kept before (here ▸ old)).2.1] at equal
        exact wellFormed.messageMailboxRow position before mailbox old equal
    · exact wellFormed.messageMailboxRow position before mailbox old equal

theorem modifyDispatch
    {key : Nat}
    {change : ExternalDispatch → ExternalDispatch}
    (wellFormed : database.WellFormed)
    (kept : ∀ row, database.dispatches.get key = some row →
      (change row).idempotency = row.idempotency ∧
      (change row).reference = row.reference ∧
      (change row).campaignId = row.campaignId ∧
      (change row).contactId = row.contactId)
    (message : ∀ row stored, database.dispatches.get key = some row →
      (change row).messageId = some stored → stored < database.messages.size) :
    (database.modifyDispatch key change).WellFormed := by
  refine { wellFormed with
    dispatchIdempotency := wellFormed.dispatchIdempotency.modify
      fun row found => (kept row found).1
    dispatchReference := wellFormed.dispatchReference.modify
      fun row found => (kept row found).2.1
    dispatchCampaign := ?_
    dispatchContact := ?_
    dispatchMessage := ?_ }
  · intro position dispatch found
    obtain ⟨before, old, rfl⟩ := Table.get_modify_cases found
    split
    · next here =>
        rw [(kept before (here ▸ old)).2.2.1]
        exact wellFormed.dispatchCampaign position before old
    · exact wellFormed.dispatchCampaign position before old
  · intro position dispatch found
    obtain ⟨before, old, rfl⟩ := Table.get_modify_cases found
    split
    · next here =>
        rw [(kept before (here ▸ old)).2.2.2]
        exact wellFormed.dispatchContact position before old
    · exact wellFormed.dispatchContact position before old
  · intro position dispatch stored found equal
    obtain ⟨before, old, rfl⟩ := Table.get_modify_cases found
    split at equal
    · next here => exact message before stored (here ▸ old) equal
    · exact wellFormed.dispatchMessage position before stored old equal

/-- Rewriting a mailbox without touching an indexed column. -/
theorem modifyMailbox
    {key : Nat}
    {change : Mailbox → Mailbox}
    (wellFormed : database.WellFormed)
    (kept : ∀ row, database.mailboxes.get key = some row →
      (change row).organizationEmail = row.organizationEmail ∧
      (change row).reference = row.reference) :
    (database.modifyMailbox key change).WellFormed :=
  { wellFormed with
    mailboxEmail := wellFormed.mailboxEmail.modify fun row found => (kept row found).1
    mailboxReference := wellFormed.mailboxReference.modify
      fun row found => (kept row found).2
    messageMailboxRow := fun position message mailbox found equal => by
      simpa [Database.modifyMailbox] using
        wellFormed.messageMailboxRow position message mailbox found equal
    unmatchedMailbox := fun position retained found => by
      simpa [Database.modifyMailbox] using
        wellFormed.unmatchedMailbox position retained found }

theorem modifyUnmatched
    {key : Nat}
    {change : UnmatchedInboundMessage → UnmatchedInboundMessage}
    (wellFormed : database.WellFormed)
    (kept : ∀ row, database.unmatched.get key = some row →
      (change row).mailboxId = row.mailboxId ∧
      (change row).messageIdHeader = row.messageIdHeader) :
    (database.modifyUnmatched key change).WellFormed := by
  refine { wellFormed with
    unmatchedIdentity := wellFormed.unmatchedIdentity.modify ?_
    unmatchedMailbox := ?_ }
  · intro row found
    simp [UnmatchedInboundMessage.mailboxIdentity, kept row found]
  · intro position retained found
    obtain ⟨before, old, rfl⟩ := Table.get_modify_cases found
    split
    · next here =>
        rw [(kept before (here ▸ old)).1]
        exact wellFormed.unmatchedMailbox position before old
    · exact wellFormed.unmatchedMailbox position before old

end WellFormed

end Database
end MailerAgent
