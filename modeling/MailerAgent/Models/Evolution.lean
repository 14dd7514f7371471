import MailerAgent.Models.Database

/-!
# How the database may evolve

`Extends` is the preorder that every step of every component respects: rows are
never deleted, the columns that identify them never change, and a dispatch that
reached a terminal state keeps it. `NativeExtends` is the part of it that the
components other than the dispatch pipeline are held to: they leave dispatches
alone, and the delivery status of every message of an integration contact.
`Sound` collects the invariants of the tables on their own. `InboxSound` ties
received messages and their interpretations to the suppression list.
-/

namespace MailerAgent

open Relational

/-- Ownership of a campaign is fixed. -/
def Campaign.SameOwner (before after : Campaign) : Prop :=
  after.organizationId = before.organizationId ∧
    after.integrationSource = before.integrationSource

/-- A contact stays in its campaign under its address. -/
def Contact.SamePerson (before after : Contact) : Prop :=
  after.campaignId = before.campaignId ∧ after.email = before.email

/-- A message stays with its contact and mailbox, and a received message keeps
its identity. -/
structure Message.Keeps (before after : Message) : Prop where
  contactId : after.contactId = before.contactId
  direction : after.direction = before.direction
  mailboxId : after.mailboxId = before.mailboxId
  identity : before.direction = .inbound →
    after.messageIdHeader = before.messageIdHeader

/-- Not yet handed to the sender. -/
def ExternalDispatchState.pending : ExternalDispatchState → Bool
  | queued => true
  | generating => true
  | _ => false

/-- Everything accepted about a dispatch is fixed, a message once attached stays
attached, a dispatch that left the queue for sending does not return, and
terminal states are final. -/
structure ExternalDispatch.Keeps (before after : ExternalDispatch) : Prop where
  organizationId : after.organizationId = before.organizationId
  idempotencyKey : after.idempotencyKey = before.idempotencyKey
  publicReference : after.publicReference = before.publicReference
  requestFingerprint : after.requestFingerprint = before.requestFingerprint
  campaignId : after.campaignId = before.campaignId
  contactId : after.contactId = before.contactId
  mailboxId : after.mailboxId = before.mailboxId
  groundingContext : after.groundingContext = before.groundingContext
  messageId : before.messageId ≠ none → after.messageId = before.messageId
  departed : before.state.pending = false → after.state.pending = false
  terminal : before.state.terminal = true → after.state = before.state

/-- A mailbox stays with its organization. -/
def Mailbox.SameOwner (before after : Mailbox) : Prop :=
  after.organizationId = before.organizationId

/-- A retained message keeps its identity. -/
def UnmatchedInboundMessage.SameMail (before after : UnmatchedInboundMessage) : Prop :=
  after.mailboxId = before.mailboxId ∧
    after.messageIdHeader = before.messageIdHeader ∧
    after.organizationId = before.organizationId

theorem Mailbox.SameOwner.refl (mailbox : Mailbox) :
    Mailbox.SameOwner mailbox mailbox :=
  Eq.refl mailbox.organizationId

theorem Message.Keeps.refl (message : Message) : Message.Keeps message message :=
  ⟨rfl, rfl, rfl, fun _ => rfl⟩

theorem Message.Keeps.trans
    (first second third : Message)
    (left : Message.Keeps first second)
    (right : Message.Keeps second third) :
    Message.Keeps first third where
  contactId := right.contactId.trans left.contactId
  direction := right.direction.trans left.direction
  mailboxId := right.mailboxId.trans left.mailboxId
  identity inbound :=
    (right.identity (left.direction.trans inbound)).trans (left.identity inbound)

theorem ExternalDispatch.Keeps.refl (dispatch : ExternalDispatch) :
    ExternalDispatch.Keeps dispatch dispatch :=
  ⟨rfl, rfl, rfl, rfl, rfl, rfl, rfl, rfl, fun _ => rfl, id, fun _ => rfl⟩

theorem ExternalDispatch.Keeps.trans
    (first second third : ExternalDispatch)
    (left : ExternalDispatch.Keeps first second)
    (right : ExternalDispatch.Keeps second third) :
    ExternalDispatch.Keeps first third where
  organizationId := right.organizationId.trans left.organizationId
  idempotencyKey := right.idempotencyKey.trans left.idempotencyKey
  publicReference := right.publicReference.trans left.publicReference
  requestFingerprint := right.requestFingerprint.trans left.requestFingerprint
  campaignId := right.campaignId.trans left.campaignId
  contactId := right.contactId.trans left.contactId
  mailboxId := right.mailboxId.trans left.mailboxId
  groundingContext := right.groundingContext.trans left.groundingContext
  messageId attached := by
    have kept := left.messageId attached
    exact (right.messageId (kept ▸ attached)).trans kept
  departed gone := right.departed (left.departed gone)
  terminal final := by
    have kept := left.terminal final
    exact (right.terminal (kept ▸ final)).trans kept

namespace Database

/-- Rows stay, with their identity. -/
structure Extends (before after : Database) : Prop where
  campaigns : Table.Extends Campaign.SameOwner before.campaigns after.campaigns
  contacts : Table.Extends Contact.SamePerson before.contacts after.contacts
  messages : Table.Extends Message.Keeps before.messages after.messages
  dispatches :
    Table.Extends ExternalDispatch.Keeps before.dispatches after.dispatches
  suppressions : Table.Extends Eq before.suppressions after.suppressions
  mailboxes : Table.Extends Mailbox.SameOwner before.mailboxes after.mailboxes
  unmatched :
    Table.Extends UnmatchedInboundMessage.SameMail before.unmatched after.unmatched

namespace Extends

variable {before middle after : Database}

theorem refl (database : Database) : Extends database database where
  campaigns := .refl (fun _ => ⟨rfl, rfl⟩) _
  contacts := .refl (fun _ => ⟨rfl, rfl⟩) _
  messages := .refl Message.Keeps.refl _
  dispatches := .refl ExternalDispatch.Keeps.refl _
  suppressions := .refl (fun _ => rfl) _
  mailboxes := .refl Mailbox.SameOwner.refl _
  unmatched := .refl (fun _ => ⟨rfl, rfl, rfl⟩) _

theorem trans
    (left : Extends before middle)
    (right : Extends middle after) :
    Extends before after where
  campaigns := left.campaigns.trans
    (fun _ _ _ first second =>
      ⟨second.1.trans first.1, second.2.trans first.2⟩) right.campaigns
  contacts := left.contacts.trans
    (fun _ _ _ first second =>
      ⟨second.1.trans first.1, second.2.trans first.2⟩) right.contacts
  messages := left.messages.trans Message.Keeps.trans right.messages
  dispatches := left.dispatches.trans ExternalDispatch.Keeps.trans right.dispatches
  suppressions := left.suppressions.trans
    (fun _ _ _ first second => first.trans second) right.suppressions
  mailboxes := left.mailboxes.trans
    (fun _ _ _ first second => Eq.trans second first) right.mailboxes
  unmatched := left.unmatched.trans
    (fun _ _ _ first second =>
      ⟨second.1.trans first.1, second.2.1.trans first.2.1,
        second.2.2.trans first.2.2⟩) right.unmatched

/-- The campaign of a contact keeps its owner. -/
theorem campaignOf
    (extended : Extends before after)
    {contact kept : Contact}
    (same : Contact.SamePerson contact kept)
    {campaign : Campaign}
    (found : before.campaignOf contact = some campaign) :
    ∃ current, after.campaignOf kept = some current ∧
      Campaign.SameOwner campaign current := by
  unfold Database.campaignOf at found ⊢
  rw [same.1]
  exact extended.campaigns _ campaign found

theorem managed_iff
    (extended : Extends before after)
    {contact kept : Contact}
    (same : Contact.SamePerson contact kept)
    (valid : contact.campaignId < before.campaigns.size) :
    after.contactIsIntegrationManaged kept =
      before.contactIsIntegrationManaged contact := by
  obtain ⟨campaign, found⟩ := Table.exists_get_of_lt_size valid
  obtain ⟨current, foundCurrent, owner⟩ := extended.campaignOf same found
  unfold Database.contactIsIntegrationManaged
  rw [foundCurrent, show before.campaignOf contact = some campaign from found]
  simp [owner.2]

theorem organizationOf
    (extended : Extends before after)
    {contact kept : Contact}
    (same : Contact.SamePerson contact kept)
    (valid : contact.campaignId < before.campaigns.size) :
    after.organizationOf kept = before.organizationOf contact := by
  obtain ⟨campaign, found⟩ := Table.exists_get_of_lt_size valid
  obtain ⟨current, foundCurrent, owner⟩ := extended.campaignOf same found
  unfold Database.organizationOf
  rw [foundCurrent, show before.campaignOf contact = some campaign from found]
  simp [owner.1]

/-- A suppressed address stays suppressed. -/
theorem isEmailSuppressed
    (extended : Extends before after)
    {email : String}
    {organization : Option String}
    (suppressed : before.isEmailSuppressed email organization = true) :
    after.isEmailSuppressed email organization = true := by
  unfold Database.isEmailSuppressed at suppressed ⊢
  obtain ⟨key, entry, found, matching⟩ :=
    (Table.existsWhere_iff _ _).mp suppressed
  obtain ⟨kept, foundKept, rfl⟩ := extended.suppressions key entry found
  exact (Table.existsWhere_iff _ _).mpr ⟨key, entry, foundKept, matching⟩

end Extends

/-- A row of `messages` that belongs to a contact of an integration campaign. -/
def managedMessage
    (database : Database)
    (message : Message) : Prop :=
  ∃ contact, database.contacts.get message.contactId = some contact ∧
    database.contactIsIntegrationManaged contact = true

/-- What a step outside the dispatch pipeline may do. -/
structure NativeExtends (before after : Database) : Prop extends
    Extends before after where
  sameDispatches : after.dispatches = before.dispatches
  delivery : ∀ key message, before.messages.get key = some message →
    before.managedMessage message →
    ∃ kept, after.messages.get key = some kept ∧
      kept.status = message.status ∧
      kept.messageIdHeader = message.messageIdHeader

/-- Invariants of the tables outside the dispatch pipeline. -/
structure Sound (database : Database) : Prop extends database.WellFormed where
  knownSource : ∀ key campaign, database.campaigns.get key = some campaign →
    campaign.integrationSource = none ∨
      campaign.integrationSource = some "leadboost" ∧
        campaign.organizationId ≠ none
  managedUnscheduled : ∀ key contact, database.contacts.get key = some contact →
    database.contactIsIntegrationManaged contact = true →
    contact.nextActionAt = none

/-- A managed message stays managed. -/
theorem Extends.managedMessage
    {before after : Database}
    (extended : Extends before after)
    (wellFormed : before.WellFormed)
    {message kept : Message}
    (same : Message.Keeps message kept)
    (managed : before.managedMessage message) :
    after.managedMessage kept := by
  obtain ⟨contact, found, managed⟩ := managed
  obtain ⟨current, foundCurrent, person⟩ := extended.contacts _ contact found
  refine ⟨current, by rw [same.contactId]; exact foundCurrent, ?_⟩
  rw [extended.managed_iff person (wellFormed.contactCampaign _ _ found)]
  exact managed

namespace NativeExtends

theorem refl (database : Database) : NativeExtends database database :=
  { Extends.refl database with
    sameDispatches := rfl
    delivery := fun _ message found _ => ⟨message, found, rfl, rfl⟩ }

theorem trans
    {before middle after : Database}
    (wellFormed : before.WellFormed)
    (left : NativeExtends before middle)
    (right : NativeExtends middle after) :
    NativeExtends before after :=
  { left.toExtends.trans right.toExtends with
    sameDispatches := right.sameDispatches.trans left.sameDispatches
    delivery := by
      intro key message found managed
      obtain ⟨between, foundBetween, status, header⟩ :=
        left.delivery key message found managed
      obtain ⟨same, foundSame, keeps⟩ := left.messages key message found
      obtain rfl : same = between :=
        Option.some.inj (foundSame.symm.trans foundBetween)
      obtain ⟨kept, foundKept, lastStatus, lastHeader⟩ :=
        right.delivery key same foundSame
          (left.toExtends.managedMessage wellFormed keeps managed)
      exact ⟨kept, foundKept, lastStatus.trans status, lastHeader.trans header⟩ }

end NativeExtends

/-! ## The writes of the native components -/

section Writes

variable {database updated : Database}

theorem NativeExtends.modifyContact
    {key : Nat}
    {change : Contact → Contact}
    (kept : ∀ row, database.contacts.get key = some row →
      Contact.SamePerson row (change row)) :
    NativeExtends database (database.modifyContact key change) :=
  { NativeExtends.refl database with
    contacts := .modify (fun _ => ⟨rfl, rfl⟩) kept }

theorem NativeExtends.modifyUnmatched
    {key : Nat}
    {change : UnmatchedInboundMessage → UnmatchedInboundMessage}
    (kept : ∀ row, database.unmatched.get key = some row →
      UnmatchedInboundMessage.SameMail row (change row)) :
    NativeExtends database (database.modifyUnmatched key change) :=
  { NativeExtends.refl database with
    unmatched := .modify (fun _ => ⟨rfl, rfl, rfl⟩) kept }

theorem NativeExtends.modifyMailbox
    {key : Nat}
    {change : Mailbox → Mailbox}
    (kept : ∀ row, database.mailboxes.get key = some row →
      Mailbox.SameOwner row (change row)) :
    NativeExtends database (database.modifyMailbox key change) :=
  { NativeExtends.refl database with
    mailboxes := .modify Mailbox.SameOwner.refl kept }

/-- Rewriting a message. Only a message that is not managed may change its
delivery columns. -/
theorem NativeExtends.modifyMessage
    {key : Nat}
    {change : Message → Message}
    (kept : ∀ row, database.messages.get key = some row →
      Message.Keeps row (change row))
    (delivery : ∀ row, database.messages.get key = some row →
      database.managedMessage row →
      (change row).status = row.status ∧
      (change row).messageIdHeader = row.messageIdHeader) :
    NativeExtends database (database.modifyMessage key change) :=
  { NativeExtends.refl database with
    messages := .modify Message.Keeps.refl kept
    delivery := by
      intro position row found managed
      unfold Database.modifyMessage
      by_cases here : position = key
      · subst here
        refine ⟨change row, by rw [Table.get_modify_self, found]; rfl, ?_⟩
        exact delivery row found managed
      · refine ⟨row, ?_, rfl, rfl⟩
        rw [Table.get_modify_of_ne _ _ here]
        exact found }

theorem NativeExtends.insertCampaign
    {row : Campaign}
    (inserted : database.insertCampaign row = some updated) :
    NativeExtends database updated := by
  obtain ⟨-, rfl⟩ := insertCampaign_eq_some inserted
  exact { NativeExtends.refl database with
    campaigns := .insert (fun _ => ⟨rfl, rfl⟩) _ _ }

theorem NativeExtends.insertContact
    {row : Contact}
    (inserted : database.insertContact row = some updated) :
    NativeExtends database updated := by
  obtain ⟨-, -, rfl⟩ := insertContact_eq_some inserted
  exact { NativeExtends.refl database with
    contacts := .insert (fun _ => ⟨rfl, rfl⟩) _ _ }

theorem NativeExtends.insertMessage
    {row : Message}
    (inserted : database.insertMessage row = some updated) :
    NativeExtends database updated := by
  obtain ⟨-, rfl⟩ := insertMessage_eq_some inserted
  exact { NativeExtends.refl database with
    messages := .insert Message.Keeps.refl _ _
    delivery := fun _ message found _ =>
      ⟨message, Table.get_insert_of_get found row, rfl, rfl⟩ }

theorem NativeExtends.insertSuppression
    {row : SuppressionEntry}
    (inserted : database.insertSuppression row = some updated) :
    NativeExtends database updated := by
  obtain ⟨-, rfl⟩ := insertSuppression_eq_some inserted
  exact { NativeExtends.refl database with
    suppressions := .insert (fun _ => rfl) _ _ }

theorem NativeExtends.insertUnmatched
    {row : UnmatchedInboundMessage}
    (inserted : database.insertUnmatched row = some updated) :
    NativeExtends database updated := by
  obtain ⟨-, -, rfl⟩ := insertUnmatched_eq_some inserted
  exact { NativeExtends.refl database with
    unmatched := .insert (fun _ => ⟨rfl, rfl, rfl⟩) _ _ }

theorem NativeExtends.insertMailbox
    {row : Mailbox}
    (inserted : database.insertMailbox row = some updated) :
    NativeExtends database updated := by
  obtain ⟨-, -, rfl⟩ := insertMailbox_eq_some inserted
  exact { NativeExtends.refl database with
    mailboxes := .insert Mailbox.SameOwner.refl _ _ }

/-- Soundness after a step that leaves campaigns and contacts alone. -/
theorem Sound.of_wellFormed
    (sound : database.Sound)
    (wellFormed : updated.WellFormed)
    (campaigns : updated.campaigns = database.campaigns)
    (contacts : updated.contacts = database.contacts) :
    updated.Sound := by
  refine { wellFormed with knownSource := ?_, managedUnscheduled := ?_ }
  · rw [campaigns]
    exact sound.knownSource
  · unfold Database.contactIsIntegrationManaged Database.campaignOf
    rw [campaigns, contacts]
    exact sound.managedUnscheduled

theorem Sound.modifyContact
    {key : Nat}
    {change : Contact → Contact}
    (sound : database.Sound)
    (kept : ∀ row, database.contacts.get key = some row →
      Contact.SamePerson row (change row))
    (unscheduled : ∀ row, database.contacts.get key = some row →
      database.contactIsIntegrationManaged row = true →
      (change row).nextActionAt = none) :
    (database.modifyContact key change).Sound := by
  refine { sound.toWellFormed.modifyContact kept with
    knownSource := sound.knownSource
    managedUnscheduled := ?_ }
  intro position contact found managed
  obtain ⟨before, old, rfl⟩ := Table.get_modify_cases found
  have sameManaged : database.contactIsIntegrationManaged before = true := by
    rw [← managed]
    split
    · next here =>
        unfold Database.contactIsIntegrationManaged Database.campaignOf
        rw [(kept before (here ▸ old)).1]
        rfl
    · rfl
  split
  · next here => exact unscheduled before (here ▸ old) sameManaged
  · exact sound.managedUnscheduled position before old sameManaged

theorem Sound.insertCampaign
    {row : Campaign}
    (sound : database.Sound)
    (known : row.integrationSource = none ∨
      row.integrationSource = some "leadboost" ∧ row.organizationId ≠ none)
    (inserted : database.insertCampaign row = some updated) :
    updated.Sound := by
  have extended := (NativeExtends.insertCampaign inserted).toExtends
  have wellFormed := sound.toWellFormed.insertCampaign inserted
  obtain ⟨-, rfl⟩ := insertCampaign_eq_some inserted
  refine { wellFormed with knownSource := ?_, managedUnscheduled := ?_ }
  · intro position campaign found
    rcases Table.get_insert_cases found with old | ⟨-, rfl⟩
    · exact sound.knownSource position campaign old
    · exact known
  · intro position contact found managed
    rw [extended.managed_iff ⟨rfl, rfl⟩ (sound.contactCampaign position contact found)]
      at managed
    exact sound.managedUnscheduled position contact found managed

theorem Sound.insertContact
    {row : Contact}
    (sound : database.Sound)
    (unscheduled : database.contactIsIntegrationManaged row = true →
      row.nextActionAt = none)
    (inserted : database.insertContact row = some updated) :
    updated.Sound := by
  have wellFormed := sound.toWellFormed.insertContact inserted
  obtain ⟨-, -, rfl⟩ := insertContact_eq_some inserted
  refine { wellFormed with
    knownSource := sound.knownSource
    managedUnscheduled := ?_ }
  intro position contact found managed
  rcases Table.get_insert_cases found with old | ⟨-, rfl⟩
  · exact sound.managedUnscheduled position contact old managed
  · exact unscheduled managed

theorem Sound.insertMessage
    {row : Message}
    (sound : database.Sound)
    (inserted : database.insertMessage row = some updated) :
    updated.Sound := by
  have wellFormed := sound.toWellFormed.insertMessage inserted
  obtain ⟨-, rfl⟩ := insertMessage_eq_some inserted
  exact sound.of_wellFormed wellFormed rfl rfl

theorem Sound.insertSuppression
    {row : SuppressionEntry}
    (sound : database.Sound)
    (inserted : database.insertSuppression row = some updated) :
    updated.Sound := by
  have wellFormed := sound.toWellFormed.insertSuppression inserted
  obtain ⟨-, rfl⟩ := insertSuppression_eq_some inserted
  exact sound.of_wellFormed wellFormed rfl rfl

theorem Sound.insertUnmatched
    {row : UnmatchedInboundMessage}
    (sound : database.Sound)
    (inserted : database.insertUnmatched row = some updated) :
    updated.Sound := by
  have wellFormed := sound.toWellFormed.insertUnmatched inserted
  obtain ⟨-, -, rfl⟩ := insertUnmatched_eq_some inserted
  exact sound.of_wellFormed wellFormed rfl rfl

theorem Sound.modifyMailbox
    {key : Nat}
    {change : Mailbox → Mailbox}
    (sound : database.Sound)
    (kept : ∀ row, database.mailboxes.get key = some row →
      (change row).organizationEmail = row.organizationEmail ∧
      (change row).reference = row.reference) :
    (database.modifyMailbox key change).Sound :=
  sound.of_wellFormed (sound.toWellFormed.modifyMailbox kept) rfl rfl

end Writes

/-! ## The inbox -/

/-- A message that came through a mailbox was received, for a contact of the
mailbox's organization. -/
def Delivered
    (database : Database)
    (message : Message)
    (mailboxId : Nat) : Prop :=
  message.direction = .inbound ∧
    ∃ mailbox contact, database.mailboxes.get mailboxId = some mailbox ∧
      database.contacts.get message.contactId = some contact ∧
      database.organizationOf contact = some mailbox.organizationId

/-- Every received message has the status of one, and every message that was
understood as an unsubscribe request has a suppression entry for the address and
the organization of its contact. What came through a mailbox is with its
organization. -/
structure InboxSound (database : Database) : Prop where
  received : ∀ key message, database.messages.get key = some message →
    message.direction = .inbound → message.status = .received
  unsubscribed : ∀ key message intent, database.messages.get key = some message →
    message.semanticAnalysis = some intent → .unsubscribe ∈ intent.intents →
    ∃ contact, database.contacts.get message.contactId = some contact ∧
      ∃ entryKey entry, database.suppressions.get entryKey = some entry ∧
        entry.email = contact.email ∧
        entry.organizationId = database.organizationOf contact
  delivered : ∀ key message mailboxId, database.messages.get key = some message →
    message.mailboxId = some mailboxId → database.Delivered message mailboxId
  retained : ∀ key row, database.unmatched.get key = some row →
    ∃ mailbox, database.mailboxes.get row.mailboxId = some mailbox ∧
      row.organizationId = mailbox.organizationId

/-- No message was received, interpreted or retained. -/
structure InboxKept (before after : Database) : Prop where
  messages : ∀ key row, after.messages.get key = some row →
    row.direction = .inbound ∨ row.semanticAnalysis ≠ none ∨ row.mailboxId ≠ none →
    ∃ old, before.messages.get key = some old ∧
      old.semanticAnalysis = row.semanticAnalysis ∧ Message.Keeps old row ∧
      (row.direction = .inbound → old.status = row.status)
  unmatched : ∀ key row, after.unmatched.get key = some row →
    ∃ old, before.unmatched.get key = some old ∧
      UnmatchedInboundMessage.SameMail old row

namespace InboxKept

variable {before middle after : Database}

theorem of_same
    (same : after.messages = before.messages)
    (sameUnmatched : after.unmatched = before.unmatched) :
    InboxKept before after where
  messages key row found _ := by
    rw [same] at found
    exact ⟨row, found, rfl, .refl row, fun _ => rfl⟩
  unmatched key row found := by
    rw [sameUnmatched] at found
    exact ⟨row, found, rfl, rfl, rfl⟩

theorem refl (database : Database) : InboxKept database database :=
  of_same rfl rfl

theorem trans
    (left : InboxKept before middle)
    (right : InboxKept middle after) :
    InboxKept before after where
  messages key row found relevant := by
    obtain ⟨between, foundBetween, analysis, keeps, status⟩ :=
      right.messages key row found relevant
    rw [← analysis, keeps.direction, keeps.mailboxId] at relevant
    obtain ⟨old, foundOld, firstAnalysis, firstKeeps, firstStatus⟩ :=
      left.messages key between foundBetween relevant
    refine ⟨old, foundOld, firstAnalysis.trans analysis, firstKeeps.trans _ _ _ keeps, ?_⟩
    intro inbound
    exact (firstStatus (keeps.direction ▸ inbound)).trans (status inbound)
  unmatched key row found := by
    obtain ⟨between, foundBetween, same⟩ := right.unmatched key row found
    obtain ⟨old, foundOld, first⟩ := left.unmatched key between foundBetween
    exact ⟨old, foundOld, same.1.trans first.1, same.2.1.trans first.2.1,
      same.2.2.trans first.2.2⟩

/-- Rewriting the delivery columns of an outbound message. -/
theorem modifyMessage
    {key : Nat}
    {change : Message → Message}
    (kept : ∀ row, before.messages.get key = some row →
      (change row).semanticAnalysis = row.semanticAnalysis ∧
      Message.Keeps row (change row))
    (outbound : ∀ row, before.messages.get key = some row → row.direction = .outbound) :
    InboxKept before (before.modifyMessage key change) where
  messages position row found _ := by
    obtain ⟨old, foundOld, rfl⟩ := Table.get_modify_cases found
    refine ⟨old, foundOld, ?_⟩
    split
    · next here =>
        obtain ⟨analysis, keeps⟩ := kept old (here ▸ foundOld)
        refine ⟨analysis.symm, keeps, ?_⟩
        intro inbound
        rw [keeps.direction, outbound old (here ▸ foundOld)] at inbound
        cases inbound
    · exact ⟨rfl, .refl old, fun _ => rfl⟩
  unmatched _ row found := ⟨row, found, rfl, rfl, rfl⟩

theorem insertMessage
    {row : Message}
    (plain : row.semanticAnalysis = none)
    (outbound : row.direction = .outbound)
    (unbound : row.mailboxId = none)
    (inserted : before.insertMessage row = some after) :
    InboxKept before after := by
  obtain ⟨-, rfl⟩ := insertMessage_eq_some inserted
  refine ⟨?_, fun _ row found => ⟨row, found, rfl, rfl, rfl⟩⟩
  intro position stored found relevant
  rcases Table.get_insert_cases found with old | ⟨-, rfl⟩
  · exact ⟨stored, old, rfl, .refl stored, fun _ => rfl⟩
  · rcases relevant with inbound | analysed | through
    · rw [outbound] at inbound
      cases inbound
    · exact absurd plain analysed
    · exact absurd unbound through

end InboxKept

/-- The entry of a contact survives. -/
theorem Extends.suppressionOf
    {before after : Database}
    (extended : Extends before after)
    (wellFormed : before.WellFormed)
    {contactId : Nat}
    (recorded : ∃ contact, before.contacts.get contactId = some contact ∧
      ∃ key entry, before.suppressions.get key = some entry ∧
        entry.email = contact.email ∧
        entry.organizationId = before.organizationOf contact) :
    ∃ contact, after.contacts.get contactId = some contact ∧
      ∃ key entry, after.suppressions.get key = some entry ∧
        entry.email = contact.email ∧
        entry.organizationId = after.organizationOf contact := by
  obtain ⟨contact, found, key, entry, foundEntry, email, organization⟩ := recorded
  obtain ⟨current, foundCurrent, person⟩ := extended.contacts _ contact found
  obtain ⟨_, foundKept, rfl⟩ := extended.suppressions _ entry foundEntry
  refine ⟨current, foundCurrent, key, entry, foundKept, email.trans person.2.symm, ?_⟩
  rw [organization,
    extended.organizationOf person (wellFormed.contactCampaign _ _ found)]

/-- What came through a mailbox stays with its organization. -/
theorem Extends.delivered
    {before after : Database}
    (extended : Extends before after)
    (wellFormed : before.WellFormed)
    {message kept : Message}
    {mailboxId : Nat}
    (keeps : Message.Keeps message kept)
    (delivered : before.Delivered message mailboxId) :
    after.Delivered kept mailboxId := by
  obtain ⟨inbound, mailbox, contact, foundMailbox, found, owner⟩ := delivered
  obtain ⟨current, foundCurrent, same⟩ := extended.mailboxes _ mailbox foundMailbox
  obtain ⟨person, foundPerson, samePerson⟩ := extended.contacts _ contact found
  refine ⟨keeps.direction.trans inbound, current, person, foundCurrent, ?_, ?_⟩
  · rw [keeps.contactId]
    exact foundPerson
  · rw [extended.organizationOf samePerson (wellFormed.contactCampaign _ _ found), owner]
    exact congrArg some (Eq.symm same)

theorem Extends.retained
    {before after : Database}
    (extended : Extends before after)
    {row kept : UnmatchedInboundMessage}
    (same : UnmatchedInboundMessage.SameMail row kept)
    (retained : ∃ mailbox, before.mailboxes.get row.mailboxId = some mailbox ∧
      row.organizationId = mailbox.organizationId) :
    ∃ mailbox, after.mailboxes.get kept.mailboxId = some mailbox ∧
      kept.organizationId = mailbox.organizationId := by
  obtain ⟨mailbox, found, owner⟩ := retained
  obtain ⟨current, foundCurrent, sameOwner⟩ := extended.mailboxes _ mailbox found
  refine ⟨current, by rw [same.1]; exact foundCurrent, ?_⟩
  rw [same.2.2, owner]
  exact Eq.symm sameOwner

theorem InboxSound.of_kept
    {before after : Database}
    (sound : InboxSound before)
    (wellFormed : before.WellFormed)
    (extended : Extends before after)
    (kept : InboxKept before after) :
    InboxSound after where
  received key message found inbound := by
    obtain ⟨old, foundOld, -, keeps, status⟩ := kept.messages key message found (.inl inbound)
    rw [← status inbound]
    exact sound.received key old foundOld (keeps.direction ▸ inbound)
  unsubscribed key message intent found analysed asked := by
    obtain ⟨old, foundOld, analysis, keeps, -⟩ := kept.messages key message found
      (.inr (.inl (by rw [analysed]; exact Option.some_ne_none _)))
    have recorded :=
      sound.unsubscribed key old intent foundOld (analysis.trans analysed) asked
    rw [← keeps.contactId] at recorded
    exact extended.suppressionOf wellFormed recorded
  delivered key message mailboxId found through := by
    obtain ⟨old, foundOld, -, keeps, -⟩ := kept.messages key message found
      (.inr (.inr (by rw [through]; exact Option.some_ne_none _)))
    exact extended.delivered wellFormed keeps
      (sound.delivered key old mailboxId foundOld (keeps.mailboxId.symm.trans through))
  retained key row found := by
    obtain ⟨old, foundOld, same⟩ := kept.unmatched key row found
    exact extended.retained same (sound.retained key old foundOld)

end Database
end MailerAgent
