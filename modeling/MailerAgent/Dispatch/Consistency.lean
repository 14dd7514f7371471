import MailerAgent.Dispatch.Worker
import MailerAgent.Dispatch.Generation
import MailerAgent.Models.Evolution

/-!
# Agreement of dispatches and their messages

`Agrees` relates the state of a dispatch to its claim columns and to the status
of its message. `Consistent` adds that every dispatch is wired to one integration
contact and to a message of its own. Every write of the dispatch pipeline and
every native step keeps it; the pipeline's writes reduce to two shapes, a
rewrite of one dispatch with its message and the attachment of a new message.
-/

namespace MailerAgent
namespace Dispatch

open Relational Mail

/-- The message of a dispatch. -/
def linkedMessage
    (database : Database)
    (row : ExternalDispatch) : Option Message :=
  row.messageId.bind database.messages.get

/-- The state of a dispatch agrees with its claim and its message. -/
structure Agrees
    (row : ExternalDispatch)
    (message : Option Message) : Prop where
  claimed : row.state = .sending ∨ row.state = .generating →
    row.claimedBy ≠ none ∧ row.claimedAt ≠ none
  unclaimed : row.state ≠ .sending → row.state ≠ .generating →
    row.claimedBy = none ∧ row.claimedAt = none
  queued : row.state = .queued →
    ∀ stored, message = some stored → stored.status = .draft
  generating : row.state = .generating → row.messageId = none
  sending : row.state = .sending →
    ∃ stored, message = some stored ∧ stored.status = .sending ∧
      stored.messageIdHeader ≠ none
  sent : row.state = .sent →
    ∃ stored, message = some stored ∧ stored.status = .sent ∧
      stored.messageIdHeader ≠ none
  unknown : row.state = .unknown →
    ∃ stored, message = some stored ∧ stored.status = .unknown ∧
      stored.messageIdHeader ≠ none
  failed : row.state = .failed →
    ∀ stored, message = some stored → stored.status = .failed

/-- A dispatch belongs to an integration contact of its organization, and its
message to that contact. -/
structure Linked
    (database : Database)
    (row : ExternalDispatch) : Prop where
  contact : ∃ contact, database.contacts.get row.contactId = some contact ∧
    contact.campaignId = row.campaignId ∧
    database.contactIsIntegrationManaged contact = true
  tenant : ∃ campaign, database.campaigns.get row.campaignId = some campaign ∧
    campaign.organizationId = some row.organizationId
  message : ∀ key, row.messageId = some key →
    ∃ stored, database.messages.get key = some stored ∧
      stored.contactId = row.contactId ∧ stored.direction = .outbound ∧
      stored.mailboxId = none

/-- The invariant of the committed database. -/
structure Consistent (database : Database) : Prop extends database.Sound where
  linked : ∀ key row, database.dispatches.get key = some row → Linked database row
  agreement : ∀ key row, database.dispatches.get key = some row →
    Agrees row (linkedMessage database row)
  ownMessage : database.dispatches.UniqueBy ExternalDispatch.messageId

/-- The columns of a dispatch that no write changes. -/
structure SameOperation (before after : ExternalDispatch) : Prop where
  organizationId : after.organizationId = before.organizationId
  idempotencyKey : after.idempotencyKey = before.idempotencyKey
  publicReference : after.publicReference = before.publicReference
  requestFingerprint : after.requestFingerprint = before.requestFingerprint
  campaignId : after.campaignId = before.campaignId
  contactId : after.contactId = before.contactId
  mailboxId : after.mailboxId = before.mailboxId
  groundingContext : after.groundingContext = before.groundingContext

/-- A rewrite of an operation's other columns that respects its progress. -/
theorem SameOperation.keeps
    {before after : ExternalDispatch}
    (same : SameOperation before after)
    (messageId : before.messageId ≠ none → after.messageId = before.messageId)
    (departed : before.state.pending = false → after.state.pending = false)
    (terminal : before.state.terminal = true → after.state = before.state) :
    ExternalDispatch.Keeps before after :=
  { same with messageId := messageId, departed := departed, terminal := terminal }

theorem Linked.of_extends
    {before after : Database}
    {row kept : ExternalDispatch}
    (linked : Linked before row)
    (wellFormed : before.WellFormed)
    (extended : before.Extends after)
    (same : SameOperation row kept)
    (messageId : kept.messageId = row.messageId) :
    Linked after kept where
  contact := by
    obtain ⟨contact, found, campaign, managed⟩ := linked.contact
    obtain ⟨current, foundCurrent, person⟩ := extended.contacts _ contact found
    refine ⟨current, by rw [same.contactId]; exact foundCurrent, ?_, ?_⟩
    · rw [person.1, campaign, same.campaignId]
    · rw [extended.managed_iff person (wellFormed.contactCampaign _ _ found)]
      exact managed
  tenant := by
    obtain ⟨campaign, found, organization⟩ := linked.tenant
    obtain ⟨current, foundCurrent, owner⟩ := extended.campaigns _ campaign found
    refine ⟨current, by rw [same.campaignId]; exact foundCurrent, ?_⟩
    rw [owner.1, organization, same.organizationId]
  message := by
    intro key attached
    rw [messageId] at attached
    obtain ⟨stored, found, contact, direction, mailbox⟩ := linked.message key attached
    obtain ⟨current, foundCurrent, keeps⟩ := extended.messages key stored found
    refine ⟨current, foundCurrent, ?_, ?_, ?_⟩
    · rw [keeps.contactId, contact, same.contactId]
    · rw [keeps.direction, direction]
    · rw [keeps.mailboxId, mailbox]

/-- Wiring does not depend on the other tables. -/
theorem Linked.of_tables
    {before after : Database}
    {row : ExternalDispatch}
    (linked : Linked before row)
    (campaigns : after.campaigns = before.campaigns)
    (contacts : after.contacts = before.contacts)
    (messages : after.messages = before.messages) :
    Linked after row where
  contact := by
    unfold Database.contactIsIntegrationManaged Database.campaignOf
    rw [campaigns, contacts]
    exact linked.contact
  tenant := campaigns ▸ linked.tenant
  message := messages ▸ linked.message

theorem SameOperation.refl (row : ExternalDispatch) : SameOperation row row :=
  ⟨rfl, rfl, rfl, rfl, rfl, rfl, rfl, rfl⟩

theorem Linked.managedMessage
    {database : Database}
    {row : ExternalDispatch}
    (linked : Linked database row)
    {key : Nat}
    {stored : Message}
    (attached : row.messageId = some key)
    (found : database.messages.get key = some stored) :
    database.managedMessage stored := by
  obtain ⟨contact, foundContact, -, managed⟩ := linked.contact
  obtain ⟨same, foundSame, contactId, -, -⟩ := linked.message key attached
  obtain rfl : same = stored := Option.some.inj (foundSame.symm.trans found)
  exact ⟨contact, by rw [contactId]; exact foundContact, managed⟩

/-- Rewriting the other columns of an operation keeps the constraints. -/
theorem wellFormed_rewrite
    {database : Database}
    {key : Nat}
    {row : ExternalDispatch}
    {change : ExternalDispatch → ExternalDispatch}
    (wellFormed : database.WellFormed)
    (found : database.dispatches.get key = some row)
    (same : SameOperation row (change row))
    (attached : ∀ stored, (change row).messageId = some stored →
      stored < database.messages.size) :
    (database.modifyDispatch key change).WellFormed := by
  have only : ∀ other, database.dispatches.get key = some other → other = row :=
    fun other foundOther => Option.some.inj (foundOther.symm.trans found)
  refine wellFormed.modifyDispatch ?_ ?_
  · intro other foundOther
    rw [only other foundOther]
    simp only [ExternalDispatch.idempotency, ExternalDispatch.reference,
      same.organizationId, same.idempotencyKey, same.publicReference,
      same.campaignId, same.contactId, and_self]
  · intro other stored foundOther linked
    rw [only other foundOther] at linked
    exact attached stored linked

/-- In particular when its message stays. -/
theorem wellFormed_modifyDispatch
    {database : Database}
    {key : Nat}
    {row : ExternalDispatch}
    {change : ExternalDispatch → ExternalDispatch}
    (wellFormed : database.WellFormed)
    (found : database.dispatches.get key = some row)
    (same : SameOperation row (change row))
    (messageId : (change row).messageId = row.messageId) :
    (database.modifyDispatch key change).WellFormed := by
  refine wellFormed_rewrite wellFormed found same fun stored attached => ?_
  rw [messageId] at attached
  exact wellFormed.dispatchMessage key row stored found attached

namespace Consistent

variable {before after : Database}

/-- A native step keeps the agreement: it leaves dispatches and the delivery
columns of their messages alone. -/
theorem of_native
    (consistent : Consistent before)
    (sound : after.Sound)
    (extended : before.NativeExtends after) :
    Consistent after where
  toSound := sound
  linked key row found := by
    rw [extended.sameDispatches] at found
    exact (consistent.linked key row found).of_extends consistent.toWellFormed
      extended.toExtends (.refl row) rfl
  agreement key row found := by
    rw [extended.sameDispatches] at found
    have linked := consistent.linked key row found
    have agrees := consistent.agreement key row found
    cases attached : row.messageId with
    | none =>
        unfold linkedMessage at agrees ⊢
        rw [attached] at agrees ⊢
        exact agrees
    | some message =>
        obtain ⟨stored, foundStored, -, -, -⟩ := linked.message message attached
        obtain ⟨kept, foundKept, status, header⟩ := extended.delivery message stored
          foundStored (linked.managedMessage attached foundStored)
        unfold linkedMessage at agrees ⊢
        rw [attached] at agrees ⊢
        simp only [Option.bind_some, foundStored, foundKept] at agrees ⊢
        refine { agrees with
          queued := ?_, sending := ?_, sent := ?_, unknown := ?_, failed := ?_ }
        · rintro state _ ⟨⟩
          exact status.trans (agrees.queued state stored rfl)
        · intro state
          obtain ⟨_, ⟨⟩, current, present⟩ := agrees.sending state
          exact ⟨kept, rfl, status.trans current, header ▸ present⟩
        · intro state
          obtain ⟨_, ⟨⟩, current, present⟩ := agrees.sent state
          exact ⟨kept, rfl, status.trans current, header ▸ present⟩
        · intro state
          obtain ⟨_, ⟨⟩, current, present⟩ := agrees.unknown state
          exact ⟨kept, rfl, status.trans current, header ▸ present⟩
        · rintro state _ ⟨⟩
          exact status.trans (agrees.failed state stored rfl)
  ownMessage := by
    rw [extended.sameDispatches]
    exact consistent.ownMessage

/-- Rewriting one dispatch without its message. -/
theorem modifyDispatch
    {key : Nat}
    {row : ExternalDispatch}
    {change : ExternalDispatch → ExternalDispatch}
    (consistent : Consistent before)
    (found : before.dispatches.get key = some row)
    (same : SameOperation row (change row))
    (messageId : (change row).messageId = row.messageId)
    (agrees : Agrees (change row) (linkedMessage before row)) :
    Consistent (before.modifyDispatch key change) := by
  have only : ∀ other, before.dispatches.get key = some other → other = row :=
    fun other foundOther => Option.some.inj (foundOther.symm.trans found)
  have wellFormed := wellFormed_modifyDispatch consistent.toWellFormed found same messageId
  refine
    { consistent.toSound.of_wellFormed wellFormed rfl rfl with
      linked := ?_
      agreement := ?_
      ownMessage := consistent.ownMessage.modify ?_ }
  · intro position current foundCurrent
    obtain ⟨old, foundOld, rfl⟩ := Table.get_modify_cases foundCurrent
    split
    · next here =>
        subst here
        rw [only old foundOld]
        have linked := (consistent.linked _ row found).of_extends
          consistent.toWellFormed (.refl before) same messageId
        exact linked.of_tables rfl rfl rfl
    · exact (consistent.linked position old foundOld).of_tables rfl rfl rfl
  · intro position current foundCurrent
    obtain ⟨old, foundOld, rfl⟩ := Table.get_modify_cases foundCurrent
    split
    · next here =>
        subst here
        rw [only old foundOld]
        unfold linkedMessage
        rw [messageId]
        exact agrees
    · exact consistent.agreement position old foundOld
  · intro other foundOther
    rw [only other foundOther]
    exact messageId

/-- Rewriting one dispatch together with its message. -/
theorem rewrite
    {key message : Nat}
    {row : ExternalDispatch}
    {stored : Message}
    {change : ExternalDispatch → ExternalDispatch}
    {changeMessage : Message → Message}
    (consistent : Consistent before)
    (found : before.dispatches.get key = some row)
    (attached : row.messageId = some message)
    (foundMessage : before.messages.get message = some stored)
    (same : SameOperation row (change row))
    (messageId : (change row).messageId = row.messageId)
    (keeps : Message.Keeps stored (changeMessage stored))
    (wellFormed :
      ((before.modifyDispatch key change).modifyMessage message changeMessage).WellFormed)
    (agrees : Agrees (change row) (some (changeMessage stored))) :
    Consistent
      ((before.modifyDispatch key change).modifyMessage message changeMessage) := by
  have only : ∀ other, before.dispatches.get key = some other → other = row :=
    fun other foundOther => Option.some.inj (foundOther.symm.trans found)
  have extended : before.Extends (before.modifyMessage message changeMessage) :=
    { Database.Extends.refl before with
      messages := .modify Message.Keeps.refl fun other foundOther => by
        obtain rfl : other = stored :=
          Option.some.inj (foundOther.symm.trans foundMessage)
        exact keeps }
  refine
    { consistent.toSound.of_wellFormed wellFormed rfl rfl with
      linked := ?_
      agreement := ?_
      ownMessage := consistent.ownMessage.modify ?_ }
  · intro position current foundCurrent
    obtain ⟨old, foundOld, rfl⟩ := Table.get_modify_cases foundCurrent
    split
    · next here =>
        subst here
        rw [only old foundOld]
        have linked := (consistent.linked _ row found).of_extends
          consistent.toWellFormed extended same messageId
        exact linked.of_tables rfl rfl rfl
    · have linked := (consistent.linked position old foundOld).of_extends
        consistent.toWellFormed extended (.refl old) rfl
      exact linked.of_tables rfl rfl rfl
  · intro position current foundCurrent
    obtain ⟨old, foundOld, rfl⟩ := Table.get_modify_cases foundCurrent
    split
    · next here =>
        subst here
        rw [only old foundOld]
        unfold linkedMessage
        rw [messageId, attached]
        simpa [Database.modifyMessage, Database.modifyDispatch, foundMessage]
          using agrees
    · next elsewhere =>
        -- Another dispatch has another message, which is untouched.
        have agreesOld := consistent.agreement position old foundOld
        unfold linkedMessage at agreesOld ⊢
        cases attachedOld : old.messageId with
        | none =>
            rw [attachedOld] at agreesOld
            exact agreesOld
        | some other =>
            have different : other ≠ message := by
              rintro rfl
              exact elsewhere (consistent.ownMessage position key old row other
                foundOld found attachedOld attached)
            rw [attachedOld] at agreesOld
            simpa [Database.modifyMessage, Database.modifyDispatch,
              Table.get_modify_of_ne _ _ different] using agreesOld
  · intro other foundOther
    rw [only other foundOther]
    exact messageId

/-- Inserting a message and attaching it to a dispatch that had none. -/
theorem attach
    {key : Nat}
    {row : ExternalDispatch}
    {message : Message}
    {inserted : Database}
    {change : ExternalDispatch → ExternalDispatch}
    (consistent : Consistent before)
    (insertion : before.insertMessage message = some inserted)
    (found : before.dispatches.get key = some row)
    (same : SameOperation row (change row))
    (messageId : (change row).messageId = some before.messages.size)
    (contact : message.contactId = row.contactId)
    (direction : message.direction = .outbound)
    (mailbox : message.mailboxId = none)
    (agrees : Agrees (change row) (some message)) :
    Consistent (inserted.modifyDispatch key change) := by
  have only : ∀ other, before.dispatches.get key = some other → other = row :=
    fun other foundOther => Option.some.inj (foundOther.symm.trans found)
  have soundInserted := consistent.toSound.insertMessage insertion
  have extended := (Database.NativeExtends.insertMessage insertion).toExtends
  obtain ⟨-, rfl⟩ := Database.insertMessage_eq_some insertion
  have fresh : ∀ position old, before.dispatches.get position = some old →
      old.messageId ≠ some before.messages.size := by
    intro position old foundOld attached
    exact Nat.lt_irrefl _
      (consistent.dispatchMessage position old _ foundOld attached)
  have wellFormed : ({ before with messages := before.messages.insert message
      }.modifyDispatch key change).WellFormed := by
    refine wellFormed_rewrite soundInserted.toWellFormed found same fun stored attached => ?_
    rw [messageId] at attached
    obtain rfl := Option.some.inj attached
    simp
  refine
    { soundInserted.of_wellFormed wellFormed rfl rfl with
      linked := ?_
      agreement := ?_
      ownMessage := consistent.ownMessage.modify_fresh ?_ }
  · intro position current foundCurrent
    obtain ⟨old, foundOld, rfl⟩ := Table.get_modify_cases foundCurrent
    split
    · next here =>
        subst here
        rw [only old foundOld]
        have moved := ((consistent.linked _ row found).of_extends
          consistent.toWellFormed extended (.refl row) rfl).of_tables rfl rfl rfl
        refine ⟨?_, ?_, ?_⟩
        · rw [same.contactId, same.campaignId]
          exact moved.contact
        · rw [same.campaignId, same.organizationId]
          exact moved.tenant
        intro attachedKey attached
        rw [messageId] at attached
        obtain rfl := Option.some.inj attached
        exact ⟨message, Table.get_insert_size _ _, by rw [contact, same.contactId],
          direction, mailbox⟩
    · have linked := (consistent.linked position old foundOld).of_extends
        consistent.toWellFormed extended (.refl old) rfl
      exact linked.of_tables rfl rfl rfl
  · intro position current foundCurrent
    obtain ⟨old, foundOld, rfl⟩ := Table.get_modify_cases foundCurrent
    split
    · next here =>
        subst here
        rw [only old foundOld]
        unfold linkedMessage
        rw [messageId]
        simpa [Database.modifyDispatch] using agrees
    · have agreesOld := consistent.agreement position old foundOld
      unfold linkedMessage at agreesOld ⊢
      cases attachedOld : old.messageId with
      | none =>
          rw [attachedOld] at agreesOld
          exact agreesOld
      | some other =>
          have present := consistent.dispatchMessage position old other foundOld attachedOld
          obtain ⟨stored, foundStored⟩ := Table.exists_get_of_lt_size present
          rw [attachedOld] at agreesOld
          simpa [Database.modifyDispatch, foundStored,
            Table.get_insert_of_get foundStored message] using agreesOld
  · intro other value foundOther attached position stored elsewhere foundStored
    rw [only other foundOther, messageId] at attached
    obtain rfl := Option.some.inj attached
    exact fresh position stored foundStored

/-- Inserting a dispatch that is wired and agrees with its message, which no
other dispatch has. -/
theorem insertDispatch
    {row : ExternalDispatch}
    (consistent : Consistent before)
    (insertion : before.insertDispatch row = some after)
    (linked : Linked before row)
    (agrees : Agrees row (linkedMessage before row))
    (own : before.dispatches.clashes ExternalDispatch.messageId row = false) :
    Consistent after := by
  have wellFormed := consistent.toWellFormed.insertDispatch insertion
  obtain ⟨-, rfl⟩ := Database.insertDispatch_eq_some insertion
  refine
    { consistent.toSound.of_wellFormed wellFormed rfl rfl with
      linked := ?_
      agreement := ?_
      ownMessage := consistent.ownMessage.insert own }
  · intro position current foundCurrent
    rcases Table.get_insert_cases foundCurrent with old | ⟨-, rfl⟩
    · exact (consistent.linked position current old).of_tables rfl rfl rfl
    · exact linked.of_tables rfl rfl rfl
  · intro position current foundCurrent
    rcases Table.get_insert_cases foundCurrent with old | ⟨-, rfl⟩
    · exact consistent.agreement position current old
    · exact agrees

end Consistent

end Dispatch
end MailerAgent
