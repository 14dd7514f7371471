import MailerAgent.Foundation.Tracking
import MailerAgent.Models.Evolution
import MailerAgent.Native.Session

/-!
# What changes do to the tables

The effect of every change on every table that later arguments follow through a
transaction. An ordinary change inserts no contact, campaign or mailbox and records
no approved send; a transaction of ordinary changes sees the parties that the
database has.
-/

namespace MailerAgent
namespace Native

open Concurrent Relational

/-- A message keeps its place in a conversation and its identity. -/
def Message.SameMail (before after : Message) : Prop :=
  after.contactId = before.contactId ∧ after.direction = before.direction ∧
    after.mailboxId = before.mailboxId ∧ after.messageIdHeader = before.messageIdHeader

namespace Change

/-- The contact that a change inserts. -/
def insertedContact : Change → Option Contact
  | insertContact row => some row
  | _ => none

/-- The campaign that a change inserts. -/
def insertedCampaign : Change → Option Campaign
  | insertCampaign row => some row
  | _ => none

/-- The message that a change inserts. -/
def insertedMessage : Change → Option Message
  | insertMessage row => some row
  | _ => none

/-- The suppression entry that a change inserts. -/
def insertedSuppression : Change → Option SuppressionEntry
  | insertSuppression row => some row
  | _ => none

/-- The mailbox that a change inserts. -/
def insertedMailbox : Change → Option Mailbox
  | insertMailbox row => some row
  | _ => none

/-- The retained message that a change inserts. -/
def insertedUnmatched : Change → Option UnmatchedInboundMessage
  | insertUnmatched row => some row
  | _ => none

/-- A change that inserts no contact, campaign or mailbox and records no send. -/
def ordinary : Change → Prop
  | insertCampaign _ => False
  | insertContact _ => False
  | insertMailbox _ => False
  | recordSend _ _ => False
  | _ => True

/-- The effect of a change, table by table. -/
structure Effect
    (change : Change)
    (before after : Database) : Prop where
  campaigns : TableEffect Eq before.campaigns change.insertedCampaign after.campaigns
  contacts :
    TableEffect Contact.SamePerson before.contacts change.insertedContact after.contacts
  messages : change.ordinary →
    TableEffect Message.SameMail before.messages change.insertedMessage after.messages
  suppressions :
    TableEffect Eq before.suppressions change.insertedSuppression after.suppressions
  mailboxes :
    TableEffect Mailbox.SameOwner before.mailboxes change.insertedMailbox after.mailboxes
  unmatched : TableEffect UnmatchedInboundMessage.SameMail before.unmatched
    change.insertedUnmatched after.unmatched

/-- Every change does to each table what its description says. -/
theorem apply_effect
    {before after : Database}
    {change : Change}
    (applied : change.apply before = some after) :
    change.Effect before after := by
  cases change with
  | insertCampaign row =>
      obtain ⟨-, rfl⟩ := Database.insertCampaign_eq_some applied
      exact ⟨.inserted row, .kept, fun _ => .kept, .kept, .kept, .kept⟩
  | insertContact row =>
      obtain ⟨-, -, rfl⟩ := Database.insertContact_eq_some applied
      exact ⟨.kept, .inserted row, fun _ => .kept, .kept, .kept, .kept⟩
  | insertMessage row =>
      obtain ⟨-, rfl⟩ := Database.insertMessage_eq_some applied
      exact ⟨.kept, .kept, fun _ => .inserted row, .kept, .kept, .kept⟩
  | insertSuppression row =>
      obtain ⟨-, rfl⟩ := Database.insertSuppression_eq_some applied
      exact ⟨.kept, .kept, fun _ => .kept, .inserted row, .kept, .kept⟩
  | insertMailbox row =>
      obtain ⟨-, -, rfl⟩ := Database.insertMailbox_eq_some applied
      exact ⟨.kept, .kept, fun _ => .kept, .kept, .inserted row, .kept⟩
  | insertUnmatched row =>
      obtain ⟨-, -, rfl⟩ := Database.insertUnmatched_eq_some applied
      exact ⟨.kept, .kept, fun _ => .kept, .kept, .kept, .inserted row⟩
  | updateContact key patch =>
      obtain rfl := Option.some.inj applied
      exact ⟨.kept, .modified key patch.apply fun _ _ => ⟨rfl, rfl⟩, fun _ => .kept, .kept,
        .kept, .kept⟩
  | recordSend key record =>
      obtain ⟨rfl, -⟩ := Database.updateMessage_eq_some applied
      exact ⟨.kept, .kept, False.elim, .kept, .kept, .kept⟩
  | interpretMessage contactId reference interpretation =>
      obtain rfl := Option.some.inj applied
      cases messageByReference before contactId reference with
      | none => exact ⟨.kept, .kept, fun _ => .kept, .kept, .kept, .kept⟩
      | some key =>
          exact ⟨.kept, .kept, fun _ => .modified key interpretation.apply
            fun _ _ => ⟨rfl, rfl, rfl, rfl⟩, .kept, .kept, .kept⟩
  | updateMailbox key patch =>
      obtain rfl := Option.some.inj applied
      refine ⟨.kept, .kept, fun _ => .kept, .kept, .modified key patch.apply ?_, .kept⟩
      exact fun row _ => Mailbox.SameOwner.refl row
  | resolveRetained mailboxId identity resolvedAt =>
      obtain rfl := Option.some.inj applied
      cases unresolvedRetained before mailboxId identity with
      | none => exact ⟨.kept, .kept, fun _ => .kept, .kept, .kept, .kept⟩
      | some key =>
          refine ⟨.kept, .kept, fun _ => .kept, .kept, .kept, .modified key _ ?_⟩
          exact fun _ _ => ⟨rfl, rfl, rfl⟩

end Change

/-! ## Tables through a transaction -/

/-- Entries are inserted and never changed. -/
theorem tracks_suppressions :
    Tracks Change.apply (fun _ => True) Database.suppressions Change.insertedSuppression Eq where
  refl _ := rfl
  trans _ _ _ := Eq.trans
  effect _ applied := (Change.apply_effect applied).suppressions

theorem tracks_campaigns :
    Tracks Change.apply (fun _ => True) Database.campaigns Change.insertedCampaign Eq where
  refl _ := rfl
  trans _ _ _ := Eq.trans
  effect _ applied := (Change.apply_effect applied).campaigns

/-- A contact keeps its person through every change. -/
theorem tracks_contacts :
    Tracks Change.apply (fun _ => True) Database.contacts Change.insertedContact
      Contact.SamePerson where
  refl _ := ⟨rfl, rfl⟩
  trans _ _ _ first second := ⟨second.1.trans first.1, second.2.trans first.2⟩
  effect _ applied := (Change.apply_effect applied).contacts

/-- Outside the record of a send a message keeps its mail. -/
theorem tracks_messages :
    Tracks Change.apply Change.ordinary Database.messages Change.insertedMessage
      Message.SameMail where
  refl _ := ⟨rfl, rfl, rfl, rfl⟩
  trans _ _ _ first second := ⟨second.1.trans first.1, second.2.1.trans first.2.1,
    second.2.2.1.trans first.2.2.1, second.2.2.2.trans first.2.2.2⟩
  effect ordinary applied := (Change.apply_effect applied).messages ordinary

/-- A mailbox keeps its owner through every change. -/
theorem tracks_mailboxes :
    Tracks Change.apply (fun _ => True) Database.mailboxes Change.insertedMailbox
      Mailbox.SameOwner where
  refl := Mailbox.SameOwner.refl
  trans _ _ _ first second := Eq.trans second first
  effect _ applied := (Change.apply_effect applied).mailboxes

theorem tracks_unmatched :
    Tracks Change.apply (fun _ => True) Database.unmatched Change.insertedUnmatched
      UnmatchedInboundMessage.SameMail where
  refl _ := ⟨rfl, rfl, rfl⟩
  trans _ _ _ first second := ⟨second.1.trans first.1, second.2.1.trans first.2.1,
    second.2.2.trans first.2.2⟩
  effect _ applied := (Change.apply_effect applied).unmatched

section Parties

variable {database view : Database} {changes : List Change}

/-- The campaigns, contacts and mailboxes of a view are those of the database. -/
structure SameParties (database view : Database) : Prop where
  campaigns : view.campaigns = database.campaigns
  contacts : ∀ key contact, view.contacts.get key = some contact →
    ∃ stored, database.contacts.get key = some stored ∧ Contact.SamePerson stored contact
  mailboxes : ∀ key mailbox, view.mailboxes.get key = some mailbox →
    ∃ stored, database.mailboxes.get key = some stored ∧ Mailbox.SameOwner stored mailbox

/-- An ordinary change inserts neither a party nor a mailbox. -/
theorem Change.ordinary.inserts_nobody
    {change : Change}
    (plain : change.ordinary) :
    change.insertedContact = none ∧ change.insertedCampaign = none ∧
      change.insertedMailbox = none := by
  cases change with
  | insertCampaign row => exact plain.elim
  | insertContact row => exact plain.elim
  | insertMailbox row => exact plain.elim
  | _ => exact ⟨rfl, rfl, rfl⟩

theorem applyAll_sameParties
    (plain : ∀ change ∈ changes, change.ordinary)
    (applied : applyAll Change.apply database changes = some view) :
    SameParties database view where
  campaigns := by
    refine Table.ext_get fun key => ?_
    cases found : view.campaigns.get key with
    | some campaign =>
        rcases tracks_campaigns.origin (fun _ _ => trivial) applied found with
          ⟨_, stored, rfl⟩ | ⟨change, member, _, inserted, -⟩
        · exact stored.symm
        · rw [(plain change member).inserts_nobody.2.1] at inserted
          cases inserted
    | none =>
        cases stored : database.campaigns.get key with
        | none => rfl
        | some campaign =>
            obtain ⟨_, kept, rfl⟩ :=
              tracks_campaigns.extends_table (fun _ _ => trivial) applied key campaign stored
            rw [found] at kept
            cases kept
  contacts key contact found := by
    rcases tracks_contacts.origin (fun _ _ => trivial) applied found with
      ⟨stored, present, same⟩ | ⟨change, member, _, inserted, -⟩
    · exact ⟨stored, present, same⟩
    · rw [(plain change member).inserts_nobody.1] at inserted
      cases inserted
  mailboxes key mailbox found := by
    rcases tracks_mailboxes.origin (fun _ _ => trivial) applied found with
      ⟨stored, present, same⟩ | ⟨change, member, _, inserted, -⟩
    · exact ⟨stored, present, same⟩
    · rw [(plain change member).inserts_nobody.2.2] at inserted
      cases inserted

end Parties

/-! ## Dispatches -/

/-- No change touches a dispatch. -/
theorem Change.apply_dispatches
    {database updated : Database}
    {change : Change}
    (applied : change.apply database = some updated) :
    updated.dispatches = database.dispatches := by
  cases change with
  | insertCampaign row =>
      obtain ⟨-, rfl⟩ := Database.insertCampaign_eq_some applied
      rfl
  | insertContact row =>
      obtain ⟨-, -, rfl⟩ := Database.insertContact_eq_some applied
      rfl
  | insertMessage row =>
      obtain ⟨-, rfl⟩ := Database.insertMessage_eq_some applied
      rfl
  | insertSuppression row =>
      obtain ⟨-, rfl⟩ := Database.insertSuppression_eq_some applied
      rfl
  | insertMailbox row =>
      obtain ⟨-, -, rfl⟩ := Database.insertMailbox_eq_some applied
      rfl
  | insertUnmatched row =>
      obtain ⟨-, -, rfl⟩ := Database.insertUnmatched_eq_some applied
      rfl
  | updateContact key patch =>
      obtain rfl := Option.some.inj applied
      rfl
  | recordSend key record =>
      obtain ⟨rfl, -⟩ := Database.updateMessage_eq_some applied
      rfl
  | interpretMessage contactId reference interpretation =>
      obtain rfl := Option.some.inj applied
      cases messageByReference database contactId reference <;> rfl
  | updateMailbox key patch =>
      obtain rfl := Option.some.inj applied
      rfl
  | resolveRetained mailboxId identity resolvedAt =>
      obtain rfl := Option.some.inj applied
      cases unresolvedRetained database mailboxId identity <;> rfl

/-- No transaction of the pipeline touches a dispatch. -/
theorem applyAll_dispatches
    {database updated : Database}
    {changes : List Change}
    (applied : applyAll Change.apply database changes = some updated) :
    updated.dispatches = database.dispatches := by
  induction changes generalizing database with
  | nil =>
      obtain rfl := Option.some.inj applied
      rfl
  | cons change changes inductionHypothesis =>
      obtain ⟨middle, first, rest⟩ := Option.bind_eq_some_iff.mp applied
      exact (inductionHypothesis rest).trans (Change.apply_dispatches first)

/-! ## Well-formedness -/

/-- A change that is applied keeps the indexes and the foreign keys. -/
theorem Change.apply_wellFormed
    {database updated : Database}
    {change : Change}
    (wellFormed : database.WellFormed)
    (applied : change.apply database = some updated) :
    updated.WellFormed := by
  cases change with
  | insertCampaign row => exact wellFormed.insertCampaign applied
  | insertContact row => exact wellFormed.insertContact applied
  | insertMessage row => exact wellFormed.insertMessage applied
  | insertSuppression row => exact wellFormed.insertSuppression applied
  | insertMailbox row => exact wellFormed.insertMailbox applied
  | insertUnmatched row => exact wellFormed.insertUnmatched applied
  | updateContact key patch =>
      obtain rfl := Option.some.inj applied
      exact wellFormed.modifyContact fun _ _ => ⟨rfl, rfl⟩
  | recordSend key record =>
      have updates : database.updateMessage key record.apply = some updated := applied
      refine wellFormed.updateMessage ?_ updates
      exact fun _ _ => ⟨rfl, rfl, rfl⟩
  | interpretMessage contactId reference interpretation =>
      obtain rfl := Option.some.inj applied
      cases messageByReference database contactId reference with
      | none => exact wellFormed
      | some key =>
          exact wellFormed.modifyMessage (fun _ _ => ⟨rfl, rfl, rfl⟩) fun _ _ => rfl
  | updateMailbox key patch =>
      obtain rfl := Option.some.inj applied
      exact wellFormed.modifyMailbox fun _ _ => ⟨rfl, rfl⟩
  | resolveRetained mailboxId identity resolvedAt =>
      obtain rfl := Option.some.inj applied
      cases unresolvedRetained database mailboxId identity with
      | none => exact wellFormed
      | some key => exact wellFormed.modifyUnmatched fun _ _ => ⟨rfl, rfl⟩

/-- So does a transaction. -/
theorem applyAll_wellFormed
    {database updated : Database}
    {changes : List Change}
    (wellFormed : database.WellFormed)
    (applied : applyAll Change.apply database changes = some updated) :
    updated.WellFormed := by
  induction changes generalizing database with
  | nil =>
      obtain rfl := Option.some.inj applied
      exact wellFormed
  | cons change changes inductionHypothesis =>
      obtain ⟨middle, first, rest⟩ := Option.bind_eq_some_iff.mp applied
      exact inductionHypothesis (Change.apply_wellFormed wellFormed first) rest

end Native
end MailerAgent
