import MailerAgent.Foundation.Separation
import MailerAgent.Native.Agreement
import MailerAgent.Native.Changes
import MailerAgent.Native.Correlation

/-!
# Whose rows a request writes

A change is owned by an organization if it only concerns rows of it; it leaves the rows of
every other organization as they are. What belongs to whom is fixed, whatever is committed,
so a request may rely on the ownership that it has checked.
-/

namespace MailerAgent

open Concurrent Relational

/-- A campaign stays with its organization. -/
def Campaign.SameOrganization (before after : Campaign) : Prop :=
  after.organizationId = before.organizationId

/-- A contact stays in its campaign. -/
def Contact.SameCampaign (before after : Contact) : Prop :=
  after.campaignId = before.campaignId

/-- A message stays with its contact. -/
def Message.SameContact (before after : Message) : Prop :=
  after.contactId = before.contactId

theorem Message.SameContact.refl (message : Message) : message.SameContact message :=
  Eq.refl message.contactId

namespace Database

/-- A campaign of an organization. -/
def OwnsCampaign
    (database : Database)
    (organization : String)
    (key : Nat) : Prop :=
  ∃ campaign, database.campaigns.get key = some campaign ∧
    campaign.organizationId = some organization

/-- A contact of a campaign of an organization. -/
def OwnsContact
    (database : Database)
    (organization : String)
    (campaignId key : Nat) : Prop :=
  database.OwnsCampaign organization campaignId ∧
    ∃ contact, database.contacts.get key = some contact ∧ contact.campaignId = campaignId

/-- A message to or from a contact of an organization. -/
def OwnsMessage
    (database : Database)
    (organization : String)
    (key : Nat) : Prop :=
  ∃ message campaignId, database.messages.get key = some message ∧
    database.OwnsContact organization campaignId message.contactId

/-- Rows stay where they belong. -/
structure KeepsOwners (before after : Database) : Prop where
  campaigns : Table.Extends Campaign.SameOrganization before.campaigns after.campaigns
  contacts : Table.Extends Contact.SameCampaign before.contacts after.contacts
  messages : Table.Extends Message.SameContact before.messages after.messages
  mailboxes : Table.Extends Mailbox.SameOwner before.mailboxes after.mailboxes

namespace KeepsOwners

variable {before middle after : Database} {organization : String} {campaignId key : Nat}

theorem refl (database : Database) : KeepsOwners database database :=
  ⟨.refl (fun row => Eq.refl row.organizationId) _, .refl (fun row => Eq.refl row.campaignId) _,
    .refl Message.SameContact.refl _, .refl Mailbox.SameOwner.refl _⟩

theorem trans
    (left : KeepsOwners before middle)
    (right : KeepsOwners middle after) :
    KeepsOwners before after :=
  ⟨.trans (fun _ _ _ first second => Eq.trans second first) left.campaigns right.campaigns,
    .trans (fun _ _ _ first second => Eq.trans second first) left.contacts right.contacts,
    .trans (fun _ _ _ first second => Eq.trans second first) left.messages right.messages,
    .trans (fun _ _ _ first second => Eq.trans second first) left.mailboxes right.mailboxes⟩

theorem of_extends (extended : before.Extends after) : KeepsOwners before after where
  campaigns key row found := by
    obtain ⟨kept, foundKept, owner⟩ := extended.campaigns key row found
    exact ⟨kept, foundKept, owner.1⟩
  contacts key row found := by
    obtain ⟨kept, foundKept, person⟩ := extended.contacts key row found
    exact ⟨kept, foundKept, person.1⟩
  messages key row found := by
    obtain ⟨kept, foundKept, keeps⟩ := extended.messages key row found
    exact ⟨kept, foundKept, keeps.contactId⟩
  mailboxes := extended.mailboxes

theorem ownsCampaign
    (keeps : KeepsOwners before after)
    (owns : before.OwnsCampaign organization key) :
    after.OwnsCampaign organization key := by
  obtain ⟨campaign, found, owner⟩ := owns
  obtain ⟨kept, foundKept, same⟩ := keeps.campaigns key campaign found
  exact ⟨kept, foundKept, Eq.trans same owner⟩

theorem ownsContact
    (keeps : KeepsOwners before after)
    (owns : before.OwnsContact organization campaignId key) :
    after.OwnsContact organization campaignId key := by
  obtain ⟨campaign, contact, found, belongs⟩ := owns
  obtain ⟨kept, foundKept, same⟩ := keeps.contacts key contact found
  exact ⟨keeps.ownsCampaign campaign, kept, foundKept, Eq.trans same belongs⟩

theorem ownsMessage
    (keeps : KeepsOwners before after)
    (owns : before.OwnsMessage organization key) :
    after.OwnsMessage organization key := by
  obtain ⟨message, campaignId, found, contact⟩ := owns
  obtain ⟨kept, foundKept, same⟩ := keeps.messages key message found
  refine ⟨kept, campaignId, foundKept, ?_⟩
  rw [show kept.contactId = message.contactId from same]
  exact keeps.ownsContact contact

theorem ownMailbox
    (keeps : KeepsOwners before after)
    (owns : Native.OwnMailbox before key organization) :
    Native.OwnMailbox after key organization := by
  obtain ⟨mailbox, found, owner⟩ := owns
  obtain ⟨kept, foundKept, same⟩ := keeps.mailboxes key mailbox found
  exact ⟨kept, foundKept, Eq.trans same owner⟩

end KeepsOwners

theorem OwnsContact.owns
    {database : Database}
    {organization : String}
    {campaignId key : Nat}
    (owned : database.OwnsContact organization campaignId key) :
    ∃ contact, database.contacts.get key = some contact ∧
      database.organizationOf contact = some organization := by
  obtain ⟨⟨campaign, foundCampaign, owner⟩, contact, found, rfl⟩ := owned
  exact ⟨contact, found, by simp [organizationOf, campaignOf, foundCampaign, owner]⟩

theorem ownsContact_of_owns
    {database : Database}
    {organization : String}
    {key : Nat}
    {contact : Contact}
    (found : database.contacts.get key = some contact)
    (owner : database.organizationOf contact = some organization) :
    database.OwnsContact organization contact.campaignId key := by
  obtain ⟨campaign, foundCampaign, owned⟩ := Option.bind_eq_some_iff.mp owner
  exact ⟨⟨campaign, foundCampaign, owned⟩, contact, found, rfl⟩

end Database

/-! ## Other organizations -/

namespace Database.AgreeOn

variable {organization other : String} {left middle right : Database}

theorem refl
    (organization : String)
    (database : Database) :
    AgreeOn organization database database :=
  ⟨fun _ => rfl, fun _ => rfl, fun _ => rfl, fun _ => rfl, fun _ => rfl, fun _ => rfl,
    fun _ => rfl⟩

theorem trans
    (first : AgreeOn organization left middle)
    (second : AgreeOn organization middle right) :
    AgreeOn organization left right :=
  ⟨first.campaigns.trans second.campaigns, first.contacts.trans second.contacts,
    first.messages.trans second.messages, first.dispatches.trans second.dispatches,
    first.suppressions.trans second.suppressions, first.mailboxes.trans second.mailboxes,
    first.unmatched.trans second.unmatched⟩

theorem symm (agree : AgreeOn organization left right) : AgreeOn organization right left :=
  ⟨agree.campaigns.symm, agree.contacts.symm, agree.messages.symm, agree.dispatches.symm,
    agree.suppressions.symm, agree.mailboxes.symm, agree.unmatched.symm⟩

/-- A message belongs to the organization of its contact, which may change with the
contact. -/
theorem inOrganization_congr
    {message : Message}
    (same : (left.contacts.get message.contactId).any (left.owns organization) =
      (right.contacts.get message.contactId).any (right.owns organization)) :
    Native.inOrganization left (some organization) message =
      Native.inOrganization right (some organization) message :=
  same

end Database.AgreeOn

namespace Native

open Mail Dispatch

/-- The changes to rows of an organization that a request makes. -/
def Change.OwnedBy
    (organization : String)
    (database : Database) : Change → Prop
  | insertCampaign row => row.organizationId = some organization
  | insertContact row => database.OwnsCampaign organization row.campaignId
  | insertMessage row =>
      ∃ campaignId, database.OwnsContact organization campaignId row.contactId
  | insertSuppression row => row.organizationId = some organization
  | insertMailbox row => row.organizationId = organization
  | updateContact key _ => ∃ campaignId, database.OwnsContact organization campaignId key
  | recordSend key _ => database.OwnsMessage organization key
  | interpretMessage contactId _ _ =>
      ∃ campaignId, database.OwnsContact organization campaignId contactId
  | updateMailbox key _ => OwnMailbox database key organization
  | insertUnmatched _ | resolveRetained _ _ _ => False

variable {organization other : String} {before after : Database} {change : Change}

theorem Change.OwnedBy.of_keepsOwners
    (owned : change.OwnedBy organization before)
    (keeps : before.KeepsOwners after) :
    change.OwnedBy organization after := by
  cases change with
  | insertCampaign | insertSuppression | insertMailbox => exact owned
  | insertContact row => exact keeps.ownsCampaign owned
  | insertMessage row =>
      obtain ⟨campaignId, owns⟩ := owned
      exact ⟨campaignId, keeps.ownsContact owns⟩
  | updateContact key patch =>
      obtain ⟨campaignId, owns⟩ := owned
      exact ⟨campaignId, keeps.ownsContact owns⟩
  | recordSend key record => exact keeps.ownsMessage owned
  | interpretMessage contactId reference interpretation =>
      obtain ⟨campaignId, owns⟩ := owned
      exact ⟨campaignId, keeps.ownsContact owns⟩
  | updateMailbox key patch => exact keeps.ownMailbox owned
  | insertUnmatched | resolveRetained => exact owned.elim

/-- No change moves a row to another owner. -/
theorem Change.keepsOwners (applied : change.apply before = some after) :
    before.KeepsOwners after := by
  have effect := Change.apply_effect applied
  refine ⟨?_, ?_, ?_, effect.mailboxes.extends_table Mailbox.SameOwner.refl⟩
  · have same : ∀ first second : Campaign, first = second → first.SameOrganization second := by
      rintro first _ rfl
      exact Eq.refl first.organizationId
    exact (effect.campaigns.imp same).extends_table fun row => same row row rfl
  · have same : ∀ first second : Contact, first.SamePerson second → first.SameCampaign second :=
      fun _ _ person => person.1
    exact (effect.contacts.imp same).extends_table fun row => same row row ⟨rfl, rfl⟩
  · by_cases ordinary : change.ordinary
    · have same : ∀ first second : Message, Message.SameMail first second →
          first.SameContact second := fun _ _ mail => mail.1
      exact ((effect.messages ordinary).imp same).extends_table Message.SameContact.refl
    · cases change with
      | recordSend key record =>
          obtain ⟨rfl, -⟩ := Database.updateMessage_eq_some applied
          exact .modify Message.SameContact.refl fun row _ => Eq.refl row.contactId
      | insertCampaign row =>
          obtain ⟨-, rfl⟩ := Database.insertCampaign_eq_some applied
          exact .refl Message.SameContact.refl _
      | insertContact row =>
          obtain ⟨-, -, rfl⟩ := Database.insertContact_eq_some applied
          exact .refl Message.SameContact.refl _
      | insertMailbox row =>
          obtain ⟨-, -, rfl⟩ := Database.insertMailbox_eq_some applied
          exact .refl Message.SameContact.refl _
      | _ => exact absurd trivial ordinary

theorem keepsOwners_applyAll
    {writes : List Change}
    (applied : applyAll Change.apply before writes = some after) :
    before.KeepsOwners after := by
  induction writes generalizing before with
  | nil =>
      cases applied
      exact .refl _
  | cons change rest inductionHypothesis =>
      obtain ⟨next, first, later⟩ := Option.bind_eq_some_iff.mp applied
      exact (Change.keepsOwners first).trans (inductionHypothesis later)

/-! ## One change -/

/-- A change of the contacts that only concerns contacts of another organization. -/
theorem agreeOn_contacts
    {database : Database}
    {contacts : Table Contact}
    (agrees : database.contacts.Agrees contacts (database.owns other) (database.owns other)) :
    database.AgreeOn other { database with contacts := contacts } := by
  refine ⟨fun _ => rfl, agrees, ?_, fun _ => rfl, fun _ => rfl, fun _ => rfl, fun _ => rfl⟩
  refine Table.Agrees.of_same fun _ message _ => Database.AgreeOn.inOrganization_congr ?_
  exact agrees.any_eq (fun _ => id) (fun _ => id) (fun _ _ _ _ _ => rfl) message.contactId

/-- A change of the messages that only concerns messages of another organization. -/
theorem agreeOn_messages
    {database : Database}
    {messages : Table Message}
    (agrees : database.messages.Agrees messages (inOrganization database (some other))
      (inOrganization database (some other))) :
    database.AgreeOn other { database with messages := messages } :=
  ⟨fun _ => rfl, fun _ => rfl, agrees, fun _ => rfl, fun _ => rfl, fun _ => rfl, fun _ => rfl⟩

section Foreign

variable {database : Database} {campaignId key : Nat} (different : other ≠ organization)

include different

theorem not_owns
    {contact : Contact}
    (owner : database.organizationOf contact = some organization) :
    database.owns other contact = false := by
  unfold Database.owns
  rw [owner]
  simpa using different.symm

/-- A contact of one organization is not one of another. -/
theorem foreign_of_ownsContact
    (owns : database.OwnsContact organization campaignId key) :
    (database.contacts.get key).any (database.owns other) = false := by
  obtain ⟨contact, found, owner⟩ := owns.owns
  rw [found, Option.any_some]
  exact not_owns different owner

theorem owns_insertCampaign
    {row : Campaign}
    (owner : row.organizationId = some organization) :
    database.owns other =
      Database.owns { database with campaigns := database.campaigns.insert row } other := by
  funext contact
  unfold Database.owns Database.organizationOf Database.campaignOf
  dsimp only
  rw [Table.get_insert]
  split
  · next here =>
      rw [here, database.campaigns.get_eq_none_of_size_le (Nat.le_refl _), Option.bind_some,
        owner]
      simpa using different.symm
  · rfl

theorem agreeOn_insertCampaign
    {row : Campaign}
    (owner : row.organizationId = some organization) :
    database.AgreeOn other { database with campaigns := database.campaigns.insert row } := by
  have same := @owns_insertCampaign organization other database different row owner
  refine ⟨?_, ?_, ?_, fun _ => rfl, fun _ => rfl, fun _ => rfl, fun _ => rfl⟩
  · refine (Table.Agrees.of_same fun _ _ _ => rfl).insert ?_
    rw [owner]
    simpa using different.symm
  · exact Table.Agrees.of_same fun _ contact _ => congrFun same contact
  · refine Table.Agrees.of_same fun _ message _ => Database.AgreeOn.inOrganization_congr ?_
    rw [same]

/-- An owned change leaves the rows of every other organization as they are. -/
theorem Change.OwnedBy.agreeOn
    (owned : change.OwnedBy organization before)
    (applied : change.apply before = some after) :
    before.AgreeOn other after := by
  cases change with
  | insertCampaign row =>
      obtain ⟨-, rfl⟩ := Database.insertCampaign_eq_some applied
      exact agreeOn_insertCampaign different owned
  | insertContact row =>
      obtain ⟨-, -, rfl⟩ := Database.insertContact_eq_some applied
      obtain ⟨campaign, found, owner⟩ := owned
      refine agreeOn_contacts ((Table.Agrees.of_same fun _ _ _ => rfl).insert ?_)
      refine not_owns different ?_
      simp [Database.organizationOf, Database.campaignOf, found, owner]
  | insertMessage row =>
      obtain ⟨-, rfl⟩ := Database.insertMessage_eq_some applied
      obtain ⟨campaignId, owns⟩ := owned
      exact agreeOn_messages ((Table.Agrees.of_same fun _ _ _ => rfl).insert
        (foreign_of_ownsContact different owns))
  | insertSuppression row =>
      obtain ⟨-, rfl⟩ := Database.insertSuppression_eq_some applied
      refine ⟨fun _ => rfl, fun _ => rfl, fun _ => rfl, fun _ => rfl, ?_, fun _ => rfl,
        fun _ => rfl⟩
      refine (Table.Agrees.of_same fun _ _ _ => rfl).insert ?_
      rw [show row.organizationId = some organization from owned]
      simpa using different.symm
  | insertMailbox row =>
      obtain ⟨-, -, rfl⟩ := Database.insertMailbox_eq_some applied
      refine ⟨fun _ => rfl, fun _ => rfl, fun _ => rfl, fun _ => rfl, fun _ => rfl, ?_,
        fun _ => rfl⟩
      refine (Table.Agrees.of_same fun _ _ _ => rfl).insert ?_
      rw [show row.organizationId = organization from owned]
      simpa using different.symm
  | updateContact key patch =>
      cases applied
      obtain ⟨campaignId, owns⟩ := owned
      refine agreeOn_contacts ((Table.Agrees.of_same fun _ _ _ => rfl).modify ?_)
      intro contact found
      have foreign := foreign_of_ownsContact different owns
      rw [found, Option.any_some] at foreign
      exact ⟨foreign, foreign⟩
  | recordSend key record =>
      obtain ⟨rfl, -⟩ := Database.updateMessage_eq_some applied
      obtain ⟨message, campaignId, found, owns⟩ := owned
      refine agreeOn_messages ((Table.Agrees.of_same fun _ _ _ => rfl).modify ?_)
      intro row foundRow
      obtain rfl : message = row := Option.some.inj (found.symm.trans foundRow)
      exact ⟨foreign_of_ownsContact different owns, foreign_of_ownsContact different owns⟩
  | interpretMessage contactId reference interpretation =>
      cases applied
      obtain ⟨campaignId, owns⟩ := owned
      cases named : messageByReference before contactId reference with
      | none => exact .refl other before
      | some key =>
          obtain ⟨row, found, holds⟩ := Table.firstWhere_eq_some named
          rw [Bool.and_eq_true, beq_iff_eq] at holds
          refine agreeOn_messages ((Table.Agrees.of_same fun _ _ _ => rfl).modify ?_)
          intro message foundMessage
          obtain rfl : row = message := Option.some.inj (found.symm.trans foundMessage)
          rw [← holds.1] at owns
          exact ⟨foreign_of_ownsContact different owns, foreign_of_ownsContact different owns⟩
  | updateMailbox key patch =>
      cases applied
      obtain ⟨mailbox, found, owner⟩ := owned
      refine ⟨fun _ => rfl, fun _ => rfl, fun _ => rfl, fun _ => rfl, fun _ => rfl, ?_,
        fun _ => rfl⟩
      refine (Table.Agrees.of_same fun _ _ _ => rfl).modify ?_
      intro row foundRow
      obtain rfl : mailbox = row := Option.some.inj (found.symm.trans foundRow)
      have foreign : (mailbox.organizationId == other) = false := by
        rw [owner]
        simpa using different.symm
      exact ⟨foreign, foreign⟩
  | insertUnmatched | resolveRetained => exact owned.elim

theorem agreeOn_applyAll
    {writes : List Change}
    (owned : ∀ change ∈ writes, change.OwnedBy organization before)
    (applied : applyAll Change.apply before writes = some after) :
    before.AgreeOn other after := by
  induction writes generalizing before with
  | nil =>
      cases applied
      exact .refl other _
  | cons change rest inductionHypothesis =>
      obtain ⟨next, first, later⟩ := Option.bind_eq_some_iff.mp applied
      have keeps := Change.keepsOwners first
      refine ((owned change List.mem_cons_self).agreeOn different first).trans
        (inductionHypothesis (fun other member => ?_) later)
      exact (owned other (List.mem_cons_of_mem _ member)).of_keepsOwners keeps

end Foreign

end Native
end MailerAgent
