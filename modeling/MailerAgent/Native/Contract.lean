import MailerAgent.Dispatch.Writes
import MailerAgent.Native.Changes
import MailerAgent.Native.Polling

/-!
# What native programs promise

The contract under which the native components run beside each other and beside
the dispatch pipeline: the database only becomes later, in a state that is
consistent and whose inbox is sound; a program makes only permitted changes and
has only allowed interactions. `permitted` and `allowed` are stated on what is
already known of the database, so that no later step can invalidate them.
-/

namespace MailerAgent
namespace Native

open Concurrent Relational Mail Dispatch

/-- The rely condition: how the database may change. -/
structure Later (before after : Database) : Prop where
  extended : before.Extends after
  consistent : Consistent after
  inbox : after.InboxSound

theorem Later.refl_right
    {before after : Database}
    (later : Later before after) :
    Later after after :=
  ⟨.refl after, later.consistent, later.inbox⟩

theorem Later.trans
    {first second third : Database}
    (left : Later first second)
    (right : Later second third) :
    Later first third :=
  ⟨left.extended.trans right.extended, right.consistent, right.inbox⟩

/-- A step of the pipeline respects the rely condition. -/
theorem Later.of_advances
    {before after : Database}
    (current : Later before before)
    (advances : Advances before after) :
    Later before after :=
  ⟨advances.extended, advances.consistent,
    current.inbox.of_kept current.consistent.toWellFormed advances.extended advances.inbox⟩

/-! ## Facts about contacts -/

/-- A contact with its campaign, outside every integration. -/
def NativeContact
    (database : Database)
    (key : Nat)
    (email : String)
    (organization : Option String) : Prop :=
  ∃ contact campaign, database.contacts.get key = some contact ∧
    database.campaigns.get contact.campaignId = some campaign ∧
    contact.email = email ∧ campaign.organizationId = organization ∧
    campaign.integrationSource = none

/-- A contact with its campaign. -/
def KnownContact
    (database : Database)
    (key : Nat)
    (email : String)
    (organization : Option String) : Prop :=
  ∃ contact campaign, database.contacts.get key = some contact ∧
    database.campaigns.get contact.campaignId = some campaign ∧
    contact.email = email ∧ campaign.organizationId = organization

theorem NativeContact.known
    {database : Database}
    {key : Nat}
    {email : String}
    {organization : Option String}
    (native : NativeContact database key email organization) :
    KnownContact database key email organization := by
  obtain ⟨contact, campaign, found, foundCampaign, address, owner, -⟩ := native
  exact ⟨contact, campaign, found, foundCampaign, address, owner⟩

theorem KnownContact.of_extends
    {before after : Database}
    {key : Nat}
    {email : String}
    {organization : Option String}
    (known : KnownContact before key email organization)
    (extended : before.Extends after) :
    KnownContact after key email organization := by
  obtain ⟨contact, campaign, found, foundCampaign, address, owner⟩ := known
  obtain ⟨current, foundCurrent, person⟩ := extended.contacts _ contact found
  obtain ⟨kept, foundKept, same⟩ := extended.campaigns _ campaign foundCampaign
  exact ⟨current, kept, foundCurrent, by rw [person.1]; exact foundKept,
    person.2.trans address, same.1.trans owner⟩

theorem NativeContact.of_extends
    {before after : Database}
    {key : Nat}
    {email : String}
    {organization : Option String}
    (native : NativeContact before key email organization)
    (extended : before.Extends after) :
    NativeContact after key email organization := by
  obtain ⟨contact, campaign, found, foundCampaign, address, owner, source⟩ := native
  obtain ⟨current, foundCurrent, person⟩ := extended.contacts _ contact found
  obtain ⟨kept, foundKept, same⟩ := extended.campaigns _ campaign foundCampaign
  exact ⟨current, kept, foundCurrent, by rw [person.1]; exact foundKept,
    person.2.trans address, same.1.trans owner, same.2.trans source⟩

/-- A native contact is not managed. -/
theorem NativeContact.not_managed
    {database : Database}
    {key : Nat}
    {email : String}
    {organization : Option String}
    (native : NativeContact database key email organization)
    {contact : Contact}
    (found : database.contacts.get key = some contact) :
    database.contactIsIntegrationManaged contact = false := by
  obtain ⟨same, campaign, foundSame, foundCampaign, -, -, source⟩ := native
  obtain rfl : same = contact := Option.some.inj (foundSame.symm.trans found)
  unfold Database.contactIsIntegrationManaged Database.campaignOf
  rw [foundCampaign]
  simp [source]

/-! ## Permitted changes -/

/-- An entry on the suppression list for a contact, stored or about to be. -/
def OptedOut
    (base : Database)
    (earlier : List Change)
    (contactId : Nat) : Prop :=
  ∃ email organization, KnownContact base contactId email organization ∧
    ((∃ key entry, base.suppressions.get key = some entry ∧
        entry.email = email ∧ entry.organizationId = organization) ∨
      ∃ entry, .insertSuppression entry ∈ earlier ∧
        entry.email = email ∧ entry.organizationId = organization)

/-- A mailbox of an organization. -/
def OwnMailbox
    (database : Database)
    (mailboxId : Nat)
    (organization : String) : Prop :=
  ∃ mailbox, database.mailboxes.get mailboxId = some mailbox ∧
    mailbox.organizationId = organization

theorem OwnMailbox.of_extends
    {before after : Database}
    {mailboxId : Nat}
    {organization : String}
    (own : OwnMailbox before mailboxId organization)
    (extended : before.Extends after) :
    OwnMailbox after mailboxId organization := by
  obtain ⟨mailbox, found, owner⟩ := own
  obtain ⟨kept, foundKept, same⟩ := extended.mailboxes _ mailbox found
  exact ⟨kept, foundKept, Eq.trans same owner⟩

/-- A message that arrives through a mailbox is for a contact of its organization. -/
def Arrives
    (base : Database)
    (row : Message) : Prop :=
  ∀ mailboxId, row.mailboxId = some mailboxId → row.direction = .inbound ∧
    ∃ email organization, OwnMailbox base mailboxId organization ∧
      KnownContact base row.contactId email (some organization)

/-- The changes that a program may make. -/
def Permitted
    (base : Database)
    (earlier : List Change) : Change → Prop
  | .insertCampaign row => row.integrationSource = none
  | .insertContact row => row.nextActionAt = none
  | .insertMessage row =>
      row.semanticAnalysis = none ∧ (row.direction = .inbound → row.status = .received) ∧
        Arrives base row
  | .insertSuppression _ => True
  | .insertMailbox _ => True
  | .insertUnmatched row => OwnMailbox base row.mailboxId row.organizationId
  | .updateContact key patch => ∀ instant, patch.nextActionAt = some (some instant) →
      ∃ email organization, NativeContact base key email organization
  | .recordSend key _ => ∃ message, base.messages.get key = some message ∧
      message.direction = .outbound ∧
      ∃ email organization, NativeContact base message.contactId email organization
  | .interpretMessage contactId _ interpretation =>
      ∀ intent, interpretation.semanticAnalysis = some intent →
        .unsubscribe ∈ intent.intents → OptedOut base earlier contactId
  | .updateMailbox _ _ => True
  | .resolveRetained _ _ _ => True

theorem OptedOut.mono
    {base store : Database}
    {earlier more : List Change}
    {contactId : Nat}
    (opted : OptedOut base earlier contactId)
    (extended : base.Extends store)
    (included : ∀ entry, .insertSuppression entry ∈ earlier →
      .insertSuppression entry ∈ more) :
    OptedOut store more contactId := by
  obtain ⟨email, organization, known, recorded⟩ := opted
  refine ⟨email, organization, known.of_extends extended, ?_⟩
  rcases recorded with ⟨key, entry, found, matching⟩ | ⟨entry, staged, matching⟩
  · obtain ⟨_, foundKept, rfl⟩ := extended.suppressions key entry found
    exact .inl ⟨key, entry, foundKept, matching⟩
  · exact .inr ⟨entry, included entry staged, matching⟩

/-- A permission depends on the transaction only through the entries that it
inserts into the suppression list. -/
theorem Permitted.mono
    {base store : Database}
    {earlier more : List Change}
    {change : Change}
    (permitted : Permitted base earlier change)
    (extended : base.Extends store)
    (included : ∀ entry, .insertSuppression entry ∈ earlier →
      .insertSuppression entry ∈ more) :
    Permitted store more change := by
  cases change with
  | insertMessage row =>
      obtain ⟨plain, received, arrives⟩ := permitted
      refine ⟨plain, received, fun mailboxId through => ?_⟩
      obtain ⟨inbound, email, organization, own, known⟩ := arrives mailboxId through
      exact ⟨inbound, email, organization, own.of_extends extended,
        known.of_extends extended⟩
  | insertUnmatched row => exact permitted.of_extends extended
  | updateContact key patch =>
      intro instant scheduled
      obtain ⟨email, organization, native⟩ := permitted instant scheduled
      exact ⟨email, organization, native.of_extends extended⟩
  | recordSend key record =>
      obtain ⟨message, found, outbound, email, organization, native⟩ := permitted
      obtain ⟨kept, foundKept, keeps⟩ := extended.messages key message found
      exact ⟨kept, foundKept, keeps.direction.trans outbound, email, organization,
        by rw [keeps.contactId]; exact native.of_extends extended⟩
  | interpretMessage contactId reference interpretation =>
      intro intent analysed asked
      exact (permitted intent analysed asked).mono extended included
  | _ => exact permitted

/-! ## The effect of permitted changes -/

/-- A change that leaves messages, campaigns and contacts alone. -/
theorem Later.of_sound
    {view result : Database}
    (current : Later view view)
    (native : view.NativeExtends result)
    (sound : result.Sound)
    (inbox : view.InboxKept result) :
    Later view result :=
  .of_advances current (.of_native current.consistent sound native inbox)

section Changes

variable {base view result : Database} {earlier : List Change}

theorem later_updateContact
    {key : Nat}
    {patch : ContactPatch}
    (current : Later view view)
    (reached : base.Extends view)
    (permitted : Permitted base earlier (.updateContact key patch)) :
    Later view (view.modifyContact key patch.apply) := by
  have person : ∀ row, view.contacts.get key = some row →
      Contact.SamePerson row (patch.apply row) := fun _ _ => ⟨rfl, rfl⟩
  refine current.of_sound (.modifyContact person)
    (current.consistent.toSound.modifyContact person ?_) (.of_same rfl rfl)
  intro row found managed
  have unscheduled := current.consistent.managedUnscheduled key row found managed
  unfold ContactPatch.apply
  cases scheduled : patch.nextActionAt with
  | none => exact unscheduled
  | some next =>
      cases next with
      | none => rfl
      | some instant =>
          -- Only a native contact is scheduled, and this one is managed.
          obtain ⟨email, organization, native⟩ := permitted instant scheduled
          rw [(native.of_extends reached).not_managed found] at managed
          cases managed

theorem later_recordSend
    {key : Nat}
    {record : SendRecord}
    (current : Later view view)
    (reached : base.Extends view)
    (permitted : Permitted base earlier (.recordSend key record))
    (applied : view.updateMessage key record.apply = some result) :
    Later view result := by
  obtain ⟨message, found, outbound, email, organization, native⟩ := permitted
  obtain ⟨kept, foundKept, keeps⟩ := reached.messages key message found
  have sent : ∀ row, view.messages.get key = some row →
      row.direction = .outbound ∧ row.contactId = message.contactId := by
    intro row foundRow
    obtain rfl : row = kept := Option.some.inj (foundRow.symm.trans foundKept)
    exact ⟨keeps.direction.trans outbound, keeps.contactId⟩
  have keeps : ∀ row, view.messages.get key = some row →
      Message.Keeps row (record.apply row) := by
    intro row foundRow
    refine ⟨rfl, rfl, rfl, fun inbound => ?_⟩
    rw [(sent row foundRow).1] at inbound
    cases inbound
  have wellFormed : result.WellFormed := by
    refine current.consistent.toWellFormed.updateMessage ?_ applied
    exact fun _ _ => ⟨rfl, rfl, rfl⟩
  obtain ⟨rfl, -⟩ := Database.updateMessage_eq_some applied
  refine current.of_sound (.modifyMessage keeps ?_)
    (current.consistent.toSound.of_wellFormed wellFormed rfl rfl)
    (.modifyMessage (fun row foundRow => ⟨rfl, keeps row foundRow⟩)
      fun row foundRow => (sent row foundRow).1)
  · -- The contact is native, so the message is not a managed one.
    rintro row foundRow ⟨contact, foundContact, managed⟩
    rw [(sent row foundRow).2] at foundContact
    rw [(native.of_extends reached).not_managed foundContact] at managed
    cases managed

theorem later_insertMessage
    {row : Message}
    (current : Later view view)
    (reached : base.Extends view)
    (permitted : Permitted base earlier (.insertMessage row))
    (applied : view.insertMessage row = some result) :
    Later view result := by
  obtain ⟨plain, received, arrives⟩ := permitted
  have native := Database.NativeExtends.insertMessage applied
  refine ⟨native.toExtends, current.consistent.of_native
    (current.consistent.toSound.insertMessage applied) native, ?_, ?_, ?_, ?_⟩
  · intro key message found inbound
    obtain ⟨-, rfl⟩ := Database.insertMessage_eq_some applied
    rcases Table.get_insert_cases found with old | ⟨-, rfl⟩
    · exact current.inbox.received key message old inbound
    · exact received inbound
  · intro key message intent found analysed asked
    have stored : view.messages.get key = some message := by
      obtain ⟨-, rfl⟩ := Database.insertMessage_eq_some applied
      rcases Table.get_insert_cases found with old | ⟨-, rfl⟩
      · exact old
      · rw [plain] at analysed
        cases analysed
    exact native.toExtends.suppressionOf current.consistent.toWellFormed
      (current.inbox.unsubscribed key message intent stored analysed asked)
  · intro key message mailboxId found through
    refine native.toExtends.delivered current.consistent.toWellFormed (.refl message) ?_
    obtain ⟨-, rfl⟩ := Database.insertMessage_eq_some applied
    rcases Table.get_insert_cases found with old | ⟨-, rfl⟩
    · exact current.inbox.delivered key message mailboxId old through
    · obtain ⟨inbound, email, organization, own, known⟩ := arrives mailboxId through
      obtain ⟨mailbox, foundMailbox, rfl⟩ := own.of_extends reached
      obtain ⟨contact, campaign, foundContact, foundCampaign, -, owner⟩ :=
        known.of_extends reached
      refine ⟨inbound, mailbox, contact, foundMailbox, foundContact, ?_⟩
      unfold Database.organizationOf Database.campaignOf
      rw [foundCampaign]
      exact owner
  · intro key kept found
    obtain ⟨-, rfl⟩ := Database.insertMessage_eq_some applied
    exact native.toExtends.retained ⟨rfl, rfl, rfl⟩ (current.inbox.retained key kept found)

/-- Interpreting a message: a request to unsubscribe comes with its entry. -/
theorem later_interpretMessage
    {store : Database}
    {key contactId : Nat}
    {reference : String}
    {interpretation : Interpretation}
    (current : Later view view)
    (reached : base.Extends view)
    (seen : applyAll Change.apply store earlier = some view)
    (permitted : Permitted base earlier
      (.interpretMessage contactId reference interpretation))
    (named : messageByReference view contactId reference = some key) :
    Later view (view.modifyMessage key interpretation.apply) := by
  have keeps : ∀ row, view.messages.get key = some row →
      Message.Keeps row (interpretation.apply row) :=
    fun _ _ => ⟨rfl, rfl, rfl, fun _ => rfl⟩
  have native : view.NativeExtends (view.modifyMessage key interpretation.apply) :=
    .modifyMessage keeps fun _ _ _ => ⟨rfl, rfl⟩
  have wellFormed : (view.modifyMessage key interpretation.apply).WellFormed :=
    current.consistent.toWellFormed.modifyMessage
      (fun _ _ => ⟨rfl, rfl, rfl⟩) (fun _ _ => rfl)
  have sound := current.consistent.toSound.of_wellFormed wellFormed rfl rfl
  refine ⟨native.toExtends, current.consistent.of_native sound native, ?_, ?_, ?_, ?_⟩
  · intro position message found inbound
    obtain ⟨old, foundOld, rfl⟩ := Table.get_modify_cases found
    have same : (if position = key then interpretation.apply old else old).direction =
          old.direction ∧
        (if position = key then interpretation.apply old else old).status =
          old.status := by
      split <;> exact ⟨rfl, rfl⟩
    rw [same.1] at inbound
    rw [same.2]
    exact current.inbox.received position old foundOld inbound
  · intro position message intent found analysed asked
    refine native.toExtends.suppressionOf current.consistent.toWellFormed ?_
    obtain ⟨old, foundOld, rfl⟩ := Table.get_modify_cases found
    split at analysed
    · next here =>
        rw [if_pos here]
        cases fresh : interpretation.semanticAnalysis with
        | none =>
            simp only [Interpretation.apply, fresh, Option.none_or] at analysed
            exact current.inbox.unsubscribed position old intent foundOld analysed asked
        | some interpreted =>
            simp only [Interpretation.apply, fresh, Option.some_or,
              Option.some.injEq] at analysed
            subst analysed
            obtain ⟨email, organization, known, recorded⟩ :=
              permitted interpreted fresh asked
            obtain ⟨contact, campaign, foundContact, foundCampaign, address, owner⟩ :=
              known.of_extends reached
            obtain ⟨same, foundSame, matching⟩ := Table.firstWhere_eq_some named
            subst here
            obtain rfl : same = old := Option.some.inj (foundSame.symm.trans foundOld)
            simp only [Bool.and_eq_true, beq_iff_eq] at matching
            refine ⟨contact, by
              rw [show (interpretation.apply same).contactId = contactId from matching.1]
              exact foundContact, ?_⟩
            have organizationOf : view.organizationOf contact = organization := by
              unfold Database.organizationOf Database.campaignOf
              rw [foundCampaign]
              exact owner
            rw [organizationOf, address]
            rcases recorded with ⟨entryKey, entry, foundEntry, same⟩ | ⟨entry, staged, same⟩
            · obtain ⟨_, foundKept, rfl⟩ := reached.suppressions entryKey entry foundEntry
              exact ⟨entryKey, entry, foundKept, same⟩
            · obtain ⟨entryKey, _, foundEntry, rfl⟩ :=
                tracks_suppressions.get_inserted (fun _ _ => trivial) seen staged rfl
              exact ⟨entryKey, entry, foundEntry, same⟩
    · next elsewhere =>
        rw [if_neg elsewhere]
        exact current.inbox.unsubscribed position old intent foundOld analysed asked
  · intro position message mailboxId found through
    obtain ⟨old, foundOld, rfl⟩ := Table.get_modify_cases found
    have same : Message.Keeps old
        (if position = key then interpretation.apply old else old) := by
      split
      · next here => exact keeps old (here ▸ foundOld)
      · exact .refl old
    exact native.toExtends.delivered current.consistent.toWellFormed same
      (current.inbox.delivered position old mailboxId foundOld
        (same.mailboxId.symm.trans through))
  · intro position row found
    exact native.toExtends.retained ⟨rfl, rfl, rfl⟩
      (current.inbox.retained position row found)

/-- Retaining a message of a mailbox. -/
theorem later_insertUnmatched
    {row : UnmatchedInboundMessage}
    (current : Later view view)
    (reached : base.Extends view)
    (permitted : Permitted base earlier (.insertUnmatched row))
    (applied : view.insertUnmatched row = some result) :
    Later view result := by
  have native := Database.NativeExtends.insertUnmatched applied
  have sound := current.consistent.toSound.insertUnmatched applied
  obtain ⟨-, -, rfl⟩ := Database.insertUnmatched_eq_some applied
  refine ⟨native.toExtends, current.consistent.of_native sound native,
    current.inbox.received, current.inbox.unsubscribed, current.inbox.delivered, ?_⟩
  intro key stored found
  rcases Table.get_insert_cases found with old | ⟨-, rfl⟩
  · exact current.inbox.retained key stored old
  · obtain ⟨mailbox, foundMailbox, owner⟩ := permitted.of_extends reached
    exact ⟨mailbox, foundMailbox, owner.symm⟩

/-- A permitted change takes the view to a later one. -/
theorem permitted_advances
    {store : Database}
    {change : Change}
    (reached : Later base view)
    (seen : applyAll Change.apply store earlier = some view)
    (permitted : Permitted base earlier change)
    (applied : change.apply view = some result) :
    Later view result := by
  have current := reached.refl_right
  have sound := current.consistent.toSound
  cases change with
  | insertCampaign row =>
      obtain ⟨-, effect⟩ := Database.insertCampaign_eq_some applied
      exact current.of_sound (.insertCampaign applied)
        (sound.insertCampaign (.inl permitted) applied) (.of_same (by rw [effect]) (by rw [effect]))
  | insertContact row =>
      obtain ⟨-, -, effect⟩ := Database.insertContact_eq_some applied
      exact current.of_sound (.insertContact applied)
        (sound.insertContact (fun _ => permitted) applied)
        (.of_same (by rw [effect]) (by rw [effect]))
  | insertMessage row => exact later_insertMessage current reached.extended permitted applied
  | insertSuppression row =>
      obtain ⟨-, effect⟩ := Database.insertSuppression_eq_some applied
      exact current.of_sound (.insertSuppression applied)
        (sound.insertSuppression applied) (.of_same (by rw [effect]) (by rw [effect]))
  | insertMailbox row =>
      have wellFormed := sound.toWellFormed.insertMailbox applied
      obtain ⟨-, -, effect⟩ := Database.insertMailbox_eq_some applied
      exact current.of_sound (.insertMailbox applied)
        (sound.of_wellFormed wellFormed (by rw [effect]) (by rw [effect]))
        (.of_same (by rw [effect]) (by rw [effect]))
  | insertUnmatched row =>
      exact later_insertUnmatched current reached.extended permitted applied
  | updateContact key patch =>
      obtain rfl := Option.some.inj applied
      exact later_updateContact current reached.extended permitted
  | recordSend key record =>
      exact later_recordSend current reached.extended permitted applied
  | interpretMessage contactId reference interpretation =>
      obtain rfl := Option.some.inj applied
      cases named : messageByReference view contactId reference with
      | none => exact current
      | some key =>
          exact later_interpretMessage current reached.extended seen permitted named
  | updateMailbox key patch =>
      obtain rfl := Option.some.inj applied
      exact current.of_sound (.modifyMailbox fun _ _ => rfl)
        (sound.modifyMailbox fun _ _ => ⟨rfl, rfl⟩) (.of_same rfl rfl)
  | resolveRetained mailboxId identity resolvedAt =>
      obtain rfl := Option.some.inj applied
      cases unresolvedRetained view mailboxId identity with
      | none => exact current
      | some key =>
          refine current.of_sound (.modifyUnmatched fun _ _ => ⟨rfl, rfl, rfl⟩)
            (sound.of_wellFormed
              (sound.toWellFormed.modifyUnmatched fun _ _ => ⟨rfl, rfl⟩) rfl rfl)
            ⟨(Database.InboxKept.refl view).messages, ?_⟩
          intro position row found
          obtain ⟨old, foundOld, rfl⟩ := Table.get_modify_cases found
          refine ⟨old, foundOld, ?_⟩
          split <;> exact ⟨rfl, rfl, rfl⟩

end Changes

/-! ## Allowed interactions -/

/-- What the interactions of a program depend on: the database when the current
sending operation began, the mailbox of the open connection, the messages that the
last search offered and that were not fetched since, and the message that was
fetched and is being handled, with its content unless the fetch failed. -/
structure Observed where
  since : Database
  connection : Option Nat := none
  outstanding : List Nat := []
  current : Option (Nat × Option InboundEmail) := none

/-- No message waits for its turn and none is being handled. -/
def Observed.idle (observed : Observed) : Prop :=
  observed.outstanding = [] ∧ observed.current = none

/-- A message received through a mailbox is stored for the mailbox's
organization, with a contact of it or retained. -/
def Durable
    (database : Database)
    (mailboxId : Nat)
    (identity : String) : Prop :=
  ∃ mailbox, database.mailboxes.get mailboxId = some mailbox ∧
    ((∃ key message, database.messages.get key = some message ∧
        message.direction = .inbound ∧ message.mailboxId = some mailboxId ∧
        message.messageIdHeader = some identity ∧
        ∃ email, KnownContact database message.contactId email
          (some mailbox.organizationId)) ∨
      ∃ key row, database.unmatched.get key = some row ∧ row.mailboxId = mailboxId ∧
        row.messageIdHeader = identity ∧ row.organizationId = mailbox.organizationId)

theorem Durable.of_extends
    {before after : Database}
    {mailboxId : Nat}
    {identity : String}
    (durable : Durable before mailboxId identity)
    (extended : before.Extends after) :
    Durable after mailboxId identity := by
  obtain ⟨mailbox, found, stored⟩ := durable
  obtain ⟨kept, foundKept, owner⟩ := extended.mailboxes _ mailbox found
  refine ⟨kept, foundKept, ?_⟩
  have owner : kept.organizationId = mailbox.organizationId := owner
  rw [owner]
  rcases stored with ⟨key, message, foundMessage, inbound, through, header, email, known⟩ |
    ⟨key, row, foundRow, through, header, organization⟩
  · obtain ⟨current, foundCurrent, keeps⟩ := extended.messages key message foundMessage
    refine .inl ⟨key, current, foundCurrent, keeps.direction.trans inbound,
      keeps.mailboxId.trans through, (keeps.identity inbound).trans header, email, ?_⟩
    rw [keeps.contactId]
    exact known.of_extends extended
  · obtain ⟨current, foundCurrent, sameMailbox, sameHeader, sameOrganization⟩ :=
      extended.unmatched key row foundRow
    exact .inr ⟨key, current, foundCurrent, sameMailbox.trans through,
      sameHeader.trans header, sameOrganization.trans organization⟩

/-- A native path. -/
def native : SendOrigin → Prop
  | .dispatch _ => False
  | _ => True

/-- The paths of the schedulers, which load the contact before they begin. -/
def scheduled : SendOrigin → Prop
  | .initialOutreach => True
  | .followUp _ => True
  | .forcedFollowUp _ => True
  | _ => False

/-- When `send_email` may be called: for a native contact under its own address,
which its organization had not suppressed when the operation began. -/
def MaySend
    (observed : Observed)
    (database : Database)
    (origin : SendOrigin)
    (contactId : Nat)
    (arguments : SendEmailArguments) : Prop :=
  native origin ∧
    (scheduled origin → contactId < observed.since.contacts.size) ∧
    ∃ organization,
      NativeContact database contactId arguments.toEmail organization ∧
      ∀ org, organization = some org →
        observed.since.isEmailSuppressed arguments.toEmail (some org) = false

/-- The interactions that a program may have. A connection is opened and searched
only after everything that was offered before was dealt with; one message is
fetched at a time; and Seen is stored only for the message that was fetched, when
it is durable. -/
def Allowed
    (observed : Observed)
    (database : Database) : Signal → Prop
  | .sendEmail origin contactId arguments =>
      MaySend observed database origin contactId arguments
  | .login _ => observed.idle
  | .search => observed.idle
  | .fetch _ => observed.current = none
  | .leftUnseen uid => ∃ fetched, observed.current = some (uid, fetched)
  | .storeSeen mailboxId uid email =>
      observed.connection = some mailboxId ∧ observed.current = some (uid, some email) ∧
        ∃ identity, inboundIdentity email.normalized = some identity ∧
          Durable database mailboxId identity
  | _ => True

/-- The content of a fetched message. -/
def fetchedEmail : ImapReply InboundEmail → Option InboundEmail
  | .ok email => some email
  | _ => none

/-- What is observed of an interaction. -/
def observe
    (observed : Observed)
    (database : Database) :
    (signal : Signal) → signal.Reply → Observed
  | .begin, _ => { observed with since := database }
  | .login mailboxId, _ => { observed with connection := some mailboxId }
  | .search, reply =>
      match reply with
      | .ok uids => { observed with outstanding := uids }
      | _ => observed
  | .fetch uid, reply =>
      { observed with
        outstanding := observed.outstanding.filter fun other => other != uid
        current := some (uid, fetchedEmail reply) }
  | .leftUnseen _, _ => { observed with current := none }
  | .storeSeen _ _ _, _ => { observed with current := none }
  | _, _ => observed

/-- The contract of all native programs. -/
def contract : Contract Database Change Signal Signal.Reply Observed where
  apply := Change.apply
  later := Later
  permitted := Permitted
  allowed := Allowed
  note := observe

theorem contract_lawful : contract.Lawful where
  refl := Later.refl_right
  trans := Later.trans
  stable later permitted := permitted.mono later.extended fun _ => id
  advances _ reached seen permitted applied :=
    permitted_advances reached seen permitted applied

end Native
end MailerAgent
