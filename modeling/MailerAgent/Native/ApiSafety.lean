import MailerAgent.Native.Api
import MailerAgent.Native.PollingSafety

/-!
# Every operation keeps the contract

The API routes, and from them and the jobs the safety of every operation as a
process over the shared database.
-/

namespace MailerAgent
namespace Native

open Concurrent Relational Mail Program

/-! ## Campaigns, contacts and leads -/

section Intake

variable {strict : Bool} {fact : Fact} {deployment : Deployment}
variable {organization : String} {campaignId : Nat}

theorem keeps_createCampaign
    {payload : CampaignCreate}
    (lasting : fact.Lasting) :
    Keeps false fact (createCampaign organization payload) fun _ => .top := by
  refine keeps_session ?_ lasting fun _ => Fact.lasting_top
  refine Keeps.andThen (keeps_stage ?_ nofun) fun _ => keeps_commit lasting
  exact fun _ _ => rfl

theorem keeps_getCampaignOr404 :
    Keeps strict fact (getCampaignOr404 organization campaignId) fun _ => .top := by
  refine (keeps_query fun _ _ _ _ => trivial).andThen fun found => ?_
  cases found with
  | some campaign => exact keeps_pure fun _ _ => trivial
  | none => exact keeps_raise

theorem keeps_validated
    {services : Services}
    {email : String} :
    Keeps strict fact (validated services email) fun _ => .top := by
  unfold validated
  split
  · exact keeps_pure fun _ _ => trivial
  · exact keeps_raise

theorem keeps_validateContacts
    {services : Services}
    {submitted : List ContactCreate} :
    Keeps strict fact (validateContacts services submitted) fun _ => .top := by
  induction submitted with
  | nil => exact keeps_pure fun _ _ => trivial
  | cons payload rest inductionHypothesis =>
      refine keeps_validated.andThen fun email => ?_
      exact inductionHypothesis.andThen fun others => keeps_pure fun _ _ => trivial

/-- A new contact is not scheduled. -/
theorem keeps_stageContact {payload : ContactCreate} :
    Keeps false fact (stage (.insertContact (newContact campaignId payload)))
      fun _ => .top :=
  keeps_stage (fun _ _ => rfl) nofun

theorem keeps_addContact {payload : ContactCreate} :
    Keeps false fact (addContact campaignId payload) fun _ => .top := by
  refine (keeps_query fun _ _ _ _ => trivial).andThen fun suppressed => ?_
  refine Keeps.ite (fun _ => keeps_pure fun _ _ => trivial) fun _ => ?_
  refine (keeps_query fun _ _ _ _ => trivial).andThen fun existing => ?_
  exact Keeps.ite (fun _ => keeps_pure fun _ _ => trivial) fun _ => keeps_stageContact

theorem keeps_addContacts
    {submitted : List ContactCreate}
    (lasting : fact.Lasting) :
    Keeps false fact (addContacts deployment organization campaignId submitted)
      fun _ => .top := by
  refine keeps_session ?_ lasting fun _ => Fact.lasting_top
  refine keeps_validateContacts.andThen fun contacts => ?_
  refine keeps_getCampaignOr404.andThen fun _ => ?_
  refine (keeps_forEach fun payload _ => keeps_addContact).andThen fun _ => ?_
  refine (keeps_flush.attempt.weaken fun _ _ _ _ => trivial).andThen fun flushed => ?_
  split
  · exact keeps_commit lasting
  · exact (keeps_rollback lasting).andThen fun _ => keeps_raise
  · exact keeps_raise

theorem keeps_ingestLead
    {services : Services}
    {lead : List (String × LeadValue)}
    {report : IngestReport}
    (lasting : fact.Lasting) :
    Keeps false fact (ingestLead services campaignId lead report) fun _ => .top := by
  unfold ingestLead
  split
  · exact keeps_pure fun _ _ => trivial
  · refine (keeps_query fun _ _ _ _ => trivial).andThen fun suppressed => ?_
    refine Keeps.ite (fun _ => keeps_pure fun _ _ => trivial) fun _ => ?_
    refine (keeps_query fun _ _ _ _ => trivial).andThen fun existing => ?_
    split
    · exact keeps_pure fun _ _ => trivial
    · refine keeps_stageContact.andThen fun _ => ?_
      refine (keeps_flush.attempt.weaken fun _ _ _ _ => trivial).andThen fun flushed => ?_
      split
      · exact keeps_pure fun _ _ => trivial
      · exact (keeps_rollback lasting).andThen fun _ => keeps_pure fun _ _ => trivial
      · exact keeps_raise

theorem keeps_ingestLeads
    {leads : List (List (String × LeadValue))}
    (lasting : fact.Lasting) :
    Keeps false fact (ingestLeads deployment organization campaignId leads)
      fun _ => .top := by
  have each : ∀ report, Keeps false fact
      (ingestEach deployment.services campaignId leads report) fun _ => .top := by
    induction leads with
    | nil => exact fun _ => keeps_pure fun _ _ => trivial
    | cons lead rest inductionHypothesis =>
        exact fun report => (keeps_ingestLead lasting).andThen inductionHypothesis
  refine keeps_session ?_ lasting fun _ => Fact.lasting_top
  refine keeps_getCampaignOr404.andThen fun _ => ?_
  refine (each {}).andThen fun report => ?_
  exact (keeps_commit lasting).andThen fun _ => keeps_pure fun _ _ => trivial

end Intake

/-! ## Lifecycle actions -/

section Lifecycle

variable {strict : Bool} {fact : Fact} {deployment : Deployment}
variable {organization : String} {campaignId contactId : Nat}

/-- The fact that the contacts of a campaign are native. -/
def nativeContacts (loaded : List (Nat × Contact)) : Fact :=
  .stored
    (fun database => ∀ entry ∈ loaded, ∃ email organization,
      NativeContact database entry.1 email organization)
    (by
      intro before after extended known entry present
      obtain ⟨email, organization, native⟩ := known entry present
      exact ⟨email, organization, native.of_extends extended⟩)

/-- The fact that a campaign object is stored under a key. -/
def ownedCampaign
    (campaignId : Nat)
    (campaign : Campaign) : Fact :=
  .stored
    (fun database => ∃ stored, database.campaigns.get campaignId = some stored ∧
      Campaign.SameOwner stored campaign)
    (by
      rintro before after extended ⟨stored, found, same⟩
      obtain ⟨current, foundCurrent, kept⟩ := extended.campaigns _ stored found
      exact ⟨current, foundCurrent, same.1.trans kept.1.symm, same.2.trans kept.2.symm⟩)

theorem nativeContacts_settled (loaded : List (Nat × Contact)) :
    (nativeContacts loaded).Settled :=
  Fact.settled_of_base fun _ _ same known entry present => same ▸ known entry present

theorem ownedCampaign_settled
    (campaignId : Nat)
    (campaign : Campaign) :
    (ownedCampaign campaignId campaign).Settled :=
  Fact.settled_of_base fun _ _ same ⟨stored, found, kept⟩ => ⟨stored, same ▸ found, kept⟩

theorem keeps_getOwnedCampaign :
    Keeps true fact (getCampaignOr404 organization campaignId)
      (ownedCampaign campaignId) := by
  have reads : Keeps true fact
      (query fun view => (view.campaigns.get campaignId).filter fun campaign =>
        campaign.organizationId == some organization)
      fun found => (found.elim .top (ownedCampaign campaignId)) := by
    refine keeps_query ?_
    intro known view sees _
    cases present : (view.campaigns.get campaignId).filter fun campaign =>
        campaign.organizationId == some organization with
    | none => trivial
    | some campaign =>
        obtain ⟨found, -⟩ := Option.filter_eq_some_iff.mp present
        rw [sees.sameParties.campaigns] at found
        exact ⟨campaign, found, rfl, rfl⟩
  refine reads.bind fun found => ?_
  cases found with
  | some campaign => exact keeps_pure fun _ holds => holds.2
  | none => exact keeps_raise

theorem keeps_startCampaign (settled : fact.Settled) :
    Keeps true fact (startCampaign organization campaignId) fun _ => .top := by
  refine keeps_session ?_ settled.lasting fun _ => Fact.lasting_top
  refine keeps_getOwnedCampaign.bind fun campaign => ?_
  refine Keeps.ite (fun _ => keeps_raise) fun managed => ?_
  have source : campaign.integrationSource = none := by
    simpa [campaignIsIntegrationManaged] using managed
  have reads : Keeps true (fact.and (ownedCampaign campaignId campaign))
      (query fun view => (view.contacts.keysWhere fun contact =>
        contact.campaignId == campaignId && contact.status == .new).filterMap fun key =>
          (view.contacts.get key).map fun contact => (key, contact)) nativeContacts := by
    refine keeps_query ?_
    rintro known view sees ⟨-, stored, found, same⟩ entry present
    obtain ⟨key, selected, chosen⟩ := List.mem_filterMap.mp present
    obtain ⟨contact, foundContact, rfl⟩ := Option.map_eq_some_iff.mp chosen
    obtain ⟨row, foundRow, matching⟩ := (Table.mem_keysWhere _ _ _).mp selected
    obtain rfl : row = contact := Option.some.inj (foundRow.symm.trans foundContact)
    simp only [Bool.and_eq_true, beq_iff_eq] at matching
    obtain ⟨person, foundPerson, kept⟩ := sees.person foundContact
    refine ⟨person.email, stored.organizationId, person, stored, foundPerson, ?_, rfl, rfl,
      same.2.symm.trans source⟩
    rw [← kept.1, matching.1]
    exact found
  refine reads.bind fun contacts => ?_
  refine Keeps.ite (fun _ => keeps_pure fun _ _ => trivial) fun _ => ?_
  refine keeps_utcnow.andThen fun now => ?_
  refine (keeps_forEach ?_).andThen fun _ => ?_
  · rintro ⟨key, contact⟩ present
    refine Keeps.bindValue (keeps_assign ?_) fun _ _ => keeps_pure fun _ _ => trivial
    exact fun _ _ known holds => holds.2 (key, contact) present
  · exact keeps_commit ((settled.and (ownedCampaign_settled campaignId campaign)).and
      (nativeContacts_settled contacts)).lasting

/-- The fact that a loaded contact is the stored person. -/
def personAt
    (key : Nat)
    (contact : Contact) : Fact :=
  .stored (Person key contact) fun extended person => person.of_extends extended

theorem personAt_settled
    (key : Nat)
    (contact : Contact) :
    (personAt key contact).Settled :=
  Fact.settled_of_base fun _ _ same ⟨stored, found, kept⟩ => ⟨stored, same ▸ found, kept⟩

theorem keeps_getContactOr404 :
    Keeps true fact (getContactOr404 organization contactId) (personAt contactId) := by
  have reads : Keeps true fact
      (query fun view => (view.contacts.get contactId).filter fun contact =>
        view.organizationOf contact == some organization)
      fun found => found.elim .top (personAt contactId) := by
    refine keeps_query ?_
    intro known view sees _
    cases present : (view.contacts.get contactId).filter fun contact =>
        view.organizationOf contact == some organization with
    | none => trivial
    | some contact => exact sees.person (Option.filter_eq_some_iff.mp present).1
  refine reads.bind fun found => ?_
  cases found with
  | some contact => exact keeps_pure fun _ holds => holds.2
  | none => exact keeps_raise

theorem keeps_moveContact
    {event : StateTransitionEvent}
    {verb advice : String}
    {patch : ContactPatch}
    (settled : fact.Settled)
    (unscheduled : ∀ instant, patch.nextActionAt ≠ some (some instant)) :
    Keeps true fact (moveContact organization contactId event verb advice patch)
      fun _ => .top := by
  refine keeps_session ?_ settled.lasting fun _ => Fact.lasting_top
  refine (keeps_getContactOr404.weaken fun _ _ _ _ => trivial).andThen fun contact => ?_
  refine keeps_transition.bindValue fun moved _ => ?_
  refine Keeps.ite (fun _ => keeps_raise) fun _ => ?_
  refine (keeps_assign ?_).bindValue fun _ _ => keeps_commit settled.lasting
  exact fun instant scheduled => absurd scheduled (unscheduled instant)

/-- The campaign of a stored contact is always found. -/
theorem keeps_loadCampaign_of_person
    {contact : Contact}
    (person : ∀ known, fact.holds known → Person contactId contact known.base) :
    Keeps true fact (loadCampaign contact) fun loaded =>
      (loadedCampaign contact loaded).and (.always (loaded.isSome = true)) := by
  refine keeps_query ?_
  intro known view sees holds
  have campaigns := sees.sameParties.campaigns
  obtain ⟨stored, campaign, found, foundCampaign, -⟩ :=
    (person known holds).knownContact sees.current.consistent.toWellFormed
  obtain ⟨same, foundSame, kept⟩ := person known holds
  obtain rfl : same = stored := Option.some.inj (foundSame.symm.trans found)
  have loaded : view.campaignOf contact = some campaign := by
    unfold Database.campaignOf
    rw [campaigns, kept.1]
    exact foundCampaign
  rw [loaded]
  refine ⟨?_, rfl⟩
  rintro _ ⟨⟩
  exact ⟨campaign, kept.1 ▸ foundCampaign, rfl, rfl⟩

theorem keeps_forceFollowup (settled : fact.Settled) :
    Keeps true fact (forceFollowup deployment organization contactId) fun _ => .top := by
  refine keeps_session ?_ settled.lasting fun _ => Fact.lasting_top
  refine keeps_getContactOr404.bind fun contact => ?_
  have person : ∀ known, (fact.and (personAt contactId contact)).holds known →
      Person contactId contact known.base := fun _ holds => holds.2
  refine (keeps_loadCampaign_of_person person).bind fun loaded => ?_
  refine Keeps.ite (fun _ => keeps_raise) fun managed => ?_
  refine keeps_utcnow.andThen fun now => ?_
  refine keeps_computed.andThen fun sendable => ?_
  refine Keeps.ite (fun _ => keeps_raise) fun _ => ?_
  refine keeps_utcnow.andThen fun dueAt => ?_
  refine Keeps.bindValue (keeps_assign ?_) fun _ _ => ?_
  · rintro _ _ known ⟨⟨-, person⟩, found, present⟩
    obtain ⟨campaign, rfl⟩ := Option.isSome_iff_exists.mp present
    exact ⟨_, _, nativeContact_of_loaded person found (Bool.eq_false_iff.mpr managed)⟩
  have kept := (settled.and (personAt_settled contactId contact)).and
    ((loadedCampaign_settled contact loaded).and (Fact.settled_always (loaded.isSome = true)))
  refine (keeps_commit kept.lasting).andThen fun _ => ?_
  refine keeps_loadContact.bind fun reloaded => ?_
  refine keeps_required.bindValue fun current present => ?_
  have later := kept.and (loadedPerson_settled contactId reloaded)
  refine Keeps.andThen (keeps_sendFollowupIfDue ?_ later.timeless ?_) fun action => ?_
  · exact fun _ => trivial
  · exact fun _ holds => holds.2 current present
  · exact (keeps_commit later.lasting).andThen fun _ => keeps_pure fun _ _ => trivial

end Lifecycle

/-! ## Messages, suppression and mailboxes -/

section Messages

variable {strict : Bool} {fact : Fact} {deployment : Deployment} {organization : String}

theorem keeps_suppressEmail
    {submitted : String}
    {reason : Option String}
    (lasting : fact.Lasting) :
    Keeps true fact (suppressEmail deployment organization submitted reason)
      fun _ => .top := by
  refine keeps_session ?_ lasting fun _ => Fact.lasting_top
  refine keeps_validated.andThen fun email => ?_
  refine (keeps_query fun _ _ _ _ => trivial).andThen fun existing => ?_
  refine Keeps.ite (fun _ => keeps_pure fun _ _ => trivial) fun _ => ?_
  refine Keeps.andThen (keeps_stage ?_ ?_) fun _ => keeps_commit lasting
  · exact fun _ _ => trivial
  · exact fun _ => trivial

theorem keeps_encrypted
    {services : Services}
    {secret : Option String} :
    Keeps strict fact (encrypted services secret) fun _ => .top := by
  unfold encrypted
  split
  · exact keeps_pure fun _ _ => trivial
  · split
    · exact keeps_pure fun _ _ => trivial
    · exact keeps_raise

theorem keeps_createMailbox
    {payload : MailboxCreate}
    (lasting : fact.Lasting) :
    Keeps false fact (createMailbox deployment organization payload) fun _ => .top := by
  refine keeps_session ?_ lasting fun _ => Fact.lasting_top
  refine keeps_encrypted.andThen fun smtpPassword => ?_
  refine keeps_encrypted.andThen fun imapPassword => ?_
  refine (keeps_query fun _ _ _ _ => trivial).andThen fun taken => ?_
  refine Keeps.ite (fun _ => keeps_raise) fun _ => ?_
  refine Keeps.askThen trivial fun reference => ?_
  refine Keeps.askThen trivial fun now => ?_
  refine Keeps.andThen (keeps_stage ?_ nofun) fun _ => ?_
  · exact fun _ _ => trivial
  refine ((keeps_commit lasting).attempt.weaken fun _ _ _ _ => trivial).andThen
    fun committed => ?_
  split
  · exact keeps_pure fun _ _ => trivial
  · exact (keeps_rollback lasting).andThen fun _ => keeps_raise
  · exact keeps_raise

theorem keeps_updateMailbox
    {publicReference : String}
    {payload : MailboxUpdate}
    (lasting : fact.Lasting) :
    Keeps true fact (updateMailbox deployment organization publicReference payload)
      fun _ => .top := by
  refine keeps_session ?_ lasting fun _ => Fact.lasting_top
  refine (keeps_query fun _ _ _ _ => trivial).andThen fun found => ?_
  split
  · exact keeps_raise
  · refine Keeps.ite (fun _ => keeps_raise) fun _ => ?_
    refine keeps_encrypted.andThen fun smtpPassword => ?_
    refine keeps_encrypted.andThen fun imapPassword => ?_
    refine Keeps.askThen trivial fun now => ?_
    refine Keeps.andThen (keeps_stage ?_ ?_) fun _ => keeps_commit lasting
    · exact fun _ _ => trivial
    · exact fun _ => trivial

/-! ### Approval -/

/-- A message object and its contact are the stored ones. A received message has
the status of one. -/
def messageAt
    (messageId : Nat)
    (message : Message)
    (contact : Contact) : Fact :=
  .stored
    (fun database => (∃ stored, database.messages.get messageId = some stored ∧
        stored.contactId = message.contactId ∧ stored.direction = message.direction) ∧
      Person message.contactId contact database ∧
      (message.direction = .inbound → message.status = .received))
    (by
      rintro before after extended ⟨⟨stored, found, sameContact, direction⟩, person, received⟩
      obtain ⟨current, foundCurrent, keeps⟩ := extended.messages _ stored found
      exact ⟨⟨current, foundCurrent, keeps.contactId.trans sameContact,
        keeps.direction.trans direction⟩, person.of_extends extended, received⟩)

theorem messageAt_settled
    (messageId : Nat)
    (message : Message)
    (contact : Contact) :
    (messageAt messageId message contact).Settled :=
  Fact.settled_of_base fun _ _ same ⟨⟨stored, found, kept⟩, ⟨person, foundPerson, equal⟩,
      received⟩ =>
    ⟨⟨stored, same ▸ found, kept⟩, ⟨person, same ▸ foundPerson, equal⟩, received⟩

/-- The row that `_get_message_or_404` reads. -/
theorem messageAt_of_read
    {known : Knowing}
    {messageId : Nat}
    {message : Message}
    {contact : Contact}
    (current : Later known.base known.base)
    (found : ((known.base.messages.get messageId).bind fun message =>
      ((known.base.contacts.get message.contactId).filter fun contact =>
        known.base.organizationOf contact == some organization).map
          fun contact => (message, contact)) = some (message, contact)) :
    (messageAt messageId message contact).holds known := by
  obtain ⟨row, foundRow, chosen⟩ := Option.bind_eq_some_iff.mp found
  obtain ⟨person, selected, same⟩ := Option.map_eq_some_iff.mp chosen
  obtain ⟨rfl, rfl⟩ := Prod.mk.inj same
  obtain ⟨foundPerson, -⟩ := Option.filter_eq_some_iff.mp selected
  exact ⟨⟨row, foundRow, rfl, rfl⟩, ⟨person, foundPerson, rfl, rfl⟩,
    current.inbox.received messageId row foundRow⟩

/-- The message of an approval is read before the transaction has written. -/
theorem runs_getMessageOr404
    {messageId : Nat}
    {pending : List Change}
    {known : Knowing}
    (steady : Steady true pending known)
    (fresh : known.writes = [])
    (holds : fact.holds known) :
    Runs (getMessageOr404 organization messageId)
      (fun result pending after => Steady true pending after ∧ fact.holds after ∧
        ∀ row, result = .ok row → (messageAt messageId row.1 row.2).holds after)
      pending known := by
  have plain : known.aborted = false → true = true →
      ∀ change ∈ known.writes, change.ordinary := by
    intro _ _ change member
    rw [fresh] at member
    cases member
  have reads : Runs
      (query fun view => (view.messages.get messageId).bind fun message =>
        ((view.contacts.get message.contactId).filter fun contact =>
          view.organizationOf contact == some organization).map
            fun contact => (message, contact))
      (fun result pending after => Steady true pending after ∧ fact.holds after ∧
        ∀ row, result = .ok (some row) → (messageAt messageId row.1 row.2).holds after)
      pending known := by
    refine runs_execute plain steady.since ?_ ?_
    · intro failure store later
      exact ⟨steady.abort later, fact.grows (grows_abort later) holds,
        fun _ ended => by cases ended⟩
    · intro store view later _ sees
      have kept := steady.extend later fun _ change (member : change ∈ []) => by cases member
      refine ⟨trivial, kept, fact.grows (grows_extend [] later) holds, ?_⟩
      rintro ⟨message, contact⟩ ended
      -- Nothing was written yet, so the view is the database itself.
      obtain rfl : store = view := by
        have seen := sees.seen
        rw [fresh] at seen
        exact Option.some.inj seen
      have read : (messageAt messageId message contact).holds (known.extend store []) :=
        messageAt_of_read sees.current (Except.ok.inj ended)
      exact read
  refine runs_bind.mpr (reads.mono ?_)
  rintro result pending after ⟨steady, holds, established⟩
  cases result with
  | error failure => exact ⟨steady, holds, fun _ ended => by cases ended⟩
  | ok found =>
      cases found with
      | none => exact ⟨steady, holds, fun _ ended => by cases ended⟩
      | some row =>
          refine ⟨steady, holds, ?_⟩
          rintro _ ⟨⟩
          exact established row rfl

/-- The judgement about a program that ends with a change that is not ordinary. -/
def Finishes
    (last fact : Fact)
    (program : Program Value) : Prop :=
  ∀ pending known, Steady true pending known → fact.holds known →
    Runs program
      (fun _ pending after => Steady false pending after ∧ last.holds after)
      pending known

theorem Steady.relaxed
    {pending : List Change}
    {known : Knowing}
    (steady : Steady true pending known) :
    Steady false pending known :=
  { steady with people := nofun }

theorem Finishes.bind
    {Value Result : Type}
    {last : Fact}
    {program : Program Value}
    {rest : Value → Program Result}
    {middle : Value → Fact}
    (implied : ∀ known, fact.holds known → last.holds known)
    (first : Keeps true fact program middle)
    (second : ∀ value, Finishes last (fact.and (middle value)) (rest value)) :
    Finishes last fact (program >>= rest) := by
  intro pending known steady holds
  refine runs_bind.mpr ((first pending known steady holds).mono ?_)
  rintro result pending after ⟨steady, holds, established⟩
  cases result with
  | error failure => exact ⟨steady.relaxed, implied after holds⟩
  | ok value => exact second value pending after steady ⟨holds, established value rfl⟩

theorem Finishes.of_keeps
    {Value : Type}
    {last : Fact}
    {program : Program Value}
    {ensures : Value → Fact}
    (implied : ∀ known, fact.holds known → last.holds known)
    (keeps : Keeps false fact program ensures) :
    Finishes last fact program := by
  intro pending known steady holds
  refine (keeps pending known steady.relaxed holds).mono ?_
  exact fun _ _ after ended => ⟨ended.1, implied after ended.2.1⟩

theorem Finishes.bindValue
    {Value Result : Type}
    {last : Fact}
    {program : Program Value}
    {rest : Value → Program Result}
    {condition : Value → Prop}
    (implied : ∀ known, fact.holds known → last.holds known)
    (first : Keeps true fact program fun value => .always (condition value))
    (second : ∀ value, condition value → Finishes last fact (rest value)) :
    Finishes last fact (program >>= rest) :=
  .bind implied first fun value pending known steady holds =>
    second value holds.2 pending known steady holds.1

theorem Finishes.andThen
    {Value Result : Type}
    {last : Fact}
    {program : Program Value}
    {rest : Value → Program Result}
    (implied : ∀ known, fact.holds known → last.holds known)
    (first : Keeps true fact program fun _ => .top)
    (second : ∀ value, Finishes last fact (rest value)) :
    Finishes last fact (program >>= rest) :=
  .bind implied first fun value pending known steady holds =>
    second value pending known steady holds.1

theorem Finishes.raise
    {Value : Type}
    {last : Fact}
    {failure : Failure}
    (implied : ∀ known, fact.holds known → last.holds known) :
    Finishes last fact (raise failure : Program Value) :=
  fun _ known steady holds => ⟨steady.relaxed, implied known holds⟩

/-- The refusals that let only native drafts pass. -/
theorem keeps_checkApprovable
    {loaded : Option Campaign}
    {messageId : Nat}
    {message : Message} :
    Keeps strict fact (checkApprovable loaded messageId message) fun _ =>
      .always (campaignIsIntegrationManaged loaded = false ∧ message.status = .draft) := by
  refine Keeps.ite (fun _ => keeps_raise) fun managed => ?_
  refine (keeps_query fun _ _ _ _ => trivial).andThen fun taken => ?_
  refine Keeps.ite (fun _ => keeps_raise) fun _ => ?_
  refine Keeps.ite (fun _ => keeps_raise) fun drafted => ?_
  exact keeps_pure fun _ _ => ⟨Bool.eq_false_iff.mpr managed, not_not.mp drafted⟩

theorem keeps_checkSendable
    {contact : Contact}
    {campaign : Campaign}
    {message : Message}
    {transcript : String} :
    Keeps strict fact (checkSendable deployment contact campaign message transcript)
      fun _ => .top := by
  refine Keeps.ite (fun _ => keeps_raise) fun _ => ?_
  exact Keeps.ite (fun _ => keeps_raise) fun _ => keeps_pure fun _ _ => trivial

/-- An approved message is sent to a native contact and recorded. -/
theorem finishes_approveMessage
    {messageId : Nat}
    {message : Message}
    {contact : Contact}
    (lasting : fact.Lasting) :
    Finishes fact (fact.and (messageAt messageId message contact))
      (approveMessage deployment messageId message contact) := by
  refine Finishes.bind (fun _ holds => holds.1) keeps_loadCampaign fun loaded => ?_
  refine Finishes.bindValue (fun _ holds => holds.1.1) keeps_checkApprovable
    fun _ approvable => ?_
  obtain ⟨unmanaged, drafted⟩ := approvable
  refine Finishes.bind (fun _ holds => holds.1.1) keeps_suppressionQuery fun suppressed => ?_
  cases suppressed with
  | true => exact Finishes.raise fun _ holds => holds.1.1.1
  | false =>
      refine Finishes.bindValue (fun _ holds => holds.1.1.1) keeps_required
        fun campaign present => ?_
      subst present
      have contacted : ∀ known,
          (messageAt messageId message contact).holds known →
          (loadedCampaign contact (some campaign)).holds known →
          NativeContact known.base message.contactId contact.email campaign.organizationId :=
        fun known stored found => nativeContact_of_loaded stored.2.1 found unmanaged
      refine Finishes.andThen (fun _ holds => holds.1.1.1)
        (keeps_query fun _ _ _ _ => trivial) fun _ => ?_
      refine Finishes.andThen (fun _ holds => holds.1.1.1) keeps_checkSendable fun _ => ?_
      refine Finishes.andThen (fun _ holds => holds.1.1.1) (keeps_sendEmail ?_) fun result => ?_
      · rintro known ⟨⟨⟨-, stored⟩, found⟩, unlisted⟩
        exact maySend_of_checks trivial nofun (contacted known stored found) unlisted
          (.inl rfl) rfl
      have kept := ((lasting.and (messageAt_settled messageId message contact).lasting).and
        (loadedCampaign_settled contact (some campaign)).lasting).and
          (unsuppressed_lasting contact.email none false)
      refine Finishes.of_keeps (fun _ holds => holds.1.1.1)
        (Keeps.andThen (keeps_stage ?_ nofun) fun _ => keeps_commit kept)
      · rintro known ⟨⟨⟨-, stored⟩, found⟩, -⟩
        have native := contacted known stored found
        obtain ⟨⟨row, foundRow, sameContact, direction⟩, -, received⟩ := stored
        refine ⟨row, foundRow, ?_, _, _, sameContact ▸ native⟩
        rw [direction]
        -- A received message is not a draft.
        cases sent : message.direction with
        | outbound => rfl
        | inbound =>
            rw [received sent] at drafted
            cases drafted

/-- `approve_and_send_draft` in a fresh session. -/
theorem runs_approve
    {messageId : Nat}
    {known : Knowing}
    (settled : fact.Settled)
    (steady : Steady true [] known)
    (fresh : known.writes = [])
    (holds : fact.holds known) :
    Runs (do
        begin
        let (message, contact) ← getMessageOr404 organization messageId
        approveMessage deployment messageId message contact)
      (fun _ pending after => Steady false pending after ∧ fact.holds after) [] known := by
  refine runs_ask.mpr fun store later => ⟨trivial, fun _ => ?_⟩
  have began : Steady true []
      { known with base := store, ghost := { known.ghost with since := store } } :=
    { steady.later later with since := .refl store }
  have grown : fact.holds { known with base := store } :=
    fact.grows ⟨later, List.prefix_rfl, rfl⟩ holds
  have kept : fact.holds
      { known with base := store, ghost := { known.ghost with since := store } } :=
    settled.timeless _ store grown
  refine runs_bind.mpr ((runs_getMessageOr404 began fresh kept).mono ?_)
  rintro result pending after ⟨steady, holds, established⟩
  cases result with
  | error failure => exact ⟨steady.relaxed, holds⟩
  | ok row =>
      exact finishes_approveMessage settled.lasting pending after steady
        ⟨holds, established row rfl⟩

theorem runs_approveAndSendDraft
    {messageId : Nat}
    {known : Knowing}
    (settled : fact.Settled)
    (steady : Steady true [] known)
    (fresh : known.writes = [])
    (holds : fact.holds known) :
    Runs (approveAndSendDraft deployment organization messageId)
      (fun _ _ after => fact.holds after) [] known := by
  refine runs_bind.mpr (runs_attempt.mpr ((runs_approve settled steady fresh holds).mono ?_))
  rintro result pending after ⟨steady, holds⟩
  have ended := settled.lasting after (after.ended after.base false) steady.current rfl holds
  cases result with
  | ok _ => exact ended
  | error failure => exact ended

end Messages

/-! ## All operations -/

/-- What is known when an operation starts. -/
def starting (database : Database) : Knowing :=
  { base := database, ghost := { since := database } }

theorem steady_starting
    {strict : Bool}
    {database : Database}
    (current : Later database database) :
    Steady strict [] (starting database) where
  people _ _ _ member := by cases member
  permitted _ _ member := by cases member
  current := current
  since := .refl database

/-- A program that keeps the contract, as an operation. -/
theorem runs_of_keeps
    {Value : Type}
    {strict : Bool}
    {program : Program Value}
    {database : Database}
    (keeps : Keeps strict idling program fun _ => .top)
    (current : Later database database) :
    Runs program (fun _ _ after => after.ghost.idle) [] (starting database) :=
  (keeps [] (starting database) (steady_starting current) ⟨rfl, rfl⟩).mono
    fun _ _ _ ended => ended.2.1

/-- Every operation keeps the contract, and at its end nothing that a mail server
offered is left over. -/
theorem Operation.safe
    {database : Database}
    (deployment : Deployment)
    (operation : Operation)
    (current : Later database database) :
    Runs (operation.program deployment) (fun _ _ after => after.ghost.idle) []
      (starting database) := by
  have lasting := idling_settled.lasting
  have ignoring : ∀ {Value : Type} {strict : Bool} {program : Program Value},
      Keeps strict idling program (fun _ => .top) →
      Keeps strict idling (do let _ ← program) fun _ => .top := fun keeps =>
    keeps.andThen fun _ => keeps_pure fun _ _ => trivial
  cases operation with
  | createCampaign organization payload =>
      exact runs_of_keeps (keeps_createCampaign lasting) current
  | addContacts organization campaignId contacts =>
      exact runs_of_keeps (keeps_addContacts lasting) current
  | ingestLeads organization campaignId leads =>
      exact runs_of_keeps (ignoring (keeps_ingestLeads lasting)) current
  | startCampaign organization campaignId =>
      exact runs_of_keeps (keeps_startCampaign idling_settled) current
  | pauseContact organization contactId =>
      exact runs_of_keeps (keeps_moveContact idling_settled nofun) current
  | resumeContact organization contactId =>
      exact runs_of_keeps (keeps_moveContact idling_settled nofun) current
  | markWon organization contactId =>
      exact runs_of_keeps (keeps_moveContact idling_settled nofun) current
  | forceFollowup organization contactId =>
      exact runs_of_keeps (ignoring (keeps_forceFollowup idling_settled)) current
  | approveAndSendDraft organization messageId =>
      exact runs_approveAndSendDraft idling_settled (steady_starting current) rfl ⟨rfl, rfl⟩
  | suppressEmail organization email reason =>
      exact runs_of_keeps (keeps_suppressEmail lasting) current
  | receiveInboundEmail organization payload =>
      exact runs_of_keeps (ignoring (keeps_receiveInboundEmail idling_settled)) current
  | createMailbox organization payload =>
      exact runs_of_keeps (keeps_createMailbox lasting) current
  | updateMailbox organization publicReference payload =>
      exact runs_of_keeps (keeps_updateMailbox lasting) current
  | dispatchNewContactsJob workerId locked =>
      exact runs_of_keeps (keeps_dispatchNewContactsJob idling_settled) current
  | dispatchFollowupsJob workerId locked =>
      exact runs_of_keeps (keeps_dispatchFollowupsJob idling_settled) current
  | pollRepliesJob => exact runs_of_keeps (keeps_pollRepliesJob idling_settled) current
  | pollMailboxInboxesJob =>
      exact runs_of_keeps (ignoring keeps_pollAllMailboxesReport) current
  | releaseAllClaims workerId =>
      have releases : Keeps true idling (sessionScope (Native.releaseAllClaims workerId))
          fun _ => .top := keeps_sessionScope keeps_releaseAllClaims lasting
      exact runs_of_keeps releases current

end Native
end MailerAgent
