import MailerAgent.Native.Reasoning

/-!
# Outreach keeps the contract

The sending functions and scheduler jobs of `Outreach`, step by step. A call of
the sender is preceded by the check of the contact's campaign and by a query of
the suppression list that saw at least what was stored when the operation began.
-/

namespace MailerAgent
namespace Native

open Concurrent Relational Mail Program

section Parts

variable {strict : Bool} {fact : Fact} {key : Nat} {contact : Contact}

/-- The fact that the loaded campaign, if any, is the contact's own. -/
def loadedCampaign
    (contact : Contact)
    (loaded : Option Campaign) : Fact :=
  .stored
    (fun database => ∀ campaign, loaded = some campaign →
      ∃ stored, database.campaigns.get contact.campaignId = some stored ∧
        Campaign.SameOwner stored campaign)
    (by
      intro before after extended known campaign present
      obtain ⟨stored, found, same⟩ := known campaign present
      obtain ⟨current, foundCurrent, kept⟩ := extended.campaigns _ stored found
      exact ⟨current, foundCurrent, same.1.trans kept.1.symm, same.2.trans kept.2.symm⟩)

theorem keeps_loadCampaign :
    Keeps true fact (loadCampaign contact) (loadedCampaign contact) := by
  refine keeps_query ?_
  intro known view sees _ campaign present
  unfold Database.campaignOf at present
  rw [sees.sameParties.campaigns] at present
  exact ⟨campaign, present, rfl, rfl⟩

/-- A contact whose campaign is not integration-managed. -/
theorem nativeContact_of_loaded
    {known : Knowing}
    {campaign : Campaign}
    (person : Person key contact known.base)
    (loaded : (loadedCampaign contact (some campaign)).holds known)
    (unmanaged : campaignIsIntegrationManaged (some campaign) = false) :
    NativeContact known.base key contact.email campaign.organizationId := by
  obtain ⟨stored, found, same⟩ := person
  obtain ⟨owner, foundOwner, kept⟩ := loaded campaign rfl
  refine ⟨stored, owner, found, by rw [← same.1]; exact foundOwner, same.2.symm,
    kept.1.symm, ?_⟩
  rw [← kept.2]
  simpa [campaignIsIntegrationManaged] using unmanaged

theorem keeps_required {value : Option α} :
    Keeps strict fact (required value) fun present => .always (value = some present) := by
  cases value with
  | some present => exact keeps_pure fun _ _ => rfl
  | none => exact keeps_raise

/-- A transition leaves the person of the contact. -/
theorem keeps_transition {event : StateTransitionEvent} :
    Keeps strict fact (transitionContactState key contact event) fun result =>
      .always (Contact.SamePerson contact result.1) := by
  unfold transitionContactState
  cases stateTransition contact.status event with
  | none => exact keeps_pure fun _ _ => ⟨rfl, rfl⟩
  | some status =>
      refine (keeps_assign (fun _ scheduled => by cases scheduled)).bindValue fun moved same => ?_
      exact keeps_pure fun _ _ => same

/-- A new outbound message is analysed by nobody. -/
theorem keeps_addMessage
    {message : Message}
    (plain : message.semanticAnalysis = none)
    (outbound : message.direction = .outbound)
    (unbound : message.mailboxId = none) :
    Keeps strict fact (addMessage message) fun _ => .top := by
  refine keeps_utcnow.andThen fun now => ?_
  refine Keeps.askThen trivial fun reference => ?_
  refine keeps_stage (fun _ _ => ⟨plain, ?_, ?_⟩) fun _ => trivial
  · intro inbound
    rw [outbound] at inbound
    cases inbound
  · intro mailboxId through
    rw [show message.mailboxId = some mailboxId from through] at unbound
    cases unbound

theorem keeps_maybeSummarizeOlderMessages {messages : List Message} :
    Keeps strict fact (maybeSummarizeOlderMessages key contact messages) fun _ => .top := by
  refine Keeps.ite (fun _ => keeps_pure fun _ _ => trivial) fun _ => ?_
  refine Keeps.askThen trivial fun summary => ?_
  cases summary with
  | summarized text =>
      refine (keeps_assign (fun _ scheduled => by cases scheduled)).bindValue fun _ _ => ?_
      exact keeps_flush
  | unavailable => exact keeps_pure fun _ _ => trivial
  | raised name => exact keeps_raise

theorem keeps_draftMessage {action : DraftAction} :
    Keeps strict fact (draftMessage key action) fun _ => .top := by
  refine Keeps.askThen trivial fun result => ?_
  cases result with
  | drafted draft => exact keeps_pure fun _ _ => trivial
  | contextualFallbackUnavailable => exact keeps_raise
  | raised name => exact keeps_raise

theorem keeps_parkForGroundingReview :
    Keeps strict fact (parkForGroundingReview key contact) fun _ => .top := by
  refine keeps_transition.bindValue fun moved _ => ?_
  refine (keeps_assign ?_).weaken fun _ _ _ _ => trivial
  intro _ scheduled
  cases scheduled

theorem keeps_escalateUnknown :
    Keeps strict fact (escalateUnknown key contact) fun _ => .top := by
  refine keeps_transition.bindValue fun moved _ => ?_
  refine (keeps_assign ?_).weaken fun _ _ _ _ => trivial
  intro _ scheduled
  cases scheduled

/-! ## The checks before a send -/

/-- The contact existed when the operation began. -/
def startedWith (key : Nat) : Fact where
  holds known := key < known.ghost.since.contacts.size
  grows step present := by
    rw [step.ghost]
    exact present

/-- The operation begins after the contact was loaded. -/
theorem keeps_begin_with
    (timeless : fact.Timeless)
    (person : ∀ known, fact.holds known → Person key contact known.base) :
    Keeps strict fact begin fun _ => startedWith key := by
  refine keeps_begin timeless ?_
  intro known holds since
  obtain ⟨stored, found, -⟩ := person known holds
  change key < known.ghost.since.contacts.size
  rw [since]
  exact Table.lt_size_of_get found

/-- An organization's list is part of the whole list. -/
theorem isEmailSuppressed_scope
    {database : Database}
    {email : String}
    {organization scope : Option String}
    (suppressed : database.isEmailSuppressed email organization = true)
    (wider : scope = none ∨ scope = organization) :
    database.isEmailSuppressed email scope = true := by
  unfold Database.isEmailSuppressed at suppressed ⊢
  obtain ⟨position, entry, found, matching⟩ := (Table.existsWhere_iff _ _).mp suppressed
  refine (Table.existsWhere_iff _ _).mpr ⟨position, entry, found, ?_⟩
  simp only [Bool.and_eq_true] at matching ⊢
  rcases wider with rfl | rfl
  · exact ⟨matching.1, rfl⟩
  · exact matching

/-- What a negative answer of the suppression list means: nothing in its scope was
stored for the address when the operation began. -/
def unsuppressed
    (email : String)
    (scope : Option String)
    (suppressed : Bool) : Fact where
  holds known := suppressed = false → ∀ org, scope = none ∨ scope = some org →
    known.ghost.since.isEmailSuppressed email (some org) = false
  grows step clear := by
    rw [step.ghost]
    exact clear

/-- What a query has found missing was missing when the operation began. -/
theorem unsuppressed_lasting
    (email : String)
    (scope : Option String)
    (suppressed : Bool) :
    (unsuppressed email scope suppressed).Lasting := by
  intro before after _ ghost clear negative org wider
  rw [ghost]
  exact clear negative org wider

/-- The query for an entry is what allows a call. -/
theorem keeps_suppressionQuery
    {email : String}
    {scope : Option String} :
    Keeps strict fact (query fun view => view.isEmailSuppressed email scope)
      (unsuppressed email scope) := by
  refine keeps_query ?_
  intro known view sees _ clear org wider
  cases stored : known.ghost.since.isEmailSuppressed email (some org) with
  | false => rfl
  | true =>
      -- The view has every entry that was there when the operation began.
      have visible := (sees.since.trans sees.later.extended).isEmailSuppressed stored
      rw [isEmailSuppressed_scope visible wider] at clear
      cases clear

/-- The checks allow the send. -/
theorem maySend_of_checks
    {known : Knowing}
    {campaign : Campaign}
    {origin : SendOrigin}
    {arguments : SendEmailArguments}
    {scope : Option String}
    (onOwnPath : native origin)
    (started : scheduled origin → (startedWith key).holds known)
    (contacted : NativeContact known.base key contact.email campaign.organizationId)
    (clear : (unsuppressed contact.email scope false).holds known)
    (wider : scope = none ∨ scope = campaign.organizationId)
    (addressed : arguments.toEmail = contact.email) :
    MaySend known.ghost known.base origin key arguments := by
  refine ⟨onOwnPath, started, campaign.organizationId, ?_⟩
  rw [addressed]
  exact ⟨contacted, fun org owner => clear rfl org (owner ▸ wider)⟩

end Parts

/-! ## Initial outreach and follow-ups -/

section Sending

variable {fact : Fact} {key : Nat} {contact : Contact}

theorem keeps_afterInitialSend
    {strict : Bool}
    {campaign : Campaign}
    {result : SendResult}
    (native : ∀ known, fact.holds known →
      ∃ email organization, NativeContact known.base key email organization) :
    Keeps strict fact (afterInitialSend key contact campaign result) fun _ => .top := by
  refine Keeps.ite (fun _ => ?_) fun _ =>
    Keeps.ite (fun _ => keeps_escalateUnknown) fun _ => keeps_pure fun _ _ => trivial
  refine keeps_transition.bindValue fun moved _ => ?_
  refine keeps_utcnow.andThen fun sentAt => ?_
  refine (keeps_assign (fun _ scheduled => by cases scheduled)).bindValue fun stamped _ => ?_
  refine keeps_utcnow.andThen fun now => ?_
  refine keeps_computed.andThen fun next => ?_
  refine (keeps_assign ?_).weaken fun _ _ _ _ => trivial
  exact fun _ _ known holds => native known holds

/-- The first message is sent to nobody who is on the list. -/
theorem keeps_sendInitialOutreach
    {deployment : Deployment}
    (timeless : fact.Timeless)
    (person : ∀ known, fact.holds known → Person key contact known.base) :
    Keeps true fact (sendInitialOutreach deployment key contact) fun _ => .top := by
  refine (keeps_begin_with timeless person).bind fun _ => ?_
  refine keeps_loadCampaign.bind fun loaded => ?_
  refine Keeps.ite (fun _ => keeps_pure fun _ _ => trivial) fun managed => ?_
  refine keeps_suppressionQuery.bind fun suppressed => ?_
  refine Keeps.ite (fun _ => ?_) fun clear => ?_
  · refine keeps_transition.bindValue fun _ _ => ?_
    exact keeps_flush.andThen fun _ => keeps_pure fun _ _ => trivial
  refine keeps_required.bindValue fun campaign present => ?_
  subst present
  have contacted : ∀ known, fact.holds known →
      (loadedCampaign contact (some campaign)).holds known →
      NativeContact known.base key contact.email campaign.organizationId :=
    fun known holds found =>
      nativeContact_of_loaded (person known holds) found (Bool.eq_false_iff.mpr managed)
  refine (keeps_query fun _ _ _ _ => trivial).andThen fun messages => ?_
  refine keeps_draftMessage.andThen fun draft => ?_
  refine Keeps.ite (fun _ => ?_) fun _ => ?_
  · refine (keeps_addMessage rfl rfl rfl).andThen fun _ => ?_
    refine keeps_parkForGroundingReview.andThen fun _ => ?_
    exact keeps_flush.andThen fun _ => keeps_pure fun _ _ => trivial
  refine (keeps_sendEmail ?_).andThen fun result => ?_
  · rintro known ⟨⟨⟨holds, started⟩, found⟩, unlisted⟩
    exact maySend_of_checks trivial (fun _ => started) (contacted known holds found)
      (Bool.eq_false_iff.mpr clear ▸ unlisted) (.inl rfl) rfl
  refine (keeps_addMessage rfl rfl rfl).andThen fun _ => ?_
  refine (keeps_afterInitialSend ?_).andThen fun current => ?_
  · rintro known ⟨⟨⟨holds, -⟩, found⟩, -⟩
    exact ⟨_, _, contacted known holds found⟩
  refine keeps_flush.andThen fun _ => ?_
  exact keeps_maybeSummarizeOlderMessages.andThen fun _ => keeps_pure fun _ _ => trivial

theorem keeps_exhaustSequence
    {strict : Bool}
    {next : Option Instant} :
    Keeps strict fact (exhaustSequence key contact next) fun _ => .top := by
  refine Keeps.ite (fun _ => ?_) fun _ => keeps_pure fun _ _ => trivial
  exact keeps_transition.bindValue fun _ _ => keeps_pure fun _ _ => trivial

theorem keeps_afterFollowup
    {strict : Bool}
    {campaign : Campaign}
    {result : SendResult}
    (native : ∀ known, fact.holds known →
      ∃ email organization, NativeContact known.base key email organization) :
    Keeps strict fact (afterFollowup key contact campaign result) fun _ => .top := by
  refine Keeps.ite (fun _ => ?_) fun _ =>
    Keeps.ite (fun _ => keeps_escalateUnknown) fun _ => keeps_pure fun _ _ => trivial
  refine keeps_transition.bindValue fun moved _ => ?_
  refine keeps_utcnow.andThen fun sentAt => ?_
  refine (keeps_assign (fun _ scheduled => by cases scheduled)).bindValue fun counted _ => ?_
  refine keeps_utcnow.andThen fun now => ?_
  refine keeps_computed.andThen fun next => ?_
  refine keeps_exhaustSequence.andThen fun ended => ?_
  refine (keeps_assign ?_).weaken fun _ _ _ _ => trivial
  exact fun _ _ known holds => native known holds

/-- A follow-up is sent to nobody who is on the list. -/
theorem keeps_sendFollowupIfDue
    {deployment : Deployment}
    {origin : Nat → SendOrigin}
    (onOwnPath : ∀ number, native (origin number))
    (timeless : fact.Timeless)
    (person : ∀ known, fact.holds known → Person key contact known.base) :
    Keeps true fact (sendFollowupIfDue deployment origin key contact) fun _ => .top := by
  refine (keeps_begin_with timeless person).bind fun _ => ?_
  refine keeps_loadCampaign.bind fun loaded => ?_
  refine Keeps.ite (fun _ => keeps_pure fun _ _ => trivial) fun managed => ?_
  refine keeps_utcnow.andThen fun checkedAt => ?_
  refine keeps_computed.andThen fun due => ?_
  refine Keeps.ite (fun _ => keeps_pure fun _ _ => trivial) fun _ => ?_
  refine keeps_utcnow.andThen fun confirmedAt => ?_
  refine keeps_computed.andThen fun sendable => ?_
  refine Keeps.ite (fun _ => keeps_pure fun _ _ => trivial) fun _ => ?_
  refine keeps_suppressionQuery.bind fun suppressed => ?_
  refine Keeps.ite (fun _ => ?_) fun clear => ?_
  · refine keeps_transition.bindValue fun moved _ => ?_
    refine (keeps_assign (fun _ scheduled => by cases scheduled)).bindValue fun _ _ => ?_
    exact keeps_flush.andThen fun _ => keeps_pure fun _ _ => trivial
  refine keeps_required.bindValue fun campaign present => ?_
  subst present
  have contacted : ∀ known, fact.holds known →
      (loadedCampaign contact (some campaign)).holds known →
      NativeContact known.base key contact.email campaign.organizationId :=
    fun known holds found =>
      nativeContact_of_loaded (person known holds) found (Bool.eq_false_iff.mpr managed)
  refine keeps_utcnow.andThen fun hintedAt => ?_
  refine keeps_computed.andThen fun _ => ?_
  refine (keeps_query fun _ _ _ _ => trivial).andThen fun messages => ?_
  refine keeps_draftMessage.andThen fun draft => ?_
  refine Keeps.ite (fun _ => ?_) fun _ => ?_
  · refine (keeps_addMessage rfl rfl rfl).andThen fun _ => ?_
    refine keeps_parkForGroundingReview.andThen fun _ => ?_
    exact keeps_flush.andThen fun _ => keeps_pure fun _ _ => trivial
  refine (keeps_sendEmail ?_).andThen fun result => ?_
  · rintro known ⟨⟨⟨holds, started⟩, found⟩, unlisted⟩
    exact maySend_of_checks (onOwnPath _) (fun _ => started)
      (contacted known holds found) (Bool.eq_false_iff.mpr clear ▸ unlisted)
      (.inl rfl) rfl
  refine (keeps_addMessage rfl rfl rfl).andThen fun _ => ?_
  refine (keeps_afterFollowup ?_).andThen fun current => ?_
  · rintro known ⟨⟨⟨holds, -⟩, found⟩, -⟩
    exact ⟨_, _, contacted known holds found⟩
  refine keeps_flush.andThen fun _ => ?_
  exact keeps_maybeSummarizeOlderMessages.andThen fun _ => keeps_pure fun _ _ => trivial

end Sending

/-! ## Claims -/

section Claims

variable {strict : Bool} {fact : Fact} {deployment : Deployment}
variable {workerId : String} {locked : List Nat}

/-- Updates of contacts that leave the schedule alone. -/
theorem keeps_executeUnscheduled
    {Value : Type}
    {keys : Database → List Nat}
    {patch : ContactPatch}
    {read : Database → Value}
    (unscheduled : patch.nextActionAt = none) :
    Keeps strict fact
      (execute (fun view => (keys view).map fun key => .updateContact key patch) read)
      fun _ => .top := by
  refine keeps_execute ?_ fun _ _ _ _ => trivial
  intro known view _ _ change member
  obtain ⟨key, -, rfl⟩ := List.mem_map.mp member
  refine ⟨fun _ => trivial, ?_⟩
  intro instant scheduled
  rw [unscheduled] at scheduled
  cases scheduled

theorem keeps_claimDueContacts
    {status : ContactStatus}
    {limit : Nat} :
    Keeps strict fact (claimDueContacts deployment workerId status locked limit)
      fun _ => .top :=
  keeps_utcnow.andThen fun _ => keeps_executeUnscheduled rfl

theorem keeps_releaseAllClaims :
    Keeps strict fact (releaseAllClaims workerId) fun _ => .top :=
  keeps_executeUnscheduled rfl

theorem keeps_releaseClaim
    {key : Nat}
    {contact : Contact} :
    Keeps strict fact (releaseClaim key contact) fun _ => .top := by
  refine (keeps_assign (fun _ scheduled => by cases scheduled)).bindValue fun _ _ => ?_
  exact keeps_flush

theorem keeps_recoverExpiredClaims :
    Keeps strict fact (recoverExpiredClaims deployment) fun _ => .top := by
  refine keeps_utcnow.andThen fun now => ?_
  refine (keeps_query fun _ _ _ _ => trivial).andThen fun stale => ?_
  refine (keeps_forEach ?_).andThen fun _ => keeps_flush
  rintro ⟨key, contact⟩ _
  refine (keeps_assign (fun _ scheduled => by cases scheduled)).bindValue fun _ _ => ?_
  exact keeps_pure fun _ _ => trivial

/-- The fact that loaded contacts are the stored persons. -/
def loadedPeople (loaded : List (Nat × Contact)) : Fact :=
  .stored (fun database => ∀ entry ∈ loaded, Person entry.1 entry.2 database)
    fun extended known entry member => (known entry member).of_extends extended

theorem loadedPeople_settled (loaded : List (Nat × Contact)) :
    (loadedPeople loaded).Settled :=
  Fact.settled_of_base fun _ _ same holds entry member => same ▸ holds entry member

/-- The loaded contacts are those of the store. -/
theorem keeps_reloadActive {claimed : List Nat} :
    Keeps true fact (query (reloadActive claimed)) loadedPeople := by
  refine keeps_query ?_
  rintro known view sees - ⟨key, contact⟩ member
  obtain ⟨found, -, selected⟩ := List.mem_filterMap.mp member
  split at selected
  · obtain ⟨row, present, same⟩ := Option.map_eq_some_iff.mp selected
    obtain ⟨rfl, rfl⟩ := Prod.mk.inj same
    exact sees.person present
  · cases selected

end Claims

/-! ## Scheduler jobs -/

section Jobs

variable {fact : Fact} {deployment : Deployment} {workerId : String} {locked : List Nat}

theorem keeps_dispatchNewContact
    {key : Nat}
    {contact : Contact}
    (settled : fact.Settled)
    (person : ∀ known, fact.holds known → Person key contact known.base) :
    Keeps true fact (dispatchNewContact deployment key contact) fun _ => .top := by
  refine keeps_ensuring ?_ (fun _ _ => keeps_releaseClaim) fun _ => Fact.lasting_top
  have processed : Keeps true fact
      (do let _ ← sendInitialOutreach deployment key contact; commit) fun _ => .top :=
    (keeps_sendInitialOutreach settled.timeless person).andThen fun _ =>
      keeps_commit settled.lasting
  refine processed.attempt.bind fun result => ?_
  cases result with
  | ok _ => exact keeps_pure fun _ _ => trivial
  | error failure => exact keeps_rollback (settled.lasting.and Fact.lasting_top)

theorem keeps_dispatchNewContacts
    {due : List (Nat × Contact)}
    (settled : fact.Settled)
    (people : ∀ known, fact.holds known → (loadedPeople due).holds known) :
    Keeps true fact (dispatchNewContacts deployment due) fun _ => .top := by
  cases due with
  | nil => exact keeps_pure fun _ _ => trivial
  | cons entry rest =>
      obtain ⟨key, contact⟩ := entry
      refine (keeps_dispatchNewContact settled ?_).andThen fun _ => ?_
      · exact fun known holds => people known holds (key, contact) List.mem_cons_self
      refine keeps_forEach ?_
      rintro ⟨other, stale⟩ member
      refine keeps_loadContact.bind fun current => ?_
      refine keeps_dispatchNewContact (settled.and (loadedPerson_settled _ _)) ?_
      rintro known ⟨holds, found⟩
      cases current with
      | none => exact people known holds (other, stale) (List.mem_cons_of_mem _ member)
      | some loaded => exact found loaded rfl

/-- The job of the scheduler for new contacts. -/
theorem keeps_dispatchNewContactsJob (settled : fact.Settled) :
    Keeps true fact (dispatchNewContactsJob deployment workerId locked) fun _ => .top := by
  refine keeps_sessionScope ?_ settled.lasting
  refine keeps_recoverExpiredClaims.andThen fun _ => ?_
  refine keeps_claimDueContacts.andThen fun claimed => ?_
  refine Keeps.ite (fun _ => keeps_pure fun _ _ => trivial) fun _ => ?_
  refine keeps_reloadActive.bind fun due => ?_
  exact keeps_dispatchNewContacts (settled.and (loadedPeople_settled due))
    fun _ holds => holds.2

/-- The job of the scheduler for follow-ups. -/
theorem keeps_dispatchFollowupsJob (settled : fact.Settled) :
    Keeps true fact (dispatchFollowupsJob deployment workerId locked) fun _ => .top := by
  refine keeps_sessionScope ?_ settled.lasting
  refine keeps_recoverExpiredClaims.andThen fun _ => ?_
  refine keeps_claimDueContacts.andThen fun claimed => ?_
  refine Keeps.ite (fun _ => keeps_pure fun _ _ => trivial) fun _ => ?_
  refine keeps_reloadActive.bind fun due => ?_
  have kept := settled.and (loadedPeople_settled due)
  refine (keeps_forEach ?_).andThen fun _ => keeps_commit kept.lasting
  rintro ⟨key, contact⟩ member
  refine keeps_ensuring ?_ (fun _ _ => keeps_releaseClaim) fun _ => Fact.lasting_top
  have sent : Keeps true (fact.and (loadedPeople due))
      (sendFollowupIfDue deployment .followUp key contact) fun _ => .top :=
    keeps_sendFollowupIfDue (fun _ => trivial) kept.timeless
      fun _ holds => holds.2 (key, contact) member
  exact sent.attempt.bind fun _ => keeps_pure fun _ _ => trivial

end Jobs

end Native
end MailerAgent
