import MailerAgent.Native.OutreachSafety

/-!
# Inbound handling keeps the contract

The branches of a classified reply. Between the interpretation of a request to
unsubscribe and the entry on the suppression list the session is `Owing`: nothing
that would make the interpretation durable happens before the entry is staged.
-/

namespace MailerAgent
namespace Native

open Concurrent Relational Mail Program

/-! ## Requests to unsubscribe -/

/-- A session that still has to honour a request of a contact to unsubscribe. -/
structure Owing
    (key : Nat)
    (pending : List Change)
    (known : Knowing) : Prop where
  people : known.aborted = false → ∀ change ∈ known.writes ++ pending, change.ordinary
  permitted : known.aborted = false → ∀ change ∈ pending,
    Permitted known.base (known.writes ++ pending) change ∨
      ∃ reference interpretation, change = .interpretMessage key reference interpretation
  current : Later known.base known.base
  since : known.ghost.since.Extends known.base

namespace Owing

variable {key : Nat} {pending : List Change} {known : Knowing} {store : Database}

theorem later
    (owing : Owing key pending known)
    (later : Later known.base store) :
    Owing key pending { known with base := store } where
  people := owing.people
  permitted unaborted change member := (owing.permitted unaborted change member).imp_left
    fun permitted => permitted.mono later.extended fun _ => id
  current := later.refl_right
  since := owing.since.trans later.extended

theorem abort
    (owing : Owing key pending known)
    (later : Later known.base store) :
    Steady true pending (known.abort store) where
  people := nofun
  permitted := nofun
  current := later.refl_right
  since := owing.since.trans later.extended

/-- Another change waits. -/
theorem stage
    {change : Change}
    (owing : Owing key pending known)
    (kept : change.ordinary)
    (permitted : Permitted known.base [] change ∨
      ∃ reference interpretation, change = .interpretMessage key reference interpretation) :
    Owing key (pending ++ [change]) known where
  people unaborted other member := by
    rw [← List.append_assoc] at member
    rcases List.mem_append.mp member with old | new
    · exact owing.people unaborted other old
    · rw [List.mem_singleton.mp new]
      exact kept
  permitted unaborted other member := by
    rcases List.mem_append.mp member with old | new
    · refine (owing.permitted unaborted other old).imp_left fun permitted => ?_
      refine permitted.mono (.refl _) fun entry present => ?_
      rw [← List.append_assoc]
      exact List.mem_append_left _ present
    · rw [List.mem_singleton.mp new]
      exact permitted.imp_left fun allowed =>
        allowed.mono (.refl _) fun _ member => by cases member
  current := owing.current
  since := owing.since

/-- The contact's entry settles the debt. -/
theorem honoured
    (owing : Owing key pending known)
    (opted : known.aborted = false → OptedOut known.base (known.writes ++ pending) key) :
    Steady true pending known where
  people unaborted _ := owing.people unaborted
  permitted unaborted change member := by
    rcases owing.permitted unaborted change member with permitted | ⟨_, _, rfl⟩
    · exact permitted
    · exact fun _ _ _ => opted unaborted
  current := owing.current
  since := owing.since

end Owing

theorem Steady.owing
    {pending : List Change}
    {known : Knowing}
    (steady : Steady true pending known)
    (key : Nat) :
    Owing key pending known where
  people unaborted := steady.people unaborted rfl
  permitted unaborted change member := .inl (steady.permitted unaborted change member)
  current := steady.current
  since := steady.since

/-- A stored contact has a campaign. -/
theorem Person.knownContact
    {key : Nat}
    {contact : Contact}
    {database : Database}
    (person : Person key contact database)
    (wellFormed : database.WellFormed) :
    KnownContact database key contact.email (database.organizationOf contact) := by
  obtain ⟨stored, found, same⟩ := person
  obtain ⟨campaign, foundCampaign⟩ :=
    Table.exists_get_of_lt_size (wellFormed.contactCampaign key stored found)
  refine ⟨stored, campaign, found, foundCampaign, same.2.symm, ?_⟩
  unfold Database.organizationOf Database.campaignOf
  rw [same.1, foundCampaign]
  rfl

section Unsubscribe

variable {fact : Fact} {key : Nat} {contact : Contact}

/-- A query in an owing session. -/
theorem runs_query_owing
    {Value : Type}
    {read : Database → Value}
    {ensures : Except Failure Value → List Change → Knowing → Prop}
    {pending : List Change}
    {known : Knowing}
    (owing : Owing key pending known)
    (holds : fact.holds known)
    (failed : ∀ failure after, Steady true pending after → fact.holds after →
      ensures (.error failure) pending after)
    (ran : ∀ after view, Owing key pending after → fact.holds after → Sees true after view →
      ensures (.ok (read view)) pending after) :
    Runs (query read) ensures pending known := by
  have people : known.aborted = false → true = true →
      ∀ change ∈ known.writes, change.ordinary :=
    fun unaborted _ change member => owing.people unaborted change (List.mem_append_left _ member)
  refine runs_execute people owing.since ?_ ?_
  · intro failure store later
    exact failed failure _ (owing.abort later) (fact.grows (grows_abort later) holds)
  · intro store view later _ sees
    have same : known.extend store [] = { known with base := store } := by
      simp [Knowledge.extend]
    rw [same]
    exact ⟨trivial, ran _ view (owing.later later)
      (fact.grows ⟨later, List.prefix_rfl, rfl⟩ holds) sees⟩

/-- An update in an owing session that schedules nothing. -/
theorem runs_assign_owing
    {patch : ContactPatch}
    {ensures : Except Failure Contact → List Change → Knowing → Prop}
    {pending : List Change}
    {known : Knowing}
    (owing : Owing key pending known)
    (holds : fact.holds known)
    (unscheduled : ∀ instant, patch.nextActionAt ≠ some (some instant))
    (assigned : ∀ result pending after, Contact.SamePerson contact result →
      Owing key pending after → fact.holds after → ensures (.ok result) pending after) :
    Runs (assign key contact patch) ensures pending known := by
  intro store later
  refine ⟨trivial, fun now => ?_⟩
  refine assigned _ _ { known with base := store } ⟨rfl, rfl⟩ ?_
    (fact.grows ⟨later, List.prefix_rfl, rfl⟩ holds)
  refine (owing.later later).stage trivial (.inl ?_)
  exact fun instant scheduled => absurd scheduled (unscheduled instant)

/-- The fact that a contact has an address and an organization. -/
def addressed
    (key : Nat)
    (email : String)
    (organization : Option String) : Fact :=
  .stored (fun database => KnownContact database key email organization)
    fun extended known => known.of_extends extended

/-- The entry that the handler found on the list. -/
theorem optedOut_of_existing
    {known : Knowing}
    {view : Database}
    {pending : List Change}
    {email : String}
    {organization : Option String}
    (recipient : KnownContact known.base key email organization)
    (sees : Sees true known view)
    (existing : (view.suppressions.existsWhere fun entry =>
      entry.email == email && entry.organizationId == organization) = true) :
    OptedOut known.base (known.writes ++ pending) key := by
  refine ⟨email, organization, recipient, ?_⟩
  obtain ⟨position, entry, found, matching⟩ := (Table.existsWhere_iff _ _).mp existing
  simp only [Bool.and_eq_true, beq_iff_eq] at matching
  rcases tracks_suppressions.origin (fun _ _ => trivial) sees.seen found with
    ⟨_, stored, rfl⟩ | ⟨change, written, _, inserted, rfl⟩
  · exact .inl ⟨position, _, stored, matching⟩
  · refine .inr ⟨_, List.mem_append_left _ ?_, matching⟩
    cases change with
    | insertSuppression row => exact Option.some.inj inserted ▸ written
    | _ => cases inserted

/-- `_handle_unsubscribe` settles what the session owes to the contact. -/
theorem runs_handleUnsubscribe
    {pending : List Change}
    {known : Knowing}
    (person : ∀ known, fact.holds known → Person key contact known.base)
    (owing : Owing key pending known)
    (holds : fact.holds known) :
    Runs (handleUnsubscribe key contact)
      (fun _ pending after => Steady true pending after ∧ fact.holds after)
      pending known := by
  have moves : Keeps true fact (leaveCadence key contact) fun _ => .top := by
    refine keeps_transition.bindValue fun moved _ => ?_
    refine (keeps_assign ?_).weaken fun _ _ _ _ => trivial
    exact fun _ scheduled => by cases scheduled
  refine runs_bind.mpr (runs_query_owing owing holds ?_ ?_)
  · exact fun _ _ steady kept => ⟨steady, kept⟩
  intro known view owing holds sees
  have organization : view.organizationOf contact = known.base.organizationOf contact := by
    unfold Database.organizationOf Database.campaignOf
    rw [sees.sameParties.campaigns]
  have recipient := (person known holds).knownContact sees.current.consistent.toWellFormed
  rw [← organization] at recipient
  have addressing : (fact.and (addressed key contact.email
      (view.organizationOf contact))).holds known := ⟨holds, recipient⟩
  refine runs_bind.mpr (runs_query_owing owing addressing ?_ ?_)
  · exact fun _ _ steady kept => ⟨steady, kept.1⟩
  rintro known seen owing ⟨holds, recipient⟩ sees
  have finish : ∀ pending, Steady true pending known →
      Runs (leaveCadence key contact)
      (fun _ pending after => Steady true pending after ∧ fact.holds after) pending known :=
    fun pending steady => (moves pending known steady holds).mono
      fun _ _ _ ended => ⟨ended.1, ended.2.1⟩
  cases existing : (seen.suppressions.existsWhere fun entry =>
      entry.email == contact.email &&
        entry.organizationId == view.organizationOf contact) with
  | true => exact finish _ (owing.honoured fun _ => optedOut_of_existing recipient sees existing)
  | false =>
      let entry : SuppressionEntry :=
        { email := contact.email
          organizationId := view.organizationOf contact
          reason := some "unsubscribed" }
      have staged : Owing key (pending ++ [.insertSuppression entry]) known :=
        owing.stage trivial (.inl trivial)
      have opted : OptedOut known.base
          (known.writes ++ (pending ++ [.insertSuppression entry])) key :=
        ⟨contact.email, view.organizationOf contact, recipient, .inr ⟨entry,
          List.mem_append_right _ (List.mem_append_right _ List.mem_cons_self), rfl, rfl⟩⟩
      exact finish _ (staged.honoured fun _ => opted)

end Unsubscribe

/-! ## Branches of a reply -/

section Branches

variable {strict : Bool} {fact : Fact} {key : Nat} {contact : Contact}
variable {deployment : Deployment} {email : InboundEmail}

theorem keeps_promoteIfSent :
    Keeps strict fact (promoteIfSent key contact) fun _ => .top := by
  refine Keeps.ite (fun _ => ?_) fun _ => keeps_pure fun _ _ => trivial
  refine (keeps_query fun _ _ _ _ => trivial).andThen fun sent => ?_
  refine Keeps.ite (fun _ => ?_) fun _ => keeps_pure fun _ _ => trivial
  exact keeps_transition.bindValue fun _ _ => keeps_pure fun _ _ => trivial

theorem keeps_advanceIntegrationContact {event : StateTransitionEvent} :
    Keeps strict fact (advanceIntegrationContact key contact event) fun _ => .top := by
  refine keeps_promoteIfSent.andThen fun promoted => ?_
  refine keeps_transition.bindValue fun moved _ => ?_
  refine Keeps.ite (fun _ => keeps_pure fun _ _ => trivial) fun _ => ?_
  refine keeps_transition.bindValue fun replied _ => ?_
  refine Keeps.ite (fun _ => ?_) fun _ => keeps_pure fun _ _ => trivial
  exact keeps_transition.bindValue fun _ _ => keeps_pure fun _ _ => trivial

theorem keeps_afterAutomaticReply {result : SendResult} :
    Keeps strict fact (afterAutomaticReply key contact result) fun _ => .top := by
  refine Keeps.ite (fun _ => ?_) fun _ =>
    Keeps.ite (fun _ => keeps_escalateUnknown) fun _ => keeps_pure fun _ _ => trivial
  refine keeps_utcnow.andThen fun sentAt => ?_
  exact (keeps_assign (fun _ scheduled => by cases scheduled)).weaken fun _ _ _ _ => trivial

/-- A reply is sent only to a native contact that is not suppressed. -/
theorem keeps_sendOrHoldReply
    {campaign : Campaign}
    {plan : ReplyPlan}
    {draft : Draft}
    (contacted : ∀ known, fact.holds known →
      NativeContact known.base key contact.email campaign.organizationId) :
    Keeps strict fact (sendOrHoldReply deployment key contact campaign email plan draft)
      fun _ => .top := by
  refine keeps_suppressionQuery.bind fun suppressed => ?_
  refine Keeps.ite (fun ready => ?_) fun _ => ?_
  · have clear : suppressed = false := by
      simp only [Bool.and_eq_true, Bool.not_eq_true'] at ready
      exact ready.2
    refine (keeps_sendEmail ?_).andThen fun result => ?_
    · rintro known ⟨holds, unlisted⟩
      exact maySend_of_checks trivial nofun (contacted known holds) (clear ▸ unlisted)
        (.inr rfl) rfl
    refine keeps_afterAutomaticReply.andThen fun _ => ?_
    exact (keeps_addMessage rfl rfl rfl).andThen fun _ => keeps_pure fun _ _ => trivial
  · exact (keeps_addMessage rfl rfl rfl).andThen fun _ => keeps_pure fun _ _ => trivial

theorem keeps_draftAndMaybeSendReply
    {campaign : Campaign}
    {intent : SemanticIntent}
    (timeless : fact.Timeless)
    (contacted : ∀ known, fact.holds known →
      NativeContact known.base key contact.email campaign.organizationId) :
    Keeps strict fact (draftAndMaybeSendReply deployment key contact campaign email intent)
      fun _ => .top := by
  refine (keeps_begin timeless fun _ _ _ => trivial).andThen fun _ => ?_
  refine Keeps.askThen trivial fun planned => ?_
  cases planned with
  | error name => exact keeps_raise
  | ok plan =>
      refine Keeps.askThen trivial fun drafted => ?_
      cases drafted with
      | raised name => exact keeps_raise
      | contextualFallbackUnavailable =>
          exact keeps_transition.bindValue fun _ _ => keeps_pure fun _ _ => trivial
      | drafted draft => exact keeps_sendOrHoldReply contacted

theorem keeps_continueConversation
    {loaded : Option Campaign}
    {intent : SemanticIntent}
    (timeless : fact.Timeless)
    (person : ∀ known, fact.holds known → Person key contact known.base)
    (owned : ∀ known, fact.holds known → (loadedCampaign contact loaded).holds known)
    (unmanaged : campaignIsIntegrationManaged loaded = false) :
    Keeps strict fact (continueConversation deployment key contact loaded email intent)
      fun _ => .top := by
  refine keeps_transition.bindValue fun moved same => ?_
  refine keeps_required.bindValue fun campaign present => ?_
  subst present
  have contacted : ∀ known, fact.holds known →
      NativeContact known.base key contact.email campaign.organizationId :=
    fun known holds =>
      nativeContact_of_loaded (person known holds) (owned known holds) unmanaged
  refine keeps_utcnow.andThen fun now => ?_
  refine keeps_computed.andThen fun next => ?_
  refine (keeps_assign fun _ _ known holds => ⟨_, _, contacted known holds⟩).bindValue
    fun rescheduled kept => ?_
  refine keeps_draftAndMaybeSendReply timeless fun known holds => ?_
  rw [kept.2, same.2]
  exact contacted known holds

/-- The branches other than the one of a request to unsubscribe. -/
theorem keeps_applyIntent
    {loaded : Option Campaign}
    {intent : SemanticIntent}
    (timeless : fact.Timeless)
    (person : ∀ known, fact.holds known → Person key contact known.base)
    (owned : ∀ known, fact.holds known → (loadedCampaign contact loaded).holds known)
    (staying : .unsubscribe ∉ intent.intents) :
    Keeps strict fact (applyIntent deployment key contact loaded email intent)
      fun _ => .top := by
  unfold applyIntent
  rw [if_neg staying]
  refine Keeps.ite (fun _ => ?_) fun _ => ?_
  · refine keeps_transition.bindValue fun moved _ => ?_
    refine (keeps_assign (fun _ scheduled => by cases scheduled)).bindValue fun _ _ => ?_
    exact keeps_pure fun _ _ => trivial
  refine Keeps.ite (fun _ => keeps_pure fun _ _ => trivial) fun _ => ?_
  refine Keeps.ite (fun _ => ?_) fun managed => ?_
  · refine keeps_advanceIntegrationContact.andThen fun advanced => ?_
    refine (keeps_assign (fun _ scheduled => by cases scheduled)).bindValue fun _ _ => ?_
    exact keeps_pure fun _ _ => trivial
  · exact keeps_continueConversation timeless person owned (Bool.eq_false_iff.mpr managed)

/-- A classification that asks to unsubscribe. -/
def ClassificationResult.unsubscribes (classified : ClassificationResult) : Prop :=
  classified.success = true ∧
    ∃ intent, classified.semanticIntent = some intent ∧ .unsubscribe ∈ intent.intents

theorem interpretationOf_analysis
    {classified : ClassificationResult}
    {intent : SemanticIntent} :
    (interpretationOf classified).semanticAnalysis = some intent ↔
      classified.success = true ∧ classified.semanticIntent = some intent := by
  unfold interpretationOf
  split
  · next meant success present =>
      simp [success, present]
  · next success other none =>
      constructor
      · nofun
      · rintro ⟨succeeded, present⟩
        exact (none intent succeeded present).elim

/-- The message is marked with a request to unsubscribe exactly if the handler acts on one. -/
theorem unsubscribes_iff_interpretation {classified : ClassificationResult} :
    ClassificationResult.unsubscribes classified ↔
      ∃ intent, (interpretationOf classified).semanticAnalysis = some intent ∧
        .unsubscribe ∈ intent.intents := by
  simp only [interpretationOf_analysis, ClassificationResult.unsubscribes, and_assoc,
    exists_and_left]

theorem keeps_recordClassification
    {reference : String}
    {classified : ClassificationResult}
    (staying : ¬ClassificationResult.unsubscribes classified) :
    Keeps strict fact (recordClassification key contact reference classified) fun result =>
      .always (Contact.SamePerson contact result) := by
  have interpreted : Keeps strict fact
      (stage (.interpretMessage key reference (interpretationOf classified))) fun _ => .top := by
    refine keeps_stage ?_ fun _ => trivial
    intro _ _ intent analysed asked
    exact absurd (unsubscribes_iff_interpretation.mpr ⟨intent, analysed, asked⟩) staying
  refine interpreted.andThen fun _ => ?_
  split
  · exact keeps_assign fun _ scheduled => by cases scheduled
  · exact keeps_pure fun _ _ => ⟨rfl, rfl⟩

theorem keeps_applyClassification
    {loaded : Option Campaign}
    {classified : ClassificationResult}
    (timeless : fact.Timeless)
    (person : ∀ known, fact.holds known → Person key contact known.base)
    (owned : ∀ known, fact.holds known → (loadedCampaign contact loaded).holds known)
    (staying : ¬ClassificationResult.unsubscribes classified) :
    Keeps strict fact
      (applyClassification deployment key contact loaded email classified) fun _ => .top := by
  refine Keeps.ite (fun _ => ?_) fun success => ?_
  · refine keeps_transition.bindValue fun moved _ => ?_
    refine (keeps_assign (fun _ scheduled => by cases scheduled)).bindValue fun _ _ => ?_
    exact keeps_pure fun _ _ => trivial
  have successful : classified.success = true := by
    cases known : classified.success with
    | true => rfl
    | false => simp [known] at success
  split
  · exact keeps_transition.bindValue fun _ _ => keeps_pure fun _ _ => trivial
  · next intent meant =>
      exact keeps_applyIntent timeless person owned fun asked =>
        staying ⟨successful, intent, meant, asked⟩

theorem applyClassification_unsubscribes
    {loaded : Option Campaign}
    {classified : ClassificationResult}
    (leaving : ClassificationResult.unsubscribes classified) :
    applyClassification deployment key contact loaded email classified = (do
      let _ ← handleUnsubscribe key contact
      pure .suppressed) := by
  obtain ⟨success, intent, meant, asked⟩ := leaving
  simp [applyClassification, success, meant, applyIntent, asked]

/-- A request to unsubscribe: the interpretation of the message and the entry on
the list wait for the same flush. -/
theorem keeps_unsubscribe
    {Result : Type}
    {loaded : Option Campaign}
    {reference : String}
    {classified : ClassificationResult}
    {rest : Contact → InboundAction → Program Result}
    (person : ∀ known, fact.holds known → Person key contact known.base)
    (leaving : ClassificationResult.unsubscribes classified)
    (continues : ∀ marked action, Keeps true fact (rest marked action) fun _ => .top) :
    Keeps true fact
      (do
        let marked ← recordClassification key contact reference classified
        let action ← applyClassification deployment key marked loaded email classified
        rest marked action)
      fun _ => .top := by
  simp only [applyClassification_unsubscribes leaving]
  obtain ⟨success, intent, meant, asked⟩ := leaving
  simp only [recordClassification, success, meant]
  intro pending known steady holds
  have interpreted : Owing key
      (pending ++ [.interpretMessage key reference (interpretationOf classified)]) known :=
    (steady.owing key).stage trivial (.inr ⟨_, _, rfl⟩)
  refine runs_bind.mpr (runs_stage.mpr (runs_assign_owing interpreted holds ?_ ?_))
  · exact fun _ scheduled => by cases scheduled
  intro marked pending after same owing holds
  refine runs_bind.mpr (runs_bind.mpr ((runs_handleUnsubscribe ?_ owing holds).mono ?_))
  · exact fun known holds => (person known holds).of_same same
  · rintro result pending after ⟨steady, holds⟩
    cases result with
    | ok _ => exact continues marked .suppressed pending after steady holds
    | error failure => exact ⟨steady, holds, nofun⟩

/-- The handling of any classification. -/
theorem keeps_interpretation
    {Result : Type}
    {loaded : Option Campaign}
    {reference : String}
    {classified : ClassificationResult}
    {rest : Contact → InboundAction → Program Result}
    (timeless : fact.Timeless)
    (person : ∀ known, fact.holds known → Person key contact known.base)
    (owned : ∀ known, fact.holds known → (loadedCampaign contact loaded).holds known)
    (continues : ∀ marked action, Keeps true fact (rest marked action) fun _ => .top) :
    Keeps true fact
      (do
        let marked ← recordClassification key contact reference classified
        let action ← applyClassification deployment key marked loaded email classified
        rest marked action)
      fun _ => .top := by
  by_cases leaving : ClassificationResult.unsubscribes classified
  · exact keeps_unsubscribe person leaving continues
  · refine (keeps_recordClassification leaving).bindValue fun marked kept => ?_
    refine (keeps_applyClassification timeless ?_ ?_ leaving).andThen
      fun action => continues marked action
    · exact fun known holds => (person known holds).of_same kept
    · intro known holds campaign present
      rw [kept.1]
      exact owned known holds campaign present

theorem keeps_classifyAndApplyInbound
    {loaded : Option Campaign}
    {reference : String}
    (timeless : fact.Timeless)
    (person : ∀ known, fact.holds known → Person key contact known.base)
    (owned : ∀ known, fact.holds known → (loadedCampaign contact loaded).holds known) :
    Keeps true fact (classifyAndApplyInbound deployment key contact loaded email reference)
      fun _ => .top := by
  refine keeps_utcnow.andThen fun repliedAt => ?_
  refine (keeps_assign (fun _ scheduled => by cases scheduled)).bindValue fun replied same => ?_
  refine (keeps_query fun _ _ _ _ => trivial).andThen fun messages => ?_
  refine Keeps.askThen trivial fun classification => ?_
  cases classification with
  | error name => exact keeps_raise
  | ok classified =>
      refine keeps_interpretation timeless ?_ ?_ fun marked action => ?_
      · exact fun known holds => (person known holds).of_same same
      · intro known holds campaign present
        rw [same.1]
        exact owned known holds campaign present
      · refine keeps_flush.andThen fun _ => ?_
        exact keeps_maybeSummarizeOlderMessages.andThen fun _ => keeps_pure fun _ _ => trivial

end Branches

/-! ## The webhook and the legacy poll -/

section Receiving

variable {strict : Bool} {fact : Fact} {deployment : Deployment} {email : InboundEmail}
variable {organization : Option String}

/-- An inbound message as the handlers insert it. -/
theorem permitted_inboundMessage
    {base : Database}
    {earlier : List Change}
    {key : Nat}
    {mailboxId : Option Nat}
    {identity : Option String}
    {createdAt : Instant}
    {reference : String}
    (arrives : ∀ mailbox, mailboxId = some mailbox → ∃ address organization,
      OwnMailbox base mailbox organization ∧
        KnownContact base key address (some organization)) :
    Permitted base earlier
      (.insertMessage (inboundMessage key mailboxId identity email createdAt reference)) :=
  ⟨rfl, fun _ => rfl, fun mailbox through => ⟨rfl, arrives mailbox through⟩⟩

theorem loadedCampaign_settled
    (contact : Contact)
    (loaded : Option Campaign) :
    (loadedCampaign contact loaded).Settled :=
  Fact.settled_of_base fun _ _ same holds campaign present => same ▸ holds campaign present

theorem keeps_receiveCorrelated
    {key : Nat}
    (settled : fact.Settled) :
    Keeps true fact (receiveCorrelated deployment organization email key) fun _ => .top := by
  refine keeps_loadContact.bind fun loaded => ?_
  refine keeps_required.bindValue fun contact present => ?_
  refine keeps_loadCampaign.bind fun campaign => ?_
  have kept := (settled.and (loadedPerson_settled key loaded)).and
    (loadedCampaign_settled contact campaign)
  refine Keeps.askThen trivial fun reference => ?_
  refine keeps_utcnow.andThen fun createdAt => ?_
  have staged : Keeps true ((fact.and (loadedPerson key loaded)).and
      (loadedCampaign contact campaign))
      (stage (.insertMessage
        (inboundMessage key none email.messageId email createdAt reference))) fun _ => .top :=
    keeps_stage (fun _ _ => permitted_inboundMessage fun _ through => by cases through)
      fun _ => trivial
  refine staged.andThen fun _ => ?_
  refine (keeps_flush.attempt.weaken fun _ _ _ _ => trivial).andThen fun flushed => ?_
  split
  · refine (keeps_rollback kept.lasting).andThen fun _ => ?_
    refine (keeps_query fun _ _ _ _ => trivial).andThen fun existing => ?_
    exact keeps_pure fun _ _ => trivial
  · exact keeps_raise
  · refine (keeps_classifyAndApplyInbound kept.timeless ?_ ?_).andThen fun action => ?_
    · exact fun known holds => holds.1.2 contact present
    · exact fun known holds => holds.2
    · exact keeps_pure fun _ _ => trivial

theorem keeps_correlate :
    Keeps strict fact (correlate organization email) fun _ => .top := by
  have bySender : ∀ byThread : Option Nat, Keeps strict fact
      (if byThread.isSome || !(threadReferences email).isEmpty then pure byThread
        else query (findContactByEmail organization email)) fun _ => .top := fun _ =>
    Keeps.ite (fun _ => keeps_pure fun _ _ => trivial)
      fun _ => keeps_query fun _ _ _ _ => trivial
  refine Keeps.ite (fun _ => ?_) fun _ => ?_
  · exact bySender none
  · exact (keeps_query fun _ _ _ _ => trivial).andThen bySender

theorem keeps_processInboundEmailV2
    {received : InboundEmail}
    (settled : fact.Settled) :
    Keeps true fact (processInboundEmailV2 deployment received organization)
      fun _ => .top := by
  have continues : ∀ existing : Option (Nat × Message), Keeps true fact
      (receiveUnlessDuplicate deployment organization received.normalized existing)
      fun _ => .top := by
    intro existing
    cases existing with
    | some found => exact keeps_pure fun _ _ => trivial
    | none =>
        refine keeps_correlate.andThen fun correlated => ?_
        cases correlated with
        | none => exact keeps_pure fun _ _ => trivial
        | some key => exact keeps_receiveCorrelated settled
  refine Keeps.ite (fun _ => ?_) fun _ => continues none
  exact (keeps_query fun _ _ _ _ => trivial).andThen continues

theorem keeps_pollRepliesJob (settled : fact.Settled) :
    Keeps true fact (pollRepliesJob deployment) fun _ => .top := by
  refine Keeps.askThen trivial fun emails => ?_
  refine Keeps.ite (fun _ => keeps_pure fun _ _ => trivial) fun _ => ?_
  refine keeps_sessionScope ?_ settled.lasting
  refine keeps_forEach fun email _ => ?_
  refine (keeps_processInboundEmailV2 settled).attempt.bind fun _ => ?_
  exact keeps_pure fun _ _ => trivial

theorem keeps_receiveInboundEmail
    {owner : String}
    (settled : fact.Settled) :
    Keeps true fact (receiveInboundEmail deployment owner email) fun _ => .top := by
  refine keeps_session ?_ settled.lasting fun _ => Fact.lasting_top
  refine (keeps_processInboundEmailV2 settled).andThen fun result => ?_
  exact (keeps_commit settled.lasting).andThen fun _ => keeps_pure fun _ _ => trivial

end Receiving

end Native
end MailerAgent
