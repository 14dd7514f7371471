import MailerAgent.Native.InboundConduct

/-!
# The routes keep the standing of contacts

With the routes of the API, every native operation that runs alone keeps a closed law
that allows new contacts.
-/

namespace MailerAgent
namespace Native

open Concurrent Relational Mail Program

/-! ## Campaigns and contacts -/

section Campaigns

variable {law : Law} {deployment : Deployment} {organization : String} {campaignId : Nat}

/-- A change that is about no standing. -/
theorem respects_stage
    {change : Change}
    (neutral : change.Neutral) :
    Respects law (Orderly law) (stage change) :=
  Performs.stage fun _ _ orderly => orderly.stage neutral

theorem respects_look
    {Value : Type}
    {read : Database → Value} :
    Respects law (Orderly law) (query read) :=
  conducts_look aborts_orderly

/-- A new campaign has no contacts. -/
theorem respects_createCampaign {payload : CampaignCreate} :
    Respects law (Orderly law) (createCampaign organization payload) :=
  respects_session (Performs.bind (respects_stage trivial) fun _ => respects_commit)

theorem conducts_getCampaignOr404
    {before : Assertion Heard}
    (aborts : Assertion.Aborts law before)
    (orderly : ∀ pending desk, before pending desk → Orderly law pending desk) :
    Conducts law before (getCampaignOr404 organization campaignId) fun _ => before := by
  refine Performs.bind (conducts_look aborts) fun found => ?_
  cases found with
  | some campaign => exact Performs.pure fun _ _ => id
  | none => exact Performs.raise orderly

theorem respects_validated {email : String} :
    Respects law (Orderly law) (validated deployment.services email) := by
  unfold validated
  split
  · exact respects_pure
  · exact respects_raise

theorem respects_validateContacts {submitted : List ContactCreate} :
    Respects law (Orderly law) (validateContacts deployment.services submitted) := by
  induction submitted with
  | nil => exact respects_pure
  | cons payload rest inductionHypothesis =>
      refine Performs.bind respects_validated fun email => ?_
      exact Performs.bind inductionHypothesis fun _ => respects_pure

/-- A new contact has the status and the date of new contacts. -/
theorem respects_stageContact
    {payload : ContactCreate}
    (opens : law.Open) :
    Respects law (Orderly law) (stage (.insertContact (newContact campaignId payload))) :=
  Performs.stage fun _ _ orderly => orderly.stageContact rfl rfl opens

/-- A rejected insertion leaves what was there. -/
theorem respects_addContact
    {payload : ContactCreate}
    (opens : law.Open) :
    Respects law (Orderly law) (addContact campaignId payload) := by
  refine Performs.bind respects_look fun suppressed => ?_
  refine Performs.ite (fun _ => respects_pure) fun _ => ?_
  refine Performs.bind respects_look fun present => ?_
  exact Performs.ite (fun _ => respects_pure) fun _ => respects_stageContact opens

/-- The route that adds contacts keeps every open law. -/
theorem respects_addContacts
    {submitted : List ContactCreate}
    (opens : law.Open) :
    Respects law (Orderly law)
      (addContacts deployment organization campaignId submitted) := by
  refine respects_session ?_
  refine Performs.bind respects_validateContacts fun contacts => ?_
  refine Performs.bind (conducts_getCampaignOr404 aborts_orderly fun _ _ => id) fun _ => ?_
  refine Performs.bind (respects_forEach fun _ _ => respects_addContact opens) fun _ => ?_
  refine Performs.bind respects_flush.attemptEither fun result => ?_
  cases result with
  | ok _ => exact respects_commit
  | error failure =>
      cases failure with
      | integrity => exact Performs.bind respects_rollback fun _ => respects_raise
      | _ => exact respects_raise

/-- One lead becomes a new contact, or none. -/
theorem respects_ingestLead
    {lead : List (String × LeadValue)}
    {report : IngestReport}
    (opens : law.Open) :
    Respects law (Orderly law) (ingestLead deployment.services campaignId lead report) := by
  unfold ingestLead
  split
  · exact respects_pure
  · next payload normalized =>
      refine Performs.bind respects_look fun suppressed => ?_
      refine Performs.ite (fun _ => respects_pure) fun _ => ?_
      refine Performs.bind respects_look fun existing => ?_
      cases existing with
      | some key => exact respects_pure
      | none =>
          refine Performs.bind (respects_stageContact opens) fun _ => ?_
          refine Performs.bind respects_flush.attemptEither fun result => ?_
          cases result with
          | ok _ => exact respects_pure
          | error failure =>
              cases failure with
              | integrity => exact Performs.bind respects_rollback fun _ => respects_pure
              | _ => exact respects_raise

theorem respects_ingestEach
    {leads : List (List (String × LeadValue))}
    {report : IngestReport}
    (opens : law.Open) :
    Respects law (Orderly law) (ingestEach deployment.services campaignId leads report) := by
  induction leads generalizing report with
  | nil => exact respects_pure
  | cons lead rest inductionHypothesis =>
      exact Performs.bind (respects_ingestLead opens) fun _ => inductionHypothesis

/-- The route that ingests leads keeps every open law. -/
theorem respects_ingestLeads
    {leads : List (List (String × LeadValue))}
    (opens : law.Open) :
    Respects law (Orderly law) (ingestLeads deployment organization campaignId leads) := by
  refine respects_session ?_
  refine Performs.bind (conducts_getCampaignOr404 aborts_orderly fun _ _ => id) fun _ => ?_
  refine Performs.bind (respects_ingestEach opens) fun _ => ?_
  exact Performs.bind respects_commit fun _ => respects_pure

/-- New contacts of a started campaign are scheduled. -/
theorem respects_scheduleEach
    {due : List (Nat × Contact)}
    {now : Instant}
    (closed : law.Closed)
    (unpinned : ∀ key, law.Free key)
    (distinct : due.Pairwise fun first second => first.1 ≠ second.1)
    (fresh : ∀ entry ∈ due, entry.2.status = .new) :
    Respects law (Orderly (law.due due))
      (forEach due fun (key, contact) => do
        let _ ← assign key contact { nextActionAt := some (some now) }) := by
  induction due with
  | nil =>
      exact Performs.pure fun _ _ orderly =>
        orderly.unpin fun key contact member => (unpinned key contact member).elim
  | cons entry rest inductionHypothesis =>
      obtain ⟨key, contact⟩ := entry
      have scheduled : Respects (law.due rest) (Orderly (law.due ((key, contact) :: rest)))
          (do let _ ← assign key contact { nextActionAt := some (some now) }) := by
        refine Performs.bind ((conducts_assignHeld (free_of_distinct distinct) ?_).strengthen
          fun _ _ orderly => orderly.heldNext.focus) fun _ =>
            Performs.pure fun _ _ held => held.orderly
        intro holds
        have status : contact.status = .new := fresh _ List.mem_cons_self
        unfold Law.row at holds
        rw [status] at holds
        change law.holds key contact.status _
        rw [status]
        exact closed.starts key _ _ holds
      refine Performs.bind (scheduled.weaken (fun _ _ _ => id) fun _ _ _ orderly => ?_)
        fun _ => ?_
      · exact orderly.unpin fun key contact member => (unpinned key contact member).elim
      · exact inductionHypothesis (List.pairwise_cons.mp distinct).2
          fun entry member => fresh entry (List.mem_cons_of_mem _ member)

/-- Starting a campaign dates its contacts as the law allows. -/
theorem respects_startCampaign
    (closed : law.Closed)
    (unpinned : ∀ key, law.Free key) :
    Respects law (Clean law) (startCampaign organization campaignId) := by
  refine respects_session ?_
  have prepares : ∀ pending desk, Clean law pending desk →
      pending = [] ∧ Preparing law pending desk :=
    fun _ _ clean => ⟨clean.empty, clean.preparing⟩
  have aborts : Assertion.Aborts law
      fun pending desk => pending = [] ∧ Preparing law pending desk :=
    fun _ _ holds => holds.2.orderly.abort none
  refine Performs.bind ((conducts_getCampaignOr404 aborts
    fun _ _ holds => holds.2.orderly).strengthen prepares) fun campaign => ?_
  refine Performs.ite (fun _ => ?_) fun _ => ?_
  · exact Performs.raise fun _ _ holds => holds.2.orderly
  have loads : Conducts law (fun pending desk => pending = [] ∧ Preparing law pending desk)
      (query fun view => (view.contacts.keysWhere fun contact =>
        contact.campaignId == campaignId && contact.status == .new).filterMap fun key =>
          (view.contacts.get key).map fun contact => (key, contact))
      fun due => Ready law .new due := by
    refine (conducts_query aborts).weaken ?_ fun _ _ _ => id
    rintro due pending desk ⟨⟨rfl, preparing⟩, view, seen, rfl⟩
    refine preparing.ready seen ?_ ?_ ?_
    · refine List.Pairwise.filterMap _ ?_ (Table.nodup_keysWhere _ _)
      rintro first second different left fromFirst right fromSecond
      obtain ⟨_, -, rfl⟩ := Option.map_eq_some_iff.mp fromFirst
      obtain ⟨_, -, rfl⟩ := Option.map_eq_some_iff.mp fromSecond
      exact different
    · intro entry member
      obtain ⟨key, -, loaded⟩ := List.mem_filterMap.mp member
      obtain ⟨contact, found, rfl⟩ := Option.map_eq_some_iff.mp loaded
      exact found
    · intro entry member
      obtain ⟨key, selected, loaded⟩ := List.mem_filterMap.mp member
      obtain ⟨contact, found, rfl⟩ := Option.map_eq_some_iff.mp loaded
      obtain ⟨row, foundRow, matching⟩ := (Table.mem_keysWhere _ _ _).mp selected
      cases foundRow.symm.trans found
      simp only [Bool.and_eq_true, beq_iff_eq] at matching
      exact matching.2
  refine Performs.bind loads fun due => ?_
  have unready : ∀ pending desk, Ready law .new due pending desk → Orderly law pending desk :=
    fun _ _ ready => ready.orderly.unpin fun key contact member =>
      (unpinned key contact member).elim
  refine Performs.ite (fun _ => Performs.pure unready) fun _ => ?_
  refine Performs.bind (conducts_utcnow fun _ _ ready => ready.orderly.store) fun now => ?_
  refine Performs.bind ?_ fun _ => respects_commit
  intro pending desk ready
  exact respects_scheduleEach closed unpinned ready.distinct ready.status pending desk
    ready.orderly

end Campaigns

/-! ## Manual actions -/

section Manual

variable {law : Law} {deployment : Deployment} {organization : String} {contactId : Nat}

theorem conducts_getContactOr404 :
    Conducts law (Idle law) (getContactOr404 organization contactId)
      fun contact => Settled law contactId contact := by
  refine Performs.bind (conducts_query aborts_idle) fun found => ?_
  cases found with
  | none => exact Performs.raise fun _ _ holds => holds.1.2
  | some contact =>
      refine Performs.pure fun pending desk holds => ?_
      obtain ⟨⟨rfl, orderly⟩, view, seen, loaded⟩ := holds
      refine ⟨rfl, orderly, fun current seenCurrent => ?_⟩
      cases seen.symm.trans seenCurrent
      have stored : view.contacts.get contactId = some contact := by
        obtain ⟨found, -⟩ := Option.filter_eq_some_iff.mp loaded.symm
        exact found
      exact ⟨contact, stored, .refl contact⟩

/-- What a manual action commits of the contact. -/
def Acted
    (contactId : Nat)
    (event : StateTransitionEvent)
    (patch : ContactPatch)
    (database : Database) : Prop :=
  ∃ contact row : Contact, database.contacts.get contactId = some row ∧
    stateTransition contact.status event = some row.status ∧
    row.nextActionAt = patch.nextActionAt.getD contact.nextActionAt

section Moves

variable {event : StateTransitionEvent} {verb advice : String} {patch : ContactPatch}

/-- The body of a manual action. -/
theorem conducts_moveContact
    (free : law.Free contactId)
    (still : patch.status = none)
    (allowed : ∀ status next after, law.holds contactId status next →
      stateTransition status event = some after →
      law.holds contactId after (patch.nextActionAt.getD next)) :
    Conducts law (Idle law)
      (do
        let contact ← getContactOr404 organization contactId
        let (moved, success) ← transitionContactState contactId contact event
        if !success then
          raise (.http 400 ("Cannot " ++ verb ++ " state " ++ contact.status.value ++ ". " ++
            advice))
        let _ ← assign contactId moved patch
        commit)
      fun _ pending desk => Clean law pending desk ∧
        Acted contactId event patch desk.store := by
  refine Performs.bind conducts_getContactOr404 fun contact => ?_
  refine Performs.bind ((conducts_transition event).strengthen fun _ _ settled =>
    settled.2.focus) fun moved => Performs.given fun effect => ?_
  refine Performs.ite (fun failed => ?_) fun succeeded => ?_
  · refine Performs.raise fun _ _ focus => (focus.held free fun holds => ?_).orderly
    rw [effect.unmoved (by simpa using failed)]
    exact holds
  have edge := effect.edge (by simpa using succeeded)
  have assigned : Conducts law (Focus law contactId moved.1 (law.row contactId contact))
      (assign contactId moved.1 patch) fun _ => Shows law contactId True fun after =>
        stateTransition contact.status event = some after.status ∧
          after.nextActionAt = patch.nextActionAt.getD contact.nextActionAt := by
    refine (conducts_assign patch).weaken ?_ fun _ _ _ => id
    rintro after pending desk ⟨patched, focus⟩
    have status : after.status = moved.1.status := by
      rw [patched.status, still]
      rfl
    have next : after.nextActionAt = patch.nextActionAt.getD contact.nextActionAt := by
      rw [patched.nextActionAt, effect.nextActionAt]
    have held : Held law contactId after pending desk := by
      refine focus.held free fun holds => ?_
      unfold Law.row
      rw [status, next]
      exact allowed _ _ _ holds edge
    exact ⟨held.orderly, fun _ => ⟨after, ⟨by rw [status]; exact edge, next⟩, held⟩⟩
  refine Performs.bind assigned fun _ => conducts_commitShown.weaken ?_ fun _ _ _ => id
  rintro _ pending desk ⟨clean, shown⟩
  obtain ⟨row, after, found, ⟨moves, next⟩, same⟩ := shown trivial
  rw [← same.status] at moves
  exact ⟨clean, contact, row, found, moves, same.nextActionAt.trans next⟩

/-- A manual route moves one contact along an edge, and dates it. -/
theorem respects_moveContact
    (free : law.Free contactId)
    (still : patch.status = none)
    (allowed : ∀ status next after, law.holds contactId status next →
      stateTransition status event = some after →
      law.holds contactId after (patch.nextActionAt.getD next)) :
    Respects law (Idle law) (moveContact organization contactId event verb advice patch) :=
  respects_session ((conducts_moveContact free still allowed).weaken
    (fun _ _ _ holds => holds.1.orderly) fun _ _ _ => id)

/-- What a manual action leaves in the database. -/
theorem conducts_movedContact
    (free : law.Free contactId)
    (still : patch.status = none)
    (allowed : ∀ status next after, law.holds contactId status next →
      stateTransition status event = some after →
      law.holds contactId after (patch.nextActionAt.getD next)) :
    Conducts law (Idle law) (moveContact organization contactId event verb advice patch)
      fun _ _ desk => law.Stored desk.store ∧ Acted contactId event patch desk.store := by
  let stored : Unit → Database → Prop := fun _ database =>
    law.Stored database ∧ Acted contactId event patch database
  refine conducts_sessionStored stored ((conducts_moveContact free still allowed).weaken ?_
    fun _ _ _ => id)
  exact fun _ _ _ holds => ⟨holds.1.orderly.store, holds.2⟩

end Moves

/-- Where there is an edge the event leads along it. -/
theorem Law.moved_of_edge
    {status after : ContactStatus}
    {event : StateTransitionEvent}
    (edge : stateTransition status event = some after) :
    Law.moved status event = after := by
  unfold Law.moved
  rw [edge]
  rfl

/-- A manual action that unschedules the contact. -/
theorem respects_moveUnscheduled
    {event : StateTransitionEvent}
    {verb advice : String}
    (closed : law.Closed)
    (free : law.Free contactId) :
    Respects law (Idle law)
      (moveContact organization contactId event verb advice { nextActionAt := some none }) := by
  refine respects_moveContact free rfl fun status next after holds edge => ?_
  have left := closed.leaves contactId status event (closed.clears contactId status next holds)
  rw [Law.moved_of_edge edge] at left
  exact left

/-- A resumed contact gets a date. -/
theorem respects_resumeContact
    (closed : law.Closed)
    (free : law.Free contactId) :
    Respects law (Idle law) (resumeContact organization contactId) :=
  respects_moveContact free rfl fun status next after => closed.resumes contactId status next after

/-- A forced follow-up is sent under the same law. -/
theorem respects_forceFollowup
    (closed : law.Closed)
    (unpinned : ∀ key, law.Free key) :
    Respects law (Idle law) (forceFollowup deployment organization contactId) := by
  refine respects_session ?_
  refine Performs.bind conducts_getContactOr404 fun contact => ?_
  refine Performs.bind (conducts_look aborts_settled) fun campaign => ?_
  refine Performs.ite (fun _ => Performs.raise fun _ _ settled => settled.2.orderly) fun _ => ?_
  refine Performs.bind (conducts_utcnow stores_settled) fun now => ?_
  refine Performs.bind (conducts_computed fun _ _ settled => settled.2.orderly) fun sendable =>
    Performs.given fun confirmed => ?_
  refine Performs.ite (fun _ => Performs.raise fun _ _ settled => settled.2.orderly)
    fun sends => ?_
  have active : contact.status = .active := by
    refine active_of_canSendFollowup (confirmed.trans (congrArg Except.ok ?_))
    simpa using sends
  refine Performs.bind (conducts_utcnow stores_settled) fun dueAt => ?_
  have scheduled : Conducts law (Settled law contactId contact)
      (assign contactId contact { nextActionAt := some (some dueAt) })
      fun after => Held law contactId after := by
    refine (conducts_assignHeld (unpinned contactId) ?_).strengthen fun _ _ settled =>
      settled.2.focus
    intro holds
    unfold Law.row at holds
    rw [active] at holds
    change law.holds contactId contact.status _
    rw [active]
    exact closed.follows contactId _ _ holds
  refine Performs.bind scheduled fun _ => ?_
  refine Performs.bind (respects_commit.strengthen fun _ _ held => held.orderly) fun _ => ?_
  refine Performs.bind (conducts_load fun _ _ => id) fun loaded => ?_
  refine Performs.bind (Performs.required (fun present found _ _ holds => holds.2 present found)
    fun _ _ _ _ holds => holds.1) fun current => ?_
  refine Performs.bind (respects_sendFollowupIfDue closed (unpinned contactId)) fun action => ?_
  exact Performs.bind respects_commit fun _ => respects_pure

end Manual

/-! ## Messages, suppression and mailboxes -/

section Records

variable {law : Law} {deployment : Deployment} {organization : String}

/-- Approving a draft leaves the standing of its contact. -/
theorem respects_approveAndSendDraft {messageId : Nat} :
    Respects law (Orderly law) (approveAndSendDraft deployment organization messageId) := by
  refine respects_session ?_
  refine Performs.bind (conducts_ask (fun _ _ => rfl) stores_orderly) fun _ => ?_
  have found : Respects law (Orderly law) (getMessageOr404 organization messageId) := by
    refine Performs.bind respects_look fun found => ?_
    cases found with
    | some row => exact respects_pure
    | none => exact respects_raise
  refine Performs.bind found fun ⟨message, contact⟩ => ?_
  refine Performs.bind respects_look fun loaded => ?_
  have approvable : Respects law (Orderly law) (checkApprovable loaded messageId message) := by
    refine Performs.ite (fun _ => respects_raise) fun _ => ?_
    refine Performs.bind respects_look fun owned => ?_
    refine Performs.ite (fun _ => respects_raise) fun _ => ?_
    exact Performs.ite (fun _ => respects_raise) fun _ => respects_pure
  refine Performs.bind approvable fun _ => ?_
  refine Performs.bind respects_look fun suppressed => ?_
  refine Performs.ite (fun _ => respects_raise) fun _ => ?_
  refine Performs.bind (conducts_required fun _ _ => id) fun campaign =>
    Performs.given fun _ => ?_
  refine Performs.bind respects_look fun ⟨messages, transcript⟩ => ?_
  have sendable : Respects law (Orderly law)
      (checkSendable deployment contact campaign message transcript) := by
    refine Performs.ite (fun _ => respects_raise) fun _ => ?_
    exact Performs.ite (fun _ => respects_raise) fun _ => respects_pure
  refine Performs.bind sendable fun _ => ?_
  refine Performs.bind (conducts_sendEmail stores_orderly fun _ _ => id) fun result => ?_
  exact Performs.bind (respects_stage trivial) fun _ => respects_commit

/-- An entry on the list moves no contact. -/
theorem respects_suppressEmail
    {submitted : String}
    {reason : Option String} :
    Respects law (Orderly law) (suppressEmail deployment organization submitted reason) := by
  refine respects_session ?_
  refine Performs.bind respects_validated fun email => ?_
  refine Performs.bind respects_look fun existing => ?_
  refine Performs.ite (fun _ => respects_pure) fun _ => ?_
  exact Performs.bind (respects_stage trivial) fun _ => respects_commit

theorem respects_encrypted {secret : Option String} :
    Respects law (Orderly law) (encrypted deployment.services secret) := by
  unfold encrypted
  split
  · exact respects_pure
  · split
    · exact respects_pure
    · exact respects_raise

theorem respects_createMailbox {payload : MailboxCreate} :
    Respects law (Orderly law) (createMailbox deployment organization payload) := by
  refine respects_session ?_
  refine Performs.bind respects_encrypted fun smtpPassword => ?_
  refine Performs.bind respects_encrypted fun imapPassword => ?_
  refine Performs.bind respects_look fun taken => ?_
  refine Performs.ite (fun _ => respects_raise) fun _ => ?_
  refine Performs.bind (conducts_ask (fun _ _ => rfl) stores_orderly) fun reference => ?_
  refine Performs.bind (conducts_ask (fun _ _ => rfl) stores_orderly) fun now => ?_
  refine Performs.bind (respects_stage trivial) fun _ => ?_
  refine Performs.bind respects_commit.attemptEither fun result => ?_
  cases result with
  | ok _ => exact respects_pure
  | error failure =>
      cases failure with
      | integrity => exact Performs.bind respects_rollback fun _ => respects_raise
      | _ => exact respects_raise

/-- A mailbox has no part in the standing of contacts. -/
theorem respects_updateMailbox
    {publicReference : String}
    {payload : MailboxUpdate} :
    Respects law (Orderly law)
      (updateMailbox deployment organization publicReference payload) := by
  refine respects_session ?_
  refine Performs.bind respects_look fun found => ?_
  cases found with
  | none => exact respects_raise
  | some loaded =>
      refine Performs.ite (fun _ => respects_raise) fun _ => ?_
      refine Performs.bind respects_encrypted fun smtpPassword => ?_
      refine Performs.bind respects_encrypted fun imapPassword => ?_
      refine Performs.bind (conducts_ask (fun _ _ => rfl) stores_orderly) fun now => ?_
      exact Performs.bind (respects_stage trivial) fun _ => respects_commit

end Records

/-! ## Operations -/

/-- Every operation that runs alone keeps a closed law. -/
theorem respects_program
    {law : Law}
    {deployment : Deployment}
    (operation : Operation)
    (closed : law.Closed)
    (opens : law.Open)
    (unpinned : ∀ key, law.Free key) :
    Respects law (Clean law) (operation.program deployment) := by
  have orderly : ∀ pending desk, Clean law pending desk → Orderly law pending desk :=
    fun _ _ clean => clean.orderly
  have idle : ∀ pending desk, Clean law pending desk → Idle law pending desk :=
    fun _ _ clean => clean.idle
  cases operation with
  | createCampaign organization payload => exact respects_createCampaign.strengthen orderly
  | addContacts organization campaignId contacts =>
      exact (respects_addContacts opens).strengthen orderly
  | ingestLeads organization campaignId leads =>
      exact Performs.bind ((respects_ingestLeads opens).strengthen orderly)
        fun _ => respects_pure
  | startCampaign organization campaignId => exact respects_startCampaign closed unpinned
  | pauseContact organization contactId =>
      exact (respects_moveUnscheduled closed (unpinned contactId)).strengthen idle
  | resumeContact organization contactId =>
      exact (respects_resumeContact closed (unpinned contactId)).strengthen idle
  | markWon organization contactId =>
      exact (respects_moveUnscheduled closed (unpinned contactId)).strengthen idle
  | forceFollowup organization contactId =>
      exact Performs.bind ((respects_forceFollowup closed unpinned).strengthen idle)
        fun _ => respects_pure
  | approveAndSendDraft organization messageId =>
      exact respects_approveAndSendDraft.strengthen orderly
  | suppressEmail organization email reason =>
      exact respects_suppressEmail.strengthen orderly
  | receiveInboundEmail organization payload =>
      exact Performs.bind ((respects_receiveInboundEmail closed unpinned).strengthen orderly)
        fun _ => respects_pure
  | createMailbox organization payload => exact respects_createMailbox.strengthen orderly
  | updateMailbox organization publicReference payload =>
      exact respects_updateMailbox.strengthen orderly
  | dispatchNewContactsJob workerId locked =>
      exact respects_dispatchNewContactsJob closed unpinned
  | dispatchFollowupsJob workerId locked =>
      exact respects_sessionScope (respects_runFollowupCycle closed unpinned)
  | pollRepliesJob => exact (respects_pollRepliesJob closed unpinned).strengthen orderly
  | pollMailboxInboxesJob =>
      exact Performs.bind ((cleans_pollAllMailboxesReport closed unpinned).weaken
        (fun _ _ _ => id) fun _ _ _ clean => clean.orderly) fun _ =>
          Performs.pure fun _ _ clean => clean.orderly
  | releaseAllClaims workerId =>
      exact respects_sessionScope (respects_releaseAllClaims.strengthen orderly)

end Native
end MailerAgent
