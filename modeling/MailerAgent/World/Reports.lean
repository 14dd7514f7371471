import MailerAgent.World.Schedule

/-!
# Reported actions

An inbound handler reports an action, and outreach that it skipped a contact. The stored
status agrees with a report exactly if the transition table has an edge for the event, or
if the contact had the status before.
-/

namespace MailerAgent

open Concurrent Relational Mail Native Program

/-! ## Inbound messages -/

/-- The transition of a reported action, and the status that the report names. -/
def reportedMove : InboundAction → Option (StateTransitionEvent × ContactStatus)
  | .suppressed => some (.unsubscribed, .suppressed)
  | .closedLost => some (.notInterested, .closedLost)
  | .needsReviewClassificationFailed => some (.needsHuman, .needsReview)
  | .needsReviewMissingIntent => some (.needsHuman, .needsReview)
  | _ => none

theorem event_of_reportedMove
    {action : InboundAction}
    {event : StateTransitionEvent}
    {status : ContactStatus}
    (reported : reportedMove action = some (event, status)) :
    action.event = some event := by
  cases action <;> cases reported <;> rfl

/-- All edges for the event of a report lead to the status that it names. -/
theorem edge_of_reportedMove
    {action : InboundAction}
    {event : StateTransitionEvent}
    {status before after : ContactStatus}
    (reported : reportedMove action = some (event, status))
    (edge : stateTransition before event = some after) :
    after = status := by
  cases action <;> cases reported <;> cases before <;> cases edge <;> rfl

theorem moved_eq_iff_of_reportedMove
    {action : InboundAction}
    {event : StateTransitionEvent}
    {status before : ContactStatus}
    (reported : reportedMove action = some (event, status)) :
    Law.moved before event = status ↔
      before = status ∨ stateTransition before event = some status := by
  unfold Law.moved
  cases edge : stateTransition before event with
  | none => simp
  | some after =>
      have same := edge_of_reportedMove reported edge
      simp [same]

/-- `_classify_and_apply_inbound` on a state of the database, and the commit of its
caller. -/
def inboundAlone
    (deployment : Deployment)
    (surroundings : Surroundings)
    (key : Nat)
    (contact : Contact)
    (campaign : Campaign)
    (email : InboundEmail)
    (reference : String)
    (database : Database) :
    Outcome Database Change Signal (Except Failure InboundAction × List Change) :=
  Process.alone Change.apply Signal.prompt surroundings
    ((do
      let action ←
        classifyAndApplyInbound deployment key contact (some campaign) email reference
      commit
      pure action : Program InboundAction) []) 0 database {}

/-- A loaded contact at the start of a session. -/
theorem Native.Law.Stored.settled
    {law : Law}
    {database : Database}
    {key : Nat}
    {contact : Contact}
    (unpinned : ∀ key, law.Free key)
    (stored : law.Stored database)
    (found : database.contacts.get key = some contact) :
    Settled law key contact [] ⟨database, some database, none⟩ := by
  have clean := @Law.Stored.clean law unpinned ⟨database, some database, none⟩ stored rfl
  refine ⟨rfl, clean.orderly, ?_⟩
  rintro _ ⟨⟩
  exact ⟨contact, found, .refl contact⟩

theorem Law.closed_anything : Law.anything.Closed where
  clears _ _ _ _ := trivial
  leaves _ _ _ _ := trivial
  skips _ _ _ _ := trivial
  resumes _ _ _ _ _ _ := trivial
  starts _ _ _ _ := trivial
  sends _ _ _ _ := trivial
  follows _ _ _ _ := trivial
  missing _ _ _ _ _ _ _ := trivial
  converses _ _ _ _ _ _ _ _ _ _ _ := by
    intro now campaign
    split
    · exact ⟨trivial, fun _ => trivial⟩
    · trivial

/-- What a claim about a contact leaves in the database. -/
theorem conducts_committed
    {Value : Type}
    {law : Law}
    {before : Assertion Heard}
    {program : Program Value}
    {key : Nat}
    {claim : Value → Prop}
    {property : Value → Contact → Prop}
    (conducts : Conducts law before program fun value =>
      Shows law key (claim value) (property value)) :
    Conducts law before (do let value ← program; commit; pure value) fun value _ desk =>
      claim value → ∃ row after, desk.store.contacts.get key = some row ∧
        property value after ∧ SameStanding after row := by
  refine Performs.bind conducts fun value => ?_
  exact Performs.bind conducts_commitShown fun _ => Performs.pure fun _ _ holds => holds.2

theorem status_of_inboundAlone
    {deployment : Deployment}
    {surroundings : Surroundings}
    {key : Nat}
    {contact : Contact}
    {campaign : Campaign}
    {email : InboundEmail}
    {reference : String}
    {database : Database}
    {action : InboundAction}
    {event : StateTransitionEvent}
    {status : ContactStatus}
    (wellFormed : database.WellFormed)
    (found : database.contacts.get key = some contact)
    (returned : (inboundAlone deployment surroundings key contact campaign email reference
      database).value.1 = .ok action)
    (reported : reportedMove action = some (event, status)) :
    ∃ row, (inboundAlone deployment surroundings key contact campaign email reference
        database).store.contacts.get key = some row ∧
      (row.status = status ↔
        contact.status = status ∨ stateTransition contact.status event = some status) := by
  have conducts := conducts_committed (@conducts_classifyAndApplyInbound Law.anything key contact
    deployment email (some campaign) reference ⟨campaign, rfl⟩ Law.closed_anything fun _ => id)
  let moves : InboundAction → Contact → Prop := fun action after =>
    ∀ event, action.event = some event → after.status = Law.moved contact.status event
  have stored := stored_alone
    (fun action database => action.event ≠ none →
      ∃ row after, database.contacts.get key = some row ∧ moves action after ∧
        SameStanding after row)
    Law.receptive_anything conducts (Law.stored_anything wellFormed)
    ((Law.stored_anything wellFormed).settled (fun _ _ => id) found) returned
  have stands := event_of_reportedMove reported
  obtain ⟨row, after, foundRow, moved, same⟩ := stored (by rw [stands]; exact nofun)
  refine ⟨row, foundRow, ?_⟩
  rw [same.status, moved event stands]
  exact moved_eq_iff_of_reportedMove reported

/-! ## A suppressed contact -/

/-- A contact stays suppressed. -/
def Law.staysSuppressed (bound suppressed : Nat) : Law :=
  Law.about bound fun key status _ => key = suppressed → status = .suppressed

theorem moved_suppressed (event : StateTransitionEvent) :
    Law.moved .suppressed event = .suppressed := by
  cases event <;> rfl

theorem Law.closed_staysSuppressed (bound suppressed : Nat) :
    (Law.staysSuppressed bound suppressed).Closed where
  clears _ _ _ holds := holds
  leaves key status event holds here := by
    rw [holds here]
    exact moved_suppressed event
  skips key status next holds here := by
    rw [holds here]
    exact moved_suppressed .unsubscribed
  resumes key status next after holds edge here := by
    rw [holds here] at edge
    cases edge
  starts _ _ _ holds := holds
  sends _ _ _ holds here := nomatch holds here
  follows _ _ _ holds := holds
  missing key contact classified _ _ _ row here := by
    rw [row here]
    exact moved_suppressed .needsHuman
  converses key contact classified intent _ _ _ _ _ _ row := by
    have stays : ∀ event, key = suppressed → Law.moved contact.status event = .suppressed := by
      intro event here
      rw [row here]
      exact moved_suppressed event
    intro now campaign
    split
    · refine ⟨stays _, fun _ here => ?_⟩
      rw [stays _ here]
      exact moved_suppressed .needsHuman
    · exact stays _

/-- A stored contact that is suppressed stays so in every serial run, whatever the workers
and the intake do between the operations. -/
theorem Serial.suppressed
    {deployment : Deployment}
    {start world : World}
    {ghost : Heard}
    {key : Nat}
    {contact : Contact}
    (reachable : (system deployment).Reachable start)
    (rests : start.Rests)
    (found : start.database.contacts.get key = some contact)
    (suppressed : contact.status = .suppressed)
    (run : Serial deployment (Law.staysSuppressed start.database.contacts.size key).rules
      (fun world ghost => world = start ∧ ghost = none) (fun _ => True) world ghost) :
    ∃ row, world.database.contacts.get key = some row ∧ row.status = .suppressed := by
  have inside := Table.lt_size_of_get found
  have stored := run.stored (Law.closed_staysSuppressed _ key)
    (fun other beyond here => absurd (here ▸ inside) (Nat.not_lt.mpr beyond))
    (fun _ _ => id) (by
      rintro _ _ ⟨rfl, -⟩
      refine ⟨reachable,
        ⟨(Invariant.of_reachable reachable).current.consistent.toWellFormed, Nat.le_refl _, ?_⟩,
        rests⟩
      rintro other row foundRow rfl
      cases found.symm.trans foundRow
      exact suppressed)
  obtain ⟨row, foundRow⟩ := Table.exists_get_of_lt_size (Nat.lt_of_lt_of_le inside stored.2.1)
  exact ⟨row, foundRow, stored.2.2 key row foundRow rfl⟩

/-! ## Skipped contacts -/

/-- What the claims ask of the standing of a contact. -/
def OnSchedule (contact : Contact) : Prop :=
  Scheduled contact.status ∧ contact.nextActionAt ≠ none

instance (contact : Contact) : Decidable (OnSchedule contact) :=
  inferInstanceAs (Decidable (_ ∧ _))

/-- What is claimed is on schedule. -/
theorem onSchedule_of_claimable
    {database : Database}
    {status : ContactStatus}
    {now cutoff : Instant}
    {contact : Contact}
    (scheduled : Scheduled status)
    (claims : claimable database status now cutoff contact = true) :
    OnSchedule contact := by
  unfold claimable at claims
  simp only [Bool.and_eq_true, beq_iff_eq] at claims
  obtain ⟨⟨⟨rfl, due⟩, -⟩, -⟩ := claims
  refine ⟨scheduled, fun unscheduled => ?_⟩
  rw [unscheduled] at due
  cases due

/-- `send_initial_outreach` on a state of the database, and a commit. -/
def outreachAlone
    (deployment : Deployment)
    (surroundings : Surroundings)
    (key : Nat)
    (contact : Contact)
    (database : Database) :
    Outcome Database Change Signal (Except Failure OutreachAction × List Change) :=
  Process.alone Change.apply Signal.prompt surroundings
    ((do
      let action ← sendInitialOutreach deployment key contact
      commit
      pure action : Program OutreachAction) []) 0 database {}

/-- `send_followup_if_due` on a state of the database, and a commit. -/
def followupAlone
    (deployment : Deployment)
    (surroundings : Surroundings)
    (origin : Nat → SendOrigin)
    (key : Nat)
    (contact : Contact)
    (database : Database) :
    Outcome Database Change Signal (Except Failure (Option OutreachAction) × List Change) :=
  Process.alone Change.apply Signal.prompt surroundings
    ((do
      let action ← sendFollowupIfDue deployment origin key contact
      commit
      pure action : Program (Option OutreachAction)) []) 0 database {}

section Skipped

variable {deployment : Deployment} {surroundings : Surroundings} {key : Nat}
variable {contact : Contact} {database : Database}

/-- The standing of a skipped contact. -/
abbrev SkippedTo
    (contact : Contact)
    (next : Option Instant)
    (after : Contact) : Prop :=
  after.status = Law.moved contact.status .unsubscribed ∧ after.nextActionAt = next

theorem scheduled_moved_unsubscribed (status : ContactStatus) :
    Scheduled (Law.moved status .unsubscribed) ↔ Scheduled status := by
  cases status <;> decide

/-- Initial outreach leaves a skipped contact on the schedule if it was there. -/
theorem onSchedule_of_outreachAlone
    (wellFormed : database.WellFormed)
    (found : database.contacts.get key = some contact)
    (skipped : (outreachAlone deployment surroundings key contact database).value.1 =
      .ok .skippedSuppressed) :
    ∃ row, (outreachAlone deployment surroundings key contact database).store.contacts.get
        key = some row ∧ (OnSchedule row ↔ OnSchedule contact) := by
  have conducts := conducts_committed (@conducts_sendInitialOutreach Law.anything key contact
    deployment Law.closed_anything (fun _ => id) fun _ _ _ => trivial)
  have stored := stored_alone
    (fun (action : OutreachAction) (database : Database) => action = .skippedSuppressed →
      ∃ row after, database.contacts.get key = some row ∧
        SkippedTo contact contact.nextActionAt after ∧ SameStanding after row)
    Law.receptive_anything conducts (Law.stored_anything wellFormed)
    ((Law.stored_anything wellFormed).settled (fun _ _ => id) found).2 skipped
  obtain ⟨row, after, foundRow, ⟨status, next⟩, same⟩ := stored rfl
  refine ⟨row, foundRow, ?_⟩
  unfold OnSchedule
  rw [same.status, same.nextActionAt, status, next, scheduled_moved_unsubscribed]

/-- A follow-up takes a skipped contact off the schedule. -/
theorem not_onSchedule_of_followupAlone
    {origin : Nat → SendOrigin}
    (wellFormed : database.WellFormed)
    (found : database.contacts.get key = some contact)
    (skipped : (followupAlone deployment surroundings origin key contact database).value.1 =
      .ok (some .skippedSuppressed)) :
    ∃ row, (followupAlone deployment surroundings origin key contact database).store.contacts.get
        key = some row ∧ ¬OnSchedule row := by
  have conducts := conducts_committed (@conducts_sendFollowupIfDue Law.anything key contact
    deployment origin Law.closed_anything fun _ => id)
  have stored := stored_alone
    (fun (action : Option OutreachAction) (database : Database) =>
      action = some .skippedSuppressed →
        ∃ row after, database.contacts.get key = some row ∧ SkippedTo contact none after ∧
          SameStanding after row)
    Law.receptive_anything conducts (Law.stored_anything wellFormed)
    ((Law.stored_anything wellFormed).settled (fun _ _ => id) found).2 skipped
  obtain ⟨row, after, foundRow, ⟨-, next⟩, same⟩ := stored rfl
  exact ⟨row, foundRow, fun onSchedule => onSchedule.2 (same.nextActionAt.trans next)⟩

end Skipped

/-- After a reported action the contact is stored with the reported status exactly if it
had the status before or the transition table has the edge, and a suppressed contact stays
suppressed in every serial run. A contact that a follow-up skipped is not on the schedule;
one that initial outreach skipped is exactly if it was. -/
theorem reported_actions_stored
    (deployment : Deployment)
    (start : World)
    (reachable : (system deployment).Reachable start)
    (key : Nat)
    (contact : Contact)
    (found : start.database.contacts.get key = some contact) :
    (∀ surroundings campaign email reference action event status,
      let ended := inboundAlone deployment surroundings key contact campaign email reference
        start.database
      ended.value.1 = .ok action → reportedMove action = some (event, status) →
        ∃ row, ended.store.contacts.get key = some row ∧
          (row.status = status ↔
            contact.status = status ∨ stateTransition contact.status event = some status)) ∧
    (contact.status = .suppressed → start.Rests → ∀ world ghost,
      Serial deployment (Law.staysSuppressed start.database.contacts.size key).rules
        (fun world ghost => world = start ∧ ghost = none) (fun _ => True) world ghost →
      ∃ row, world.database.contacts.get key = some row ∧ row.status = .suppressed) ∧
    (∀ surroundings,
      let ended := outreachAlone deployment surroundings key contact start.database
      ended.value.1 = .ok .skippedSuppressed →
        ∃ row, ended.store.contacts.get key = some row ∧
          (¬OnSchedule row ↔ ¬OnSchedule contact)) ∧
    ∀ surroundings origin,
      let ended := followupAlone deployment surroundings origin key contact start.database
      ended.value.1 = .ok (some .skippedSuppressed) →
        ∃ row, ended.store.contacts.get key = some row ∧ ¬OnSchedule row := by
  have wellFormed := (Invariant.of_reachable reachable).current.consistent.toWellFormed
  refine ⟨?_, ?_, ?_, ?_⟩
  · intro surroundings campaign email reference action event status ended
    exact status_of_inboundAlone wellFormed found
  · intro suppressed rests world ghost
    exact Serial.suppressed reachable rests found suppressed
  · intro surroundings ended skipped
    obtain ⟨row, foundRow, same⟩ := onSchedule_of_outreachAlone wellFormed found skipped
    exact ⟨row, foundRow, not_congr same⟩
  · intro surroundings origin ended
    exact not_onSchedule_of_followupAlone wellFormed found

namespace Sample

/-- An environment in which the contact asks to be left alone. -/
def unsubscribing : Surroundings where
  answer _ signal _ := replies "fourth" [.unsubscribe] signal

end Sample

/-- A contact that replied and then unsubscribes. -/
theorem suppressed_after_reply :
    ∃ start contact, (system Sample.deployment).Reachable start ∧
      start.database.contacts.get 0 = some contact ∧
      ∃ row campaign,
        (inboundAlone Sample.deployment Sample.unsubscribing 0 contact campaign
          (Sample.letter "p@x.test" "<n@x.test>") "second" start.database).value.1 =
            .ok .suppressed ∧
        (inboundAlone Sample.deployment Sample.unsubscribing 0 contact campaign
          (Sample.letter "p@x.test" "<n@x.test>") "second" start.database).store.contacts.get
            0 = some row ∧ row.status = .suppressed := by
  obtain ⟨start, reachable, holds⟩ := reachable_of_any Sample.deployment
    (Sample.replied [.question])
    (fun start => (start.database.contacts.get 0).any fun contact =>
      (start.database.campaigns.get contact.campaignId).any fun campaign =>
        contact.status == .replied &&
          (inboundAlone Sample.deployment Sample.unsubscribing 0 contact campaign
            (Sample.letter "p@x.test" "<n@x.test>") "second"
            start.database).value.1.toOption == some .suppressed) (by decide +kernel)
  obtain ⟨contact, found, rest⟩ := (Option.any_eq_true _ _).mp holds
  obtain ⟨campaign, -, facts⟩ := (Option.any_eq_true _ _).mp rest
  simp only [Bool.and_eq_true, beq_iff_eq] at facts
  have returned := Sample.ok_of_toOption facts.2
  obtain ⟨row, foundRow, agrees⟩ := (reported_actions_stored Sample.deployment start reachable 0
    contact found).1 Sample.unsubscribing campaign (Sample.letter "p@x.test" "<n@x.test>")
    "second" .suppressed .unsubscribed .suppressed returned rfl
  refine ⟨start, contact, reachable, found, row, campaign, returned, foundRow, ?_⟩
  refine agrees.mpr (.inr ?_)
  rw [facts.1]
  rfl

/-- An active contact that unsubscribes is reported as suppressed and stays active. -/
theorem suppressed_reported_of_active :
    ∃ start row, (system Sample.deployment).Reachable start ∧
      (webhookInbound Sample.deployment Sample.unsubscribing "acme"
        (Sample.letter "p@x.test" "<m@x.test>") start.database).value.1 =
          .ok (.matched 0 .suppressed) ∧
      (webhookInbound Sample.deployment Sample.unsubscribing "acme"
        (Sample.letter "p@x.test" "<m@x.test>") start.database).store.contacts.get 0 =
          some row ∧ row.status ≠ .suppressed := by
  obtain ⟨start, reachable, holds⟩ := reachable_of_any Sample.deployment Sample.contacted
    (fun start =>
      (webhookInbound Sample.deployment Sample.unsubscribing "acme"
        (Sample.letter "p@x.test" "<m@x.test>") start.database).value.1.toOption ==
          some (.matched 0 .suppressed) &&
      ((webhookInbound Sample.deployment Sample.unsubscribing "acme"
        (Sample.letter "p@x.test" "<m@x.test>") start.database).store.contacts.get 0).any
          fun row => row.status != .suppressed) (by decide +kernel)
  simp only [Bool.and_eq_true, beq_iff_eq] at holds
  obtain ⟨row, found, different⟩ := (Option.any_eq_true _ _).mp holds.2
  exact ⟨start, row, reachable, Sample.ok_of_toOption holds.1, found, bne_iff_ne.mp different⟩

end MailerAgent
