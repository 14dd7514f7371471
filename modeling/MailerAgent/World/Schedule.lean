import MailerAgent.Native.ApiConduct
import MailerAgent.World.Serial
import MailerAgent.World.Tenants

/-!
# Scheduled contacts

A contact with a next action is acted on only while its status is one that the
scheduler claims. A reply moves the status and sets the date without looking at each
other, and a resumed contact has no date at all.
-/

namespace MailerAgent

open Concurrent Relational Mail Native Program

/-! ## Replies that leave no date behind -/

/-- The statuses that the jobs of the scheduler claim. -/
def Scheduled (status : ContactStatus) : Prop :=
  status = .new ∨ status = .active

instance (status : ContactStatus) : Decidable (Scheduled status) :=
  inferInstanceAs (Decidable (_ ∨ _))

/-- A reply that continues the conversation. -/
structure ContinuesConversation (intent : SemanticIntent) : Prop where
  stays : .unsubscribe ∉ intent.intents
  interested : .notInterested ∉ intent.intents
  present : .outOfOffice ∉ intent.intents

/-- A reply after which a human acts: no time was asked for, and the conversation is
active. -/
structure SchedulesNothing (intent : SemanticIntent) : Prop where
  untimed : .timingConstraint ∈ intent.intents → extractRequestedTiming intent = none
  soon : intent.urgency ≠ .longTerm
  engaged : .positiveInterest ∈ intent.intents ∨ .meetingRequest ∈ intent.intents ∨
    .pricingRequest ∈ intent.intents

theorem SchedulesNothing.rescheduleAfterReply
    {intent : SemanticIntent}
    (schedulesNothing : SchedulesNothing intent)
    (now : Instant)
    (campaign : Campaign) :
    rescheduleAfterReply now campaign intent = .ok none := by
  have untimed : (if .timingConstraint ∈ intent.intents then extractRequestedTiming intent
      else none) = none := by
    split
    · next constrained => exact schedulesNothing.untimed constrained
    · rfl
  unfold Native.rescheduleAfterReply
  dsimp only
  rw [untimed]
  dsimp only
  rw [if_neg schedulesNothing.soon, if_pos schedulesNothing.engaged]

/-- A classification after which no date is set, or the contact keeps a status that the
scheduler claims. -/
structure LeavesTidy
    (contact : Contact)
    (classified : ClassificationResult) : Prop where
  missing : classified.success = true → classified.semanticIntent = none →
    contact.nextActionAt = none
  continuing : classified.success = true → ∀ intent, classified.semanticIntent = some intent →
    ContinuesConversation intent → SchedulesNothing intent ∨
      Scheduled (Law.moved contact.status (inferEventFromSemanticIntent intent))

/-- Every contact with a next action has a status that the scheduler claims. The
classifications are those after which this can stay so, and a reply that a human has to
draft was given no date. -/
def Law.tidy : Law where
  bound := 0
  holds _ status next := next ≠ none → Scheduled status
  admits _ contact classified := LeavesTidy contact classified
  silent classified := ∀ intent, classified.semanticIntent = some intent →
    SchedulesNothing intent

theorem moved_unsubscribed_of_scheduled
    {status : ContactStatus}
    (scheduled : Scheduled status) :
    Law.moved status .unsubscribed = status := by
  rcases scheduled with rfl | rfl <;> rfl

theorem eq_active_of_manualResume
    {status after : ContactStatus}
    (edge : stateTransition status .manualResume = some after) :
    after = .active := by
  cases status <;> cases edge <;> rfl

theorem Law.tidy_closed : Law.tidy.Closed where
  clears _ _ _ _ := fun impossible => (impossible rfl).elim
  leaves _ _ _ _ := fun impossible => (impossible rfl).elim
  skips key status next holds dated := by
    rw [moved_unsubscribed_of_scheduled (holds dated)]
    exact holds dated
  resumes _ _ _ _ _ edge _ := .inr (eq_active_of_manualResume edge)
  starts _ _ _ _ _ := .inl rfl
  sends _ _ _ _ _ := .inr rfl
  follows _ _ _ _ _ := .inr rfl
  missing _ _ _ admits success missing _ dated :=
    (dated (admits.missing success missing)).elim
  converses key contact classified intent admits success meant stays interested present
      row := by
    intro now campaign
    rcases admits.continuing success intent meant ⟨stays, interested, present⟩ with
      nothing | scheduled
    · rw [nothing.rescheduleAfterReply]
      exact ⟨fun impossible => (impossible rfl).elim,
        fun _ impossible => (impossible rfl).elim⟩
    · cases chosen : rescheduleAfterReply now campaign intent with
      | error failure => exact fun _ => scheduled
      | ok date =>
          refine ⟨fun _ => scheduled, fun silent => ?_⟩
          cases chosen.symm.trans ((silent intent meant).rescheduleAfterReply now campaign)
          exact fun impossible => (impossible rfl).elim

theorem Law.tidy_open : Law.tidy.Open :=
  fun _ _ _ => .inl rfl

/-- Nothing is stored, and nothing was heard. -/
def Empty
    (deployment : Deployment)
    (world : World)
    (ghost : Heard) : Prop :=
  (system deployment).initial world ∧ ghost = none

theorem Empty.begun
    {deployment : Deployment}
    {law : Law}
    {world : World}
    {ghost : Heard}
    (unbound : law.bound = 0)
    (empty : Empty deployment world ghost) :
    (system deployment).Reachable world ∧ law.Stored world.database ∧ world.Rests := by
  refine ⟨.of_initial empty.1, ?_⟩
  obtain ⟨⟨clock, rfl⟩, -⟩ := empty
  refine ⟨⟨Database.wellFormed_empty, ?_, fun key contact found => ?_⟩,
    fun number running found => ?_⟩
  · rw [unbound]
    exact Nat.zero_le _
  · cases found
  · cases found

/-! ## Pause and resume -/

/-- An operation on a state of the database. -/
def operationAlone
    (deployment : Deployment)
    (surroundings : Surroundings)
    (operation : Operation)
    (database : Database) :
    Outcome Database Change Signal (Except Failure Unit × List Change) :=
  Process.alone Change.apply Signal.prompt surroundings
    (operation.program deployment []) 0 database {}

/-- A law about the standing of contacts, whatever is answered. -/
def Law.about
    (bound : Nat)
    (holds : Nat → ContactStatus → Option Instant → Prop) : Law where
  bound := bound
  holds := holds
  admits _ _ _ := True
  silent _ := True

theorem Law.receptive_about
    (bound : Nat)
    (holds : Nat → ContactStatus → Option Instant → Prop) :
    (Law.about bound holds).Receptive :=
  ⟨fun _ _ _ => trivial, fun _ => trivial⟩

/-- The law that demands nothing. -/
def Law.anything : Law :=
  Law.about 0 fun _ _ _ => True

theorem Law.receptive_anything : Law.anything.Receptive :=
  Law.receptive_about _ _

theorem Law.stored_anything
    {database : Database}
    (wellFormed : database.WellFormed) :
    Law.anything.Stored database :=
  ⟨wellFormed, Nat.zero_le _, fun _ _ _ => trivial⟩

/-- What a manual action that returns leaves of the contact. -/
theorem acted_alone
    {law : Law}
    {deployment : Deployment}
    {surroundings : Surroundings}
    {operation : Operation}
    {organization verb advice : String}
    {contactId : Nat}
    {event : StateTransitionEvent}
    {patch : ContactPatch}
    {database : Database}
    (receptive : law.Receptive)
    (unpinned : ∀ key, law.Free key)
    (still : patch.status = none)
    (allowed : ∀ status next after, law.holds contactId status next →
      stateTransition status event = some after →
      law.holds contactId after (patch.nextActionAt.getD next))
    (complies : law.Stored database)
    (program : operation.program deployment =
      moveContact organization contactId event verb advice patch)
    (returned : (operationAlone deployment surroundings operation database).value.1 = .ok ()) :
    law.Stored (operationAlone deployment surroundings operation database).store ∧
      Acted contactId event patch
        (operationAlone deployment surroundings operation database).store := by
  have moves := @conducts_movedContact law organization contactId event verb advice patch
    (unpinned contactId) still allowed
  rw [← program] at moves
  have clean := @Law.Stored.clean law unpinned ⟨database, some database, none⟩ complies rfl
  exact stored_alone
    (fun _ database => law.Stored database ∧ Acted contactId event patch database)
    receptive moves complies clean.idle returned

/-- A contact that was paused and resumed is active and has no next action. -/
theorem unscheduled_of_resumed
    {deployment : Deployment}
    {before after : Surroundings}
    {organization : String}
    {contactId : Nat}
    {database : Database}
    (wellFormed : database.WellFormed)
    (paused : (operationAlone deployment before
      (.pauseContact organization contactId) database).value.1 = .ok ())
    (resumed : (operationAlone deployment after (.resumeContact organization contactId)
      (operationAlone deployment before (.pauseContact organization contactId)
        database).store).value.1 = .ok ()) :
    ∃ contact, (operationAlone deployment after (.resumeContact organization contactId)
        (operationAlone deployment before (.pauseContact organization contactId)
          database).store).store.contacts.get contactId = some contact ∧
      contact.status = .active ∧ contact.nextActionAt = none := by
  let unscheduled := Law.about 0 fun key _ next => key = contactId → next = none
  obtain ⟨stored, contact, row, found, -, next⟩ := @acted_alone Law.anything deployment before
    (.pauseContact organization contactId) organization _ _ contactId .manualPause
    { nextActionAt := some none } database Law.receptive_anything (fun _ _ => id) rfl
    (fun _ _ _ _ _ => trivial) (Law.stored_anything wellFormed) rfl paused
  have between : unscheduled.Stored (operationAlone deployment before
      (.pauseContact organization contactId) database).store := by
    refine ⟨stored.1, Nat.zero_le _, ?_⟩
    rintro key other foundOther rfl
    cases found.symm.trans foundOther
    exact next
  obtain ⟨stays, moved, last, foundLast, edge, -⟩ := @acted_alone unscheduled deployment after
    (.resumeContact organization contactId) organization _ _ contactId .manualResume {} _
    (Law.receptive_about _ _) (fun _ _ => id) rfl (fun _ _ _ still _ => still) between rfl resumed
  exact ⟨last, foundLast, eq_active_of_manualResume edge, stays.2.2 contactId last foundLast rfl⟩

/-- In every run of native operations one after another, between which the workers and the
intake act, and in which each reply leaves the contact tidy, a contact with a next action has
a status that the scheduler claims. Pause and resume never leave a next action. -/
theorem scheduled_contacts_claimable (deployment : Deployment) :
    (∀ world ghost,
      Serial deployment Law.tidy.rules (Empty deployment) (fun _ => True) world ghost →
      ∀ key contact, world.database.contacts.get key = some contact →
        contact.nextActionAt ≠ none → Scheduled contact.status) ∧
    ∀ start, (system deployment).Reachable start →
      ∀ before after organization contactId,
        let paused := operationAlone deployment before
          (.pauseContact organization contactId) start.database
        let resumed := operationAlone deployment after
          (.resumeContact organization contactId) paused.store
        paused.value.1 = .ok () → resumed.value.1 = .ok () →
          ∃ contact, resumed.store.contacts.get contactId = some contact ∧
            contact.status = .active ∧ contact.nextActionAt = none := by
  constructor
  · intro world ghost run key contact found
    have stored := run.stored Law.tidy_closed Law.tidy_open (fun _ _ => id)
      fun _ _ empty => empty.begun rfl
    exact stored.2.2 key contact found
  · intro start reachable before after organization contactId paused resumed
    exact unscheduled_of_resumed
      (Invariant.of_reachable reachable).current.consistent.toWellFormed

namespace Sample

/-- A classifier that finds certain intents, with a planner and new handles. -/
def replies
    (reference : String)
    (intents : List IntentType) :
    (signal : Signal) → signal.Reply
  | .planReply _ _ => .ok { eligible := false, closing := false }
  | .newReference => reference
  | signal => understands intents signal

/-- A contact to whom the first message was sent. -/
def contacted : List Action :=
  perform 0 (.createCampaign "acme" campaign) answer 3 ++ outreach "p@x.test"

/-- The contact replies, and a draft waits for approval. -/
def replied (intents : List IntentType) : List Action :=
  contacted ++
    perform 5 (.receiveInboundEmail "acme" (letter "p@x.test" "<m@x.test>"))
      (replies "second" intents) 13 ++
    List.replicate 11 (.native 5 { answer := replies "third" intents })

/-- An environment that answers like the sample. -/
def quietly : Surroundings where
  answer _ signal _ := answer signal

end Sample

/-- An active contact that is paused and resumed. -/
theorem unscheduled_after_resume :
    ∃ start, (system Sample.deployment).Reachable start ∧
      ∃ contact, (operationAlone Sample.deployment Sample.quietly (.resumeContact "acme" 0)
          (operationAlone Sample.deployment Sample.quietly (.pauseContact "acme" 0)
            start.database).store).store.contacts.get 0 = some contact ∧
        contact.status = .active ∧ contact.nextActionAt = none := by
  obtain ⟨start, reachable, holds⟩ := reachable_of_any Sample.deployment Sample.contacted
    (fun start =>
      let paused := operationAlone Sample.deployment Sample.quietly (.pauseContact "acme" 0)
        start.database
      paused.value.1.toOption == some () &&
        (operationAlone Sample.deployment Sample.quietly (.resumeContact "acme" 0)
          paused.store).value.1.toOption == some ()) (by decide +kernel)
  simp only [Bool.and_eq_true, beq_iff_eq] at holds
  exact ⟨start, reachable,
    (scheduled_contacts_claimable Sample.deployment).2 start reachable Sample.quietly
      Sample.quietly "acme" 0 (Sample.ok_of_toOption holds.1) (Sample.ok_of_toOption holds.2)⟩

/-- A contact that asks a question is given a date that no job looks for, and a contact
whose cadence is not exhausted has none after it was paused and resumed. -/
theorem schedule_stranded :
    (∃ world contact, (system Sample.deployment).Reachable world ∧
      world.database.contacts.get 0 = some contact ∧ contact.nextActionAt ≠ none ∧
      ¬Scheduled contact.status) ∧
    ∃ start contact campaign, (system Sample.deployment).Reachable start ∧
      (operationAlone Sample.deployment Sample.quietly (.resumeContact "acme" 0)
        (operationAlone Sample.deployment Sample.quietly (.pauseContact "acme" 0)
          start.database).store).store.contacts.get 0 = some contact ∧
      start.database.campaigns.get contact.campaignId = some campaign ∧
      contact.followUpIndex < campaign.followUpDays.length ∧ contact.nextActionAt = none := by
  constructor
  · obtain ⟨world, reachable, holds⟩ := reachable_of_any Sample.deployment
      (Sample.replied [.question])
      (fun world => (world.database.contacts.get 0).any fun contact =>
        contact.nextActionAt.isSome && !decide (Scheduled contact.status)) (by decide +kernel)
    obtain ⟨contact, found, stranded⟩ := (Option.any_eq_true _ _).mp holds
    simp only [Bool.and_eq_true, Bool.not_eq_true', decide_eq_false_iff_not] at stranded
    exact ⟨world, contact, reachable, found, Option.isSome_iff_ne_none.mp stranded.1,
      stranded.2⟩
  · obtain ⟨start, reachable, holds⟩ := reachable_of_any Sample.deployment Sample.contacted
      (fun start =>
        ((operationAlone Sample.deployment Sample.quietly (.resumeContact "acme" 0)
          (operationAlone Sample.deployment Sample.quietly (.pauseContact "acme" 0)
            start.database).store).store.contacts.get 0).any fun contact =>
          (start.database.campaigns.get contact.campaignId).any fun campaign =>
            contact.followUpIndex < campaign.followUpDays.length &&
              contact.nextActionAt.isNone) (by decide +kernel)
    obtain ⟨contact, found, rest⟩ := (Option.any_eq_true _ _).mp holds
    obtain ⟨campaign, foundCampaign, facts⟩ := (Option.any_eq_true _ _).mp rest
    simp only [Bool.and_eq_true, decide_eq_true_eq, Option.isNone_iff_eq_none] at facts
    exact ⟨start, contact, campaign, reachable, found, foundCampaign, facts⟩

end MailerAgent
