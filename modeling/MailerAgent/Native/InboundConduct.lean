import MailerAgent.Native.OutreachConduct

/-!
# Inbound handlers keep the standing of contacts

A contact is classified as the transaction shows it, so what a law admits of a
classification is about the standing that the handler goes on to change.
-/

namespace MailerAgent
namespace Native

open Concurrent Relational Mail Program

variable {Value Result : Type}

/-- The event that an action reports. -/
def InboundAction.event : InboundAction → Option StateTransitionEvent
  | suppressed => some .unsubscribed
  | closedLost => some .notInterested
  | needsReviewClassificationFailed => some .needsHuman
  | needsReviewMissingIntent => some .needsHuman
  | _ => none

/-! ## Branches of a reply -/

section Branches

variable {law : Law} {key : Nat} {contact : Contact} {deployment : Deployment}
variable {email : InboundEmail} {classified : ClassificationResult}

/-- A contact whose message was classified. -/
structure Admitted
    (law : Law)
    (key : Nat)
    (contact : Contact)
    (classified : ClassificationResult)
    (desk : Desk Database Heard) : Prop where
  heard : desk.ghost = some classified
  admits : desk.view ≠ none → ∃ stored, SameStanding contact stored ∧
    law.admits key stored classified

/-- A contact about to be changed because of its classified message. -/
structure Conversing
    (law : Law)
    (key : Nat)
    (contact : Contact)
    (classified : ClassificationResult)
    (pending : List Change)
    (desk : Desk Database Heard) : Prop where
  held : Held law key contact pending desk
  admitted : Admitted law key contact classified desk

/-- A reported action, with the status that the session would store. -/
abbrev Reported
    (law : Law)
    (key : Nat)
    (contact : Contact)
    (action : InboundAction) : Assertion Heard :=
  Shows law key (action.event ≠ none) fun after =>
    ∀ event, action.event = some event → after.status = Law.moved contact.status event

/-- An action that stands for no transition claims nothing about the status. -/
theorem reported_quiet
    {action : InboundAction}
    (quiet : action.event = none)
    {pending : List Change}
    {desk : Desk Database Heard}
    (orderly : Orderly law pending desk) :
    Reported law key contact action pending desk :=
  shows_unclaimed (fun reported => reported quiet) orderly

/-- A contact that was moved by the event of the action is reported truly. -/
theorem reported_moved
    {action : InboundAction}
    {event : StateTransitionEvent}
    {after : Contact}
    (stands : action.event = some event)
    (status : after.status = Law.moved contact.status event)
    {pending : List Change}
    {desk : Desk Database Heard}
    (held : Held law key after pending desk) :
    Reported law key contact action pending desk := by
  refine ⟨held.orderly, fun _ => ⟨after, fun other same => ?_, held⟩⟩
  cases stands.symm.trans same
  exact status

/-- An unsubscribed contact is moved along its edge, if it has one. -/
theorem conducts_handleUnsubscribe
    (closed : law.Closed)
    (free : law.Free key) :
    Conducts law (Held law key contact) (handleUnsubscribe key contact)
      fun after pending desk =>
        after.status = Law.moved contact.status .unsubscribed ∧
          Held law key after pending desk := by
  refine Performs.bind (conducts_look aborts_held) fun organization => ?_
  refine Performs.bind (conducts_look aborts_held) fun existing => ?_
  have leaves := @conducts_unscheduled law key contact { nextActionAt := some none } closed free
    .unsubscribed rfl rfl
  refine Performs.ite (fun _ => ?_) fun _ => leaves
  refine Performs.bind (Performs.stage fun _ _ held => ?_) fun _ => leaves
  exact held.stage trivial

/-- A contact of the integration that was written to becomes active. -/
theorem conducts_promoteIfSent (closed : law.Closed) :
    Conducts law (Leaving law key contact) (promoteIfSent key contact)
      fun promoted => Leaving law key promoted := by
  refine Performs.ite (fun _ => ?_) fun _ => Performs.pure fun _ _ => id
  refine Performs.bind (conducts_look aborts_focus) fun sent => ?_
  refine Performs.ite (fun _ => ?_) fun _ => Performs.pure fun _ _ => id
  exact Performs.bind (conducts_leave closed .initialSent) fun _ => Performs.pure fun _ _ => id

/-- The transitions of an integration's contact keep the law. -/
theorem conducts_advanceIntegrationContact
    {event : StateTransitionEvent}
    (closed : law.Closed) :
    Conducts law (Leaving law key contact) (advanceIntegrationContact key contact event)
      fun advanced => Leaving law key advanced := by
  refine Performs.bind (conducts_promoteIfSent closed) fun promoted => ?_
  refine Performs.bind (conducts_leave closed event) fun moved => ?_
  refine Performs.ite (fun _ => Performs.pure fun _ _ => id) fun _ => ?_
  refine Performs.bind (conducts_leave closed .replyReceived) fun replied => ?_
  refine Performs.ite (fun _ => ?_) fun _ => Performs.pure fun _ _ => id
  exact Performs.bind (conducts_leave closed event) fun _ => Performs.pure fun _ _ => id

/-- What follows an automatic reply keeps the law. -/
theorem respects_afterAutomaticReply
    {result : SendResult}
    (closed : law.Closed)
    (free : law.Free key) :
    Respects law (Held law key contact) (afterAutomaticReply key contact result) := by
  refine Performs.ite (fun _ => ?_) fun _ => Performs.ite (fun _ => ?_) fun _ => ?_
  · refine Performs.bind (conducts_utcnow stores_held) fun sentAt => ?_
    exact (respects_assign ⟨rfl, rfl⟩).strengthen fun _ _ held => held.orderly
  · exact respects_escalateUnknown closed free
  · exact Performs.pure fun _ _ held => held.orderly

theorem respects_addMessage {message : Message} :
    Respects law (Orderly law) (addMessage message) :=
  conducts_addMessage stores_orderly fun _ _ _ orderly => orderly.stage trivial

/-- An action that reports no event. -/
abbrev Quiet
    (law : Law)
    (action : InboundAction) : Assertion Heard :=
  fun pending desk => action.event = none ∧ Orderly law pending desk

/-- Sending or holding a reply reports an action without a transition. -/
theorem conducts_sendOrHoldReply
    {campaign : Campaign}
    {plan : ReplyPlan}
    {draft : Draft}
    (closed : law.Closed)
    (free : law.Free key) :
    Conducts law (Held law key contact)
      (sendOrHoldReply deployment key contact campaign email plan draft) (Quiet law) := by
  refine Performs.bind (conducts_look aborts_held) fun suppressed => ?_
  refine Performs.ite (fun _ => ?_) fun _ => ?_
  · refine Performs.bind (conducts_sendEmail stores_held fun _ _ held => held.orderly)
      fun result => ?_
    refine Performs.bind (respects_afterAutomaticReply closed free) fun _ => ?_
    exact Performs.bind respects_addMessage fun _ => Performs.pure fun _ _ orderly =>
      ⟨rfl, orderly⟩
  · refine Performs.bind (conducts_addMessageHeld) fun _ => ?_
    exact Performs.pure fun _ _ held => ⟨rfl, held.orderly⟩

/-- A contact whose next action was chosen after its reply. -/
structure Rescheduled
    (law : Law)
    (key : Nat)
    (contact : Contact)
    (classified : ClassificationResult)
    (pending : List Change)
    (desk : Desk Database Heard) : Prop where
  held : Held law key contact pending desk
  heard : desk.ghost = some classified
  silent : desk.view ≠ none → law.silent classified →
    law.holds key (Law.moved contact.status .needsHuman) contact.nextActionAt

/-- The committed contacts comply while one is rescheduled. -/
theorem stores_rescheduled : Assertion.Stores law (Rescheduled law key contact classified) :=
  fun _ _ rescheduled => rescheduled.held.orderly.store

/-- Drafting keeps the law, and a contact without a draft is moved to a human. -/
theorem conducts_draftAndMaybeSendReply
    {campaign : Campaign}
    {intent : SemanticIntent}
    (closed : law.Closed)
    (free : law.Free key) :
    Conducts law (Rescheduled law key contact classified)
      (draftAndMaybeSendReply deployment key contact campaign email intent) (Quiet law) := by
  refine Performs.bind (conducts_ask (fun _ _ => rfl) stores_rescheduled) fun _ => ?_
  refine Performs.bind (conducts_ask (fun _ _ => rfl) stores_rescheduled) fun planned => ?_
  change Except String ReplyPlan at planned
  cases planned with
  | error name => exact Performs.raise fun _ _ rescheduled => rescheduled.held.orderly
  | ok plan =>
      let Drafted : DraftResult → Assertion Heard := fun drafted pending desk =>
        Held law key contact pending desk ∧
          (drafted = .contextualFallbackUnavailable → desk.view ≠ none →
            law.holds key (Law.moved contact.status .needsHuman) contact.nextActionAt)
      have drafted : Conducts law (Rescheduled law key contact classified)
          (ask (.draftMessage key (if plan.closing then .closing else .reply))) Drafted := by
        refine Performs.ask fun pending desk rescheduled reply hears => ?_
        refine ⟨rescheduled.held.orderly.store, rescheduled.held, ?_⟩
        rintro rfl viewing
        refine rescheduled.silent viewing ?_
        cases closing : plan.closing with
        | true =>
            rw [closing] at hears
            exact hears classified rescheduled.heard
        | false =>
            rw [closing] at hears
            exact hears classified rescheduled.heard
      refine Performs.bind drafted fun drafted => ?_
      change DraftResult at drafted
      cases drafted with
      | raised name => exact Performs.raise fun _ _ holds => holds.1.orderly
      | drafted draft =>
          exact (conducts_sendOrHoldReply closed free).strengthen fun _ _ holds => holds.1
      | contextualFallbackUnavailable =>
          have moved : Respects law (Drafted .contextualFallbackUnavailable)
              (transitionContactState key contact .needsHuman) :=
            (respects_transition free .needsHuman).strengthen fun pending desk holds =>
              ⟨holds.1.focus.editing, holds.1.current, holds.2 rfl⟩
          exact Performs.bind moved fun _ => Performs.pure fun _ _ orderly => ⟨rfl, orderly⟩

/-- What a continuing reply makes of a contact. -/
theorem Conversing.continues
    {intent : SemanticIntent}
    (closed : law.Closed)
    (success : classified.success = true)
    (meant : classified.semanticIntent = some intent)
    (stays : .unsubscribe ∉ intent.intents)
    (interested : .notInterested ∉ intent.intents)
    (present : .outOfOffice ∉ intent.intents)
    {pending : List Change}
    {desk : Desk Database Heard}
    (conversing : Conversing law key contact classified pending desk) :
    Focus law key contact
      (law.Continues key (Law.moved contact.status (inferEventFromSemanticIntent intent))
        contact.nextActionAt classified intent) pending desk where
  editing := conversing.held.focus.editing
  current := conversing.held.current
  fact viewing := by
    obtain ⟨stored, same, admits⟩ := conversing.admitted.admits viewing
    have row : law.row key stored := Law.row_congr same (conversing.held.focus.fact viewing)
    have continues := closed.converses key stored classified intent admits success meant stays
      interested present row
    rw [same.status, same.nextActionAt] at continues
    exact continues

/-- A conversation that goes on is moved and dated as the law allows. -/
theorem conducts_continueConversation
    {loaded : Option Campaign}
    {intent : SemanticIntent}
    (owned : ∃ campaign, loaded = some campaign)
    (closed : law.Closed)
    (free : law.Free key)
    (success : classified.success = true)
    (meant : classified.semanticIntent = some intent)
    (stays : .unsubscribe ∉ intent.intents)
    (interested : .notInterested ∉ intent.intents)
    (present : .outOfOffice ∉ intent.intents) :
    Conducts law (Conversing law key contact classified)
      (continueConversation deployment key contact loaded email intent) (Quiet law) := by
  obtain ⟨campaign, rfl⟩ := owned
  let heard : Desk Database Heard → Prop := fun desk => desk.ghost = some classified
  let Continuing : Contact → Assertion Heard := fun moved pending desk =>
    Focus law key moved
      (law.Continues key moved.status moved.nextActionAt classified intent) pending desk ∧
        heard desk
  have transition : Conducts law (Conversing law key contact classified)
      (transitionContactState key contact (inferEventFromSemanticIntent intent))
      fun moved => Continuing moved.1 := by
    have moves : Conducts law
        (fun pending desk => Focus law key contact
          (law.Continues key (Law.moved contact.status (inferEventFromSemanticIntent intent))
            contact.nextActionAt classified intent) pending desk ∧ heard desk)
        (transitionContactState key contact (inferEventFromSemanticIntent intent)) _ :=
      conducts_transitionKeeping heard _
    refine (moves.strengthen fun pending desk conversing => ?_).weaken ?_ fun _ _ _ => id
    · exact ⟨conversing.continues closed success meant stays interested present,
        conversing.admitted.heard⟩
    · rintro moved pending desk ⟨effect, focus, same⟩
      refine ⟨focus.weaken fun continues => ?_, same⟩
      rw [effect.status, effect.nextActionAt]
      exact continues
  refine Performs.bind transition fun moved => ?_
  refine Performs.bind (Performs.required (fun _ present _ _ holds => ⟨present, holds⟩)
    fun absent => by cases absent) fun campaign => Performs.given fun _ => ?_
  refine Performs.bind (conducts_utcnow fun _ _ holds => holds.1.editing.store) fun now => ?_
  let Dated : Option Instant → Assertion Heard := fun date pending desk =>
    Focus law key moved.1 (law.holds key moved.1.status date ∧
      (law.silent classified →
        law.holds key (Law.moved moved.1.status .needsHuman) date)) pending desk ∧ heard desk
  have dated : Conducts law (Continuing moved.1)
      (ofExcept (rescheduleAfterReply now campaign intent)) Dated := by
    refine Performs.ofExcept ?_ ?_
    · rintro date scheduled pending desk ⟨focus, same⟩
      refine ⟨focus.weaken fun continues => ?_, same⟩
      have allowed := continues now campaign
      rw [scheduled] at allowed
      exact allowed
    · rintro failure overflow pending desk ⟨focus, -⟩
      refine (focus.held free fun continues => ?_).orderly
      have allowed := continues now campaign
      rw [overflow] at allowed
      exact allowed
  refine Performs.bind dated fun date => ?_
  have rescheduled : Conducts law (Dated date)
      (assign key moved.1 { nextActionAt := some date })
      fun after => Rescheduled law key after classified := by
    refine (conducts_assignKeeping heard { nextActionAt := some date }).weaken ?_
      fun _ _ _ => id
    rintro after pending desk ⟨patched, focus, same⟩
    have status : after.status = moved.1.status := patched.status
    have next : after.nextActionAt = date := patched.nextActionAt
    refine ⟨focus.held free fun allowed => ?_, same, fun viewing silent => ?_⟩
    · unfold Law.row
      rw [status, next]
      exact allowed.1
    · rw [status, next]
      exact (focus.fact viewing).2 silent
  exact Performs.bind rescheduled fun after => conducts_draftAndMaybeSendReply closed free

/-- Each branch on the intents reports the transition that it has made. -/
theorem conducts_applyIntent
    {loaded : Option Campaign}
    {intent : SemanticIntent}
    (owned : ∃ campaign, loaded = some campaign)
    (closed : law.Closed)
    (free : law.Free key)
    (success : classified.success = true)
    (meant : classified.semanticIntent = some intent) :
    Conducts law (Conversing law key contact classified)
      (applyIntent deployment key contact loaded email intent) (Reported law key contact) := by
  have toHeld : ∀ pending desk, Conversing law key contact classified pending desk →
      Held law key contact pending desk := fun _ _ conversing => conversing.held
  refine Performs.ite (fun _ => ?_) fun stays => Performs.ite (fun _ => ?_) fun interested =>
    Performs.ite (fun _ => ?_) fun present => Performs.ite (fun _ => ?_) fun _ => ?_
  · refine Performs.bind ((conducts_handleUnsubscribe closed free).strengthen toHeld)
      fun after => Performs.given fun status => ?_
    exact Performs.pure fun _ _ => reported_moved rfl status
  · refine (conducts_leaveSchedule closed free .notInterested rfl rfl fun after status _ =>
      ?_).strengthen toHeld
    exact Performs.pure fun _ _ => reported_moved rfl status
  · exact Performs.pure fun _ _ conversing => reported_quiet rfl conversing.held.orderly
  · refine Performs.bind ((conducts_advanceIntegrationContact closed).strengthen
      fun _ _ conversing => conversing.held.leaving closed) fun advanced => ?_
    refine Performs.bind (conducts_unschedule free rfl rfl) fun _ => ?_
    exact Performs.pure fun _ _ unscheduled => reported_quiet rfl unscheduled.2.orderly
  · exact (conducts_continueConversation owned closed free success meant stays interested
      present).weaken (fun _ _ _ quiet => reported_quiet quiet.1 quiet.2) fun _ _ _ => id

/-- The classification admits every contact of the same standing. -/
theorem Admitted.of_same
    {after : Contact}
    {desk : Desk Database Heard}
    (same : SameStanding contact after)
    (admitted : Admitted law key contact classified desk) :
    Admitted law key after classified desk where
  heard := admitted.heard
  admits viewing := by
    obtain ⟨stored, sameStored, admits⟩ := admitted.admits viewing
    exact ⟨stored, same.symm.trans sameStored, admits⟩

/-- Recording the classification leaves the standing of the contact. -/
theorem conducts_recordClassification {reference : String} :
    Conducts law (Conversing law key contact classified)
      (recordClassification key contact reference classified)
      fun after pending desk => SameStanding contact after ∧
        Conversing law key after classified pending desk := by
  have staged : Conducts law (Conversing law key contact classified)
      (stage (.interpretMessage key reference (interpretationOf classified)))
      fun _ pending desk =>
        Held law key contact pending desk ∧ Admitted law key contact classified desk :=
    Performs.stage fun _ _ conversing =>
      ⟨conversing.held.stage trivial, conversing.admitted⟩
  refine Performs.bind staged fun _ => ?_
  split
  · refine (conducts_assignNeutral (Admitted law key contact classified) ⟨rfl, rfl⟩).weaken ?_
      fun _ _ _ => id
    rintro after pending desk ⟨same, held, admitted⟩
    exact ⟨same, held, admitted.of_same same⟩
  · exact Performs.pure fun _ _ ⟨held, admitted⟩ => ⟨.refl contact, held, admitted⟩

/-- Each branch on the classification reports what it has done. -/
theorem conducts_applyClassification
    {loaded : Option Campaign}
    (owned : ∃ campaign, loaded = some campaign)
    (closed : law.Closed)
    (free : law.Free key) :
    Conducts law (Conversing law key contact classified)
      (applyClassification deployment key contact loaded email classified)
      (Reported law key contact) := by
  refine Performs.ite (fun _ => ?_) fun succeeded => ?_
  · refine (conducts_leaveSchedule closed free .needsHuman rfl rfl fun after status _ =>
      ?_).strengthen fun _ _ conversing => conversing.held
    exact Performs.pure fun _ _ => reported_moved rfl status
  have success : classified.success = true := by simpa using succeeded
  split
  · next missing =>
      have moved : Conducts law (Conversing law key contact classified)
          (transitionContactState key contact .needsHuman) fun result pending desk =>
            result.1.status = Law.moved contact.status .needsHuman ∧
              Held law key result.1 pending desk := by
        refine (conducts_transitionHeld free .needsHuman).strengthen fun pending desk conversing =>
          ⟨conversing.held.focus.editing, conversing.held.current, fun viewing => ?_⟩
        obtain ⟨stored, same, admits⟩ := conversing.admitted.admits viewing
        have row : law.row key stored := Law.row_congr same (conversing.held.focus.fact viewing)
        have allowed := closed.missing key stored classified admits success missing row
        rw [same.status, same.nextActionAt] at allowed
        exact allowed
      refine Performs.bind moved fun _ => Performs.given fun status => ?_
      exact Performs.pure fun _ _ => reported_moved rfl status
  · next intent meant => exact conducts_applyIntent owned closed free success meant

/-- The handler of a contact in a session that has nothing to flush. -/
theorem conducts_classifyAndApplyInbound
    {loaded : Option Campaign}
    {reference : String}
    (owned : ∃ campaign, loaded = some campaign)
    (closed : law.Closed)
    (free : law.Free key) :
    Conducts law (Settled law key contact)
      (classifyAndApplyInbound deployment key contact loaded email reference)
      (Reported law key contact) := by
  -- The transaction shows the standing of the loaded contact.
  let Shown : Contact → Desk Database Heard → Prop := fun contact desk =>
    ∀ view, desk.view = some view → ∃ stored, view.contacts.get key = some stored ∧
      SameStanding contact stored
  refine Performs.bind (conducts_utcnow stores_settled) fun repliedAt => ?_
  have assigned : Conducts law (Settled law key contact)
      (assign key contact { lastReplyAt := some repliedAt }) fun after pending desk =>
        SameStanding contact after ∧ Held law key after pending desk ∧ Shown after desk := by
    refine ((conducts_assignNeutral (Shown contact) ⟨rfl, rfl⟩).strengthen ?_).weaken ?_
      fun _ _ _ => id
    · rintro pending desk ⟨rfl, held⟩
      exact ⟨held, held.current⟩
    · rintro after pending desk ⟨same, held, shown⟩
      refine ⟨same, held, fun view seen => ?_⟩
      obtain ⟨stored, found, sameStored⟩ := shown view seen
      exact ⟨stored, found, same.symm.trans sameStored⟩
  refine Performs.bind assigned fun replied => Performs.given fun same => ?_
  refine Performs.bind (conducts_look fun _ _ holds => holds.1.orderly.abort none)
    fun messages => ?_
  have classifies : Conducts law
      (fun pending desk => Held law key replied pending desk ∧ Shown replied desk)
      (ask (.classify key email.bodyText email.autoSubmitted)) fun reply pending desk =>
        match reply with
        | .ok classified => Conversing law key replied classified pending desk
        | .error _ => Orderly law pending desk := by
    refine Performs.ask fun pending desk ⟨held, shown⟩ reply hears => ?_
    refine ⟨held.orderly.store, ?_⟩
    change Except String ClassificationResult at reply
    cases reply with
    | error name => exact held.orderly
    | ok classified =>
        refine ⟨held.heard (some classified), rfl, fun viewing => ?_⟩
        obtain ⟨view, seen⟩ := Option.ne_none_iff_exists'.mp viewing
        obtain ⟨stored, found, sameStored⟩ := shown view seen
        exact ⟨stored, sameStored, hears view stored seen found⟩
  refine Performs.bind classifies fun reply => ?_
  change Except String ClassificationResult at reply
  cases reply with
  | error name => exact respects_raise
  | ok classified =>
      refine Performs.bind conducts_recordClassification fun recorded =>
        Performs.given fun sameRecorded => ?_
      have applied : Conducts law (Conversing law key recorded classified)
          (applyClassification deployment key recorded loaded email classified)
          (Reported law key contact) := by
        refine (conducts_applyClassification owned closed free).weaken ?_ fun _ _ _ => id
        rintro action pending desk ⟨orderly, shown⟩
        rw [sameRecorded.status, same.status] at shown
        exact ⟨orderly, shown⟩
      refine Performs.bind applied fun action => ?_
      refine Performs.bind (conducts_flush steady_shows) fun _ => ?_
      refine Performs.bind ((conducts_maybeSummarize steady_shows).strengthen fun _ _ flushed =>
        flushed.2) fun _ => Performs.pure fun _ _ => id

theorem respects_classifyAndApplyInbound
    {loaded : Option Campaign}
    {reference : String}
    (owned : ∃ campaign, loaded = some campaign)
    (closed : law.Closed)
    (free : law.Free key) :
    Respects law (Settled law key contact)
      (classifyAndApplyInbound deployment key contact loaded email reference) :=
  (conducts_classifyAndApplyInbound owned closed free).weaken
    (fun _ _ _ reported => reported.orderly) fun _ _ _ => id

end Branches

/-! ## The webhook and the legacy poll -/

section Handlers

variable {law : Law} {key : Nat} {contact : Contact} {deployment : Deployment}
variable {email : InboundEmail}

/-- A loaded contact is current. -/
theorem conducts_load
    {before : Assertion Heard}
    (orderly : ∀ pending desk, before pending desk → Orderly law pending desk) :
    Conducts law before (loadContact key) fun loaded pending desk =>
      before pending desk ∧ ∀ contact, loaded = some contact →
        Held law key contact pending desk := by
  intro pending begun initially
  have loads := @Performs.query _ _ law.rules
    (fun waiting desk => waiting = pending ∧ before waiting desk)
    (fun loaded waiting desk => before waiting desk ∧ ∀ contact, loaded = some contact →
      Held law key contact waiting desk)
    (fun _ => Orderly law)
    (fun view => (view.contacts.get key).map (inSession pending key))
    (fun _ waiting desk holds _ => (orderly waiting desk holds.2).abort none) (by
      rintro waiting desk view ⟨rfl, holds⟩ seen
      refine ⟨holds, fun contact loaded => ⟨orderly _ _ holds, fun current seenCurrent => ?_⟩⟩
      cases seen.symm.trans seenCurrent
      obtain ⟨stored, found, rfl⟩ := Option.map_eq_some_iff.mp loaded
      exact ⟨stored, found, .refl _⟩)
  exact loads pending begun ⟨rfl, initially⟩

/-- A stored message is handled in the transaction that stores it. -/
theorem respects_receiveCorrelated
    {organization : Option String}
    (closed : law.Closed)
    (unpinned : ∀ key, law.Free key) :
    Respects law (Orderly law) (receiveCorrelated deployment organization email key) := by
  refine Performs.bind (conducts_load fun _ _ => id) fun loaded => ?_
  refine Performs.bind (Performs.required (fun present found _ _ holds => holds.2 present found)
    fun _ _ _ _ holds => holds.1) fun contact => ?_
  refine Performs.bind (conducts_loadCampaign fun _ _ => id) fun campaign =>
    Performs.given fun owned => ?_
  refine Performs.bind (conducts_ask (fun _ _ => rfl) stores_held) fun reference => ?_
  refine Performs.bind (conducts_utcnow stores_held) fun createdAt => ?_
  have staged : Conducts law (Held law key contact)
      (stage (.insertMessage
        (inboundMessage key none email.messageId email createdAt reference)))
      fun _ => Held law key contact :=
    Performs.stage fun _ _ held => held.stage trivial
  refine Performs.bind staged fun _ => ?_
  let Flushed : Except Failure Unit → Assertion Heard :=
    byResult (fun _ => Settled law key contact) (Orderly law)
  have flushed : Performs law.rules (Held law key contact) flush
      (fun value => Flushed (.ok value)) fun failure => Flushed (.error failure) :=
    conducts_flush steady_held
  refine Performs.bind flushed.attempt fun result => ?_
  cases result with
  | ok value =>
      refine Performs.bind (respects_classifyAndApplyInbound owned closed (unpinned key))
        fun action => respects_pure
  | error failure =>
      cases failure with
      | integrity =>
          refine Performs.bind respects_rollback fun _ => ?_
          exact Performs.bind (conducts_look aborts_orderly) fun _ => respects_pure
      | _ => exact respects_raise

/-- Correlation reads only. -/
theorem respects_correlate {organization : Option String} :
    Respects law (Orderly law) (correlate organization email) := by
  have continues : ∀ byThread : Option Nat, Respects law (Orderly law)
      (if byThread.isSome || !(threadReferences email).isEmpty then pure byThread
        else query (findContactByEmail organization email)) :=
    fun byThread => Performs.ite (fun _ => respects_pure) fun _ => conducts_look aborts_orderly
  refine Performs.ite (fun _ => ?_) fun _ => ?_
  · exact Performs.bind respects_pure fun byThread => continues byThread
  · exact Performs.bind (conducts_look aborts_orderly) fun byThread => continues byThread

/-- The handler of the webhook and of the legacy poll keeps the law. -/
theorem respects_processInboundEmailV2
    {organization : Option String}
    (closed : law.Closed)
    (unpinned : ∀ key, law.Free key) :
    Respects law (Orderly law) (processInboundEmailV2 deployment email organization) := by
  have continues : ∀ existing : Option (Nat × Message), Respects law (Orderly law)
      (receiveUnlessDuplicate deployment organization email.normalized existing) := by
    intro existing
    cases existing with
    | some found => exact respects_pure
    | none =>
        refine Performs.bind respects_correlate fun correlated => ?_
        cases correlated with
        | none => exact respects_pure
        | some key => exact respects_receiveCorrelated closed unpinned
  refine Performs.ite (fun _ => ?_) fun _ => ?_
  · exact Performs.bind (conducts_look aborts_orderly) fun existing => continues existing
  · exact Performs.bind respects_pure fun existing => continues existing

/-- The legacy poll keeps the law from one message to the next. -/
theorem respects_pollRepliesJob
    (closed : law.Closed)
    (unpinned : ∀ key, law.Free key) :
    Respects law (Orderly law) (pollRepliesJob deployment) := by
  refine Performs.bind (conducts_ask (fun _ _ => rfl) stores_orderly) fun emails => ?_
  refine Performs.ite (fun _ => respects_pure) fun _ => ?_
  refine respects_sessionScope (respects_forEach fun email _ => ?_)
  exact Performs.bind
    (respects_processInboundEmailV2 closed unpinned).attemptEither fun _ => respects_pure

theorem respects_receiveInboundEmail
    {organization : String}
    (closed : law.Closed)
    (unpinned : ∀ key, law.Free key) :
    Respects law (Orderly law) (receiveInboundEmail deployment organization email) := by
  refine respects_session ?_
  refine Performs.bind (respects_processInboundEmailV2 closed unpinned) fun result => ?_
  exact Performs.bind respects_commit fun _ => respects_pure

end Handlers

/-! ## Polling of mailboxes -/

section Polling

variable {law : Law} {key : Nat} {contact : Contact} {deployment : Deployment}
variable {email : InboundEmail} {mailboxId : Nat} {organizationId identity : String}

/-- All contacts comply, and nothing waits for a flush. -/
def Idle (law : Law) : Assertion Heard :=
  fun pending desk => pending = [] ∧ Orderly law pending desk

/-- The committed contacts comply once a transaction without writes is lost. -/
theorem aborts_idle : Assertion.Aborts law (Idle law) :=
  fun _ _ idle => idle.2.abort none

theorem conducts_eligibleContacts {referred : List (Nat × Message)} :
    Conducts law (Idle law) (eligibleContacts mailboxId organizationId referred)
      fun _ => Idle law := by
  induction referred with
  | nil => exact Performs.pure fun _ _ => id
  | cons entry rest inductionHypothesis =>
      obtain ⟨messageId, message⟩ := entry
      have continues : ∀ eligible : Bool, Conducts law (Idle law)
          (do
            let others ← eligibleContacts mailboxId organizationId rest
            pure (if eligible then message.contactId :: others else others))
          fun _ => Idle law :=
        fun _ => Performs.bind inductionHypothesis fun _ => Performs.pure fun _ _ => id
      refine Performs.ite (fun _ => ?_) fun _ => ?_
      · exact Performs.bind (Performs.pure fun _ _ => id) fun eligible => continues eligible
      · refine Performs.bind (conducts_look aborts_idle) fun dispatched => ?_
        exact Performs.bind (Performs.pure fun _ _ => id) fun eligible => continues eligible

theorem conducts_correlateMailboxInbound :
    Conducts law (Idle law)
      (correlateMailboxInbound deployment mailboxId organizationId email)
      fun _ => Idle law := by
  have continues : ∀ referred : List (Nat × Message), Conducts law (Idle law)
      (correlateReferred deployment mailboxId organizationId email referred)
      fun _ => Idle law := by
    intro referred
    refine Performs.bind conducts_eligibleContacts fun threads => ?_
    split
    · exact Performs.pure fun _ _ => id
    · exact Performs.pure fun _ _ => id
    · refine Performs.ite (fun _ => Performs.pure fun _ _ => id) fun _ => ?_
      exact Performs.bind (conducts_look aborts_idle) fun _ => Performs.pure fun _ _ => id
  rw [correlateMailboxInbound_eq]
  refine Performs.ite (fun _ => ?_) fun _ => ?_
  · exact Performs.bind (Performs.pure fun _ _ => id) fun referred => continues referred
  · exact Performs.bind (conducts_look aborts_idle) fun referred => continues referred

/-- The new message changes nothing of the contact. -/
theorem conducts_insertCorrelatedMessage {row : Message} :
    Conducts law (Settled law key contact)
      (insertCorrelatedMessage mailboxId organizationId identity row)
      fun _ => Settled law key contact := by
  have inserts : Conducts law (Settled law key contact)
      (execute
        (fun view =>
          if view.messages.clashes Message.mailboxIdentity row then [] else [.insertMessage row])
        fun view => view.messages.clashes Message.mailboxIdentity row)
      fun _ => Settled law key contact := by
    refine conducts_execute fun view change member => ?_
    split at member
    · exact (List.not_mem_nil member).elim
    · cases List.mem_singleton.mp member
      trivial
  refine Performs.bind inserts fun taken => ?_
  refine Performs.ite (fun _ => ?_) fun _ => ?_
  · refine Performs.bind (conducts_look aborts_settled) fun existing => ?_
    cases existing with
    | some message => exact Performs.pure fun _ _ => id
    | none => exact Performs.raise fun _ _ settled => settled.2.orderly
  · exact Performs.bind (conducts_look aborts_settled) fun _ => Performs.pure fun _ _ => id

theorem respects_retainUnmatched {row : UnmatchedInboundMessage} :
    Respects law (Orderly law) (retainUnmatched row) := by
  refine Performs.bind (respects_execute fun view change member => ?_) fun _ => ?_
  · split at member
    · exact (List.not_mem_nil member).elim
    · cases List.mem_singleton.mp member
      trivial
  refine Performs.bind (conducts_look aborts_orderly) fun retained => ?_
  exact Performs.ite (fun _ => respects_pure) fun _ => respects_raise

/-- A message of a poll is stored and handled under the law. -/
theorem respects_storeCorrelated
    (closed : law.Closed)
    (unpinned : ∀ key, law.Free key) :
    Respects law (Idle law)
      (storeCorrelated deployment mailboxId organizationId identity email key) := by
  refine Performs.bind (conducts_load fun _ _ idle => idle.2) fun loaded => ?_
  have present : Conducts law
      (fun pending desk => Idle law pending desk ∧ ∀ contact, loaded = some contact →
        Held law key contact pending desk)
      (required loaded) fun contact => Settled law key contact :=
    Performs.required (fun contact found _ _ holds => ⟨holds.1.1, holds.2 contact found⟩)
      fun _ _ _ _ holds => holds.1.2
  refine Performs.bind present fun contact => ?_
  refine Performs.bind (conducts_loadCampaign fun _ _ settled => settled.2) fun campaign =>
    Performs.given fun owned => ?_
  refine Performs.bind (conducts_ask (fun _ _ => rfl) stores_settled) fun reference => ?_
  refine Performs.bind (conducts_utcnow stores_settled) fun createdAt => ?_
  refine Performs.bind conducts_insertCorrelatedMessage fun inserted => ?_
  cases inserted with
  | some existing => exact Performs.pure fun _ _ settled => settled.2.orderly
  | none =>
      refine Performs.bind (conducts_utcnow stores_settled) fun now => ?_
      refine Performs.bind (conducts_execute fun view change member => ?_) fun _ => ?_
      · split at member
        · cases List.mem_singleton.mp member
          trivial
        · exact (List.not_mem_nil member).elim
      refine Performs.bind (respects_classifyAndApplyInbound owned closed (unpinned key))
        fun action => respects_pure

/-- A matched, retained or recognised message keeps the law. -/
theorem respects_processMailboxInbound
    (closed : law.Closed)
    (unpinned : ∀ key, law.Free key) :
    Respects law (Idle law)
      (processMailboxInbound deployment mailboxId organizationId email) := by
  unfold processMailboxInbound
  dsimp only
  cases inboundIdentity email.normalized with
  | none => exact Performs.raise fun _ _ idle => idle.2
  | some identity =>
      refine Performs.bind (conducts_look aborts_idle) fun existing => ?_
      cases existing with
      | some message => exact Performs.pure fun _ _ idle => idle.2
      | none =>
          refine Performs.bind conducts_correlateMailboxInbound fun correlated => ?_
          cases correlated with
          | error reason =>
              refine Performs.bind (respects_retainUnmatched.strengthen fun _ _ idle => idle.2)
                fun _ => respects_pure
          | ok key => exact respects_storeCorrelated closed unpinned

/-! ### Sessions of a poll -/

/-- Between the sessions of a poll nothing is open. -/
abbrev Cleans
    (law : Law)
    (program : Program Value) : Prop :=
  Performs law.rules (Clean law) program (fun _ => Clean law) fun _ => Clean law

theorem Clean.idle
    {pending : List Change}
    {desk : Desk Database Heard}
    (clean : Clean law pending desk) :
    Idle law pending desk :=
  ⟨clean.empty, clean.orderly⟩

theorem cleans_pure {value : Value} : Cleans law (pure value) :=
  Performs.pure fun _ _ => id

theorem cleans_ofExcept {computed : Except Failure Value} : Cleans law (ofExcept computed) :=
  Performs.ofExcept (fun _ _ _ _ => id) fun _ _ _ _ => id

theorem cleans_ask
    {signal : Signal}
    (quiet : ∀ desk reply, noteHeard desk signal reply = desk.ghost) :
    Cleans law (ask signal) := by
  refine Performs.ask fun pending desk clean reply _ => ?_
  change law.Stored desk.store ∧
    Clean law pending { desk with ghost := noteHeard desk signal reply }
  rw [quiet desk reply]
  exact ⟨clean.orderly.store, clean⟩

/-- A session that keeps the law leaves nothing open. -/
theorem cleans_session
    {program : Program Value}
    (respects : Respects law (Idle law) program) :
    Cleans law (session program) :=
  (performs_session respects).strengthen fun _ _ clean => clean.idle

/-- A message is persisted in a session of its own. -/
theorem cleans_persistInbound
    {target : MailboxImapTarget}
    (closed : law.Closed)
    (unpinned : ∀ key, law.Free key) :
    Cleans law (persistInbound deployment target email) := by
  refine cleans_session ?_
  have handled : Respects law (Idle law)
      (do
        let result ← processMailboxInbound deployment target.mailboxId target.organizationId
          email
        commit
        pure result) :=
    Performs.bind (respects_processMailboxInbound closed unpinned) fun _ =>
      Performs.bind respects_commit fun _ => respects_pure
  refine Performs.bind handled.attemptEither fun result => ?_
  cases result with
  | ok value => exact respects_pure
  | error failure => exact Performs.bind respects_rollback fun _ => respects_raise

variable {handler : InboundEmail → Program Result}

/-- One message of a mailbox, with the flag that follows it. -/
theorem cleans_drainMessage
    {uid : Nat}
    (handles : ∀ email, Cleans law (handler email)) :
    Cleans law (drainMessage mailboxId handler uid) := by
  have fetched : Cleans law (fetchAndHandle handler uid) := by
    refine Performs.bind (cleans_ask fun _ _ => rfl) fun reply => ?_
    refine Performs.bind cleans_ofExcept fun email => ?_
    exact Performs.bind (handles email) fun _ => cleans_pure
  refine Performs.bind fetched.attemptEither fun result => ?_
  cases result with
  | error failure => exact Performs.bind (cleans_ask fun _ _ => rfl) fun _ => cleans_pure
  | ok email =>
      refine Performs.bind (cleans_ask fun _ _ => rfl) fun stored => ?_
      change ImapReply Unit at stored
      cases stored <;> exact cleans_pure

theorem cleans_drainMessages
    {uids : List Nat}
    {stats : DrainStats}
    (handles : ∀ email, Cleans law (handler email)) :
    Cleans law (drainMessages mailboxId handler uids stats) := by
  induction uids generalizing stats with
  | nil => exact cleans_pure
  | cons uid rest inductionHypothesis =>
      exact Performs.bind (cleans_drainMessage handles) fun _ => inductionHypothesis

/-- One mailbox is polled from the login to the last message. -/
theorem cleans_pollMailbox
    {target : MailboxImapTarget}
    (closed : law.Closed)
    (unpinned : ∀ key, law.Free key) :
    Cleans law (pollMailbox deployment target) := by
  have drained : Cleans law
      (drainUnseen target.mailboxId (persistInbound deployment target)) := by
    refine Performs.bind (cleans_ask fun _ _ => rfl) fun _ => ?_
    refine Performs.bind cleans_ofExcept fun _ => ?_
    refine Performs.bind (cleans_ask fun _ _ => rfl) fun _ => ?_
    refine Performs.bind cleans_ofExcept fun uids => ?_
    exact cleans_drainMessages fun email => cleans_persistInbound closed unpinned
  unfold pollMailbox
  split
  · have polled : Cleans law
        (do
          let _ ← ofExcept (imapValue "IMAP4.error" (← ask (.login target.mailboxId)))
          drainUnseen target.mailboxId (persistInbound deployment target)) :=
      Performs.bind (cleans_ask fun _ _ => rfl) fun _ =>
        Performs.bind cleans_ofExcept fun _ => drained
    refine Performs.bind polled.attemptEither fun result => ?_
    cases result <;> exact cleans_pure
  · exact cleans_pure

theorem cleans_pollListedMailbox
    (closed : law.Closed)
    (unpinned : ∀ key, law.Free key) :
    Cleans law (pollListedMailbox deployment mailboxId) := by
  have loads : Cleans law (loadPollableTarget mailboxId) :=
    cleans_session ((conducts_look aborts_orderly).strengthen fun _ _ idle => idle.2)
  have polled : Cleans law (pollIfEligible deployment mailboxId) := by
    refine Performs.bind loads fun loaded => ?_
    cases loaded with
    | none => exact cleans_pure
    | some target => exact cleans_pollMailbox closed unpinned
  refine Performs.bind polled.attemptEither fun result => ?_
  cases result <;> exact cleans_pure

/-- The poll of all mailboxes keeps the law throughout. -/
theorem cleans_pollAllMailboxesReport
    (closed : law.Closed)
    (unpinned : ∀ key, law.Free key) :
    Cleans law (pollAllMailboxesReport deployment) := by
  have lists : Cleans law listPollableMailboxIds :=
    cleans_session ((conducts_look aborts_orderly).strengthen fun _ _ idle => idle.2)
  have polls : ∀ ids, Cleans law (pollListedMailboxes deployment ids) := by
    intro ids
    induction ids with
    | nil => exact cleans_pure
    | cons mailboxId rest inductionHypothesis =>
        refine Performs.bind (cleans_pollListedMailbox closed unpinned) fun _ => ?_
        exact Performs.bind inductionHypothesis fun _ => cleans_pure
  refine Performs.bind lists.attemptEither fun listed => ?_
  cases listed with
  | error failure => exact cleans_pure
  | ok ids => exact Performs.bind (polls ids) fun _ => cleans_pure

end Polling

end Native
end MailerAgent
