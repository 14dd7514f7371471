import MailerAgent.Native.Company
import MailerAgent.Native.Reasoning

/-!
# Changes that are not lost

A transaction carries the changes that it has written and those that wait for a flush. What
the handling of a classified message does to it only adds changes, whatever its statements
end with: it never takes a change back.
-/

namespace MailerAgent
namespace Native

open Concurrent Relational Mail Program

/-- Certain changes have been written or wait for a flush, and all of these are ordinary. -/
structure Carried
    (held pending : List Change)
    (session : Session Change) : Prop where
  kept : ∀ change ∈ held, change ∈ session.writes ++ pending
  ordinary : ∀ change ∈ session.writes ++ pending, change.ordinary

namespace Carried

variable {held pending : List Change} {session : Session Change} {change : Change}

/-- A staged change is carried from now on. -/
theorem stage
    (carried : Carried held pending session)
    (ordinary : change.ordinary) :
    Carried (held ++ [change]) (pending ++ [change]) session := by
  constructor
  · intro other member
    rw [← List.append_assoc]
    rcases List.mem_append.mp member with before | fresh
    · exact List.mem_append_left _ (carried.kept other before)
    · exact List.mem_append_right _ fresh
  · intro other member
    rw [← List.append_assoc] at member
    rcases List.mem_append.mp member with before | fresh
    · exact carried.ordinary other before
    · rw [List.mem_singleton.mp fresh]
      exact ordinary

/-- A flush moves the changes that wait, and loses none. -/
theorem mem_flushed :
    change ∈ (session.writes ++ unitOfWork pending) ++ [] ↔ change ∈ session.writes ++ pending := by
  rw [List.append_nil, List.mem_append, List.mem_append, mem_unitOfWork]

/-- Fewer changes are carried as well. -/
theorem weaken
    {other : List Change}
    (carried : Carried held pending session)
    (fewer : other ⊆ held) :
    Carried other pending session where
  kept change member := carried.kept change (fewer member)
  ordinary := carried.ordinary

/-- What is carried survives a flush. -/
theorem flush (carried : Carried held pending session) :
    Carried held [] { session with writes := session.writes ++ unitOfWork pending } where
  kept other member := mem_flushed.mpr (carried.kept other member)
  ordinary other member := carried.ordinary other (mem_flushed.mp member)

end Carried

/-- The changes are carried, and since an earlier store only the others have acted. -/
def carrying
    (company : Company Database Change)
    (origin : Database)
    (held : List Change) : Circumstance company where
  holds pending store session := company.others origin store ∧ Carried held pending session
  stable holds moved := ⟨company.trans holds.1 moved, holds.2⟩

/-- A program takes no change back, and commits none. -/
def Conserves
    (company : Company Database Change)
    (origin : Database)
    (held : List Change)
    {Value : Type}
    (program : Program Value) : Prop :=
  Leads (carrying company origin held) program (fun _ => carrying company origin held)
    fun _ => carrying company origin held

section Statements

variable {company : Company Database Change} {origin : Database} {held : List Change}
variable {Value : Type}

theorem conserves_pure {value : Value} : Conserves company origin held (pure value) :=
  .pure fun _ _ _ => id

theorem conserves_raise {failure : Failure} :
    Conserves company origin held (raise failure : Program Value) :=
  .raise fun _ _ _ => id

theorem conserves_ask {signal : Signal} : Conserves company origin held (ask signal) :=
  .ask fun _ _ _ _ => id

/-- A new change waits beside the carried ones. -/
theorem conserves_stage
    {change : Change}
    (ordinary : change.ordinary) :
    Conserves company origin held (stage change) :=
  .stage fun _ _ _ holds =>
    ⟨holds.1, (holds.2.stage ordinary).weaken (List.subset_append_left _ _)⟩

theorem conserves_query {read : Database → Value} : Conserves company origin held (query read) :=
  .look fun _ _ _ holds => ⟨holds.1, holds.2.kept, holds.2.ordinary⟩

/-- A flush, also a failed one, takes back no change of the transaction. -/
theorem conserves_flush : Conserves company origin held flush :=
  .flush (fun _ _ => id) (fun _ _ _ _ _ holds _ _ _ => ⟨holds.1, holds.2.flush⟩)
    (fun _ _ _ holds _ => ⟨holds.1, holds.2.kept, holds.2.ordinary⟩)
    fun _ _ _ holds => ⟨holds.1, holds.2.kept, holds.2.ordinary⟩

theorem conserves_required {value : Option Value} :
    Conserves company origin held (required value) := by
  cases value with
  | none => exact conserves_raise
  | some present => exact conserves_pure

theorem conserves_loadContact {key : Nat} : Conserves company origin held (loadContact key) := by
  intro pending
  have reads : Conserves company origin held
      (query fun view => (view.contacts.get key).map (inSession pending key)) := conserves_query
  exact reads pending

theorem conserves_ofExcept {result : Except Failure Value} :
    Conserves company origin held (ofExcept result) :=
  .ofExcept (fun _ _ _ _ _ => id) fun _ _ _ _ _ => id

end Statements

section Contacts

variable {company : Company Database Change} {origin : Database} {held : List Change}
variable {deployment : Deployment} {key : Nat} {contact : Contact}

/-- An assignment to the contact adds a change. -/
theorem conserves_assign {patch : ContactPatch} :
    Conserves company origin held (assign key contact patch) :=
  .bind conserves_ask fun _ => .bind (conserves_stage trivial) fun _ => conserves_pure

theorem conserves_sendEmail
    {kind : SendOrigin}
    {arguments : SendEmailArguments} :
    Conserves company origin held (sendEmail deployment.settings kind key arguments) := by
  refine .bind conserves_ask fun behaviour => ?_
  split
  · exact conserves_pure
  · exact conserves_raise

theorem conserves_transitionContactState {event : StateTransitionEvent} :
    Conserves company origin held (transitionContactState key contact event) := by
  unfold transitionContactState
  split
  · exact conserves_pure
  · exact .bind conserves_assign fun _ => conserves_pure

theorem conserves_addMessage {message : Message} :
    Conserves company origin held (addMessage message) :=
  .bind conserves_ask fun _ => .bind conserves_ask fun _ => conserves_stage trivial

/-- The summary is flushed after the carried changes. -/
theorem conserves_maybeSummarizeOlderMessages {messages : List Message} :
    Conserves company origin held (maybeSummarizeOlderMessages key contact messages) := by
  refine .ite (fun _ => conserves_pure) fun _ => .bind conserves_ask fun reply => ?_
  cases reply with
  | summarized text => exact .bind conserves_assign fun _ => conserves_flush
  | unavailable => exact conserves_pure
  | raised name => exact conserves_raise

theorem conserves_escalateUnknown : Conserves company origin held (escalateUnknown key contact) :=
  .bind conserves_transitionContactState fun _ => conserves_assign

end Contacts

section Inbound

variable {company : Company Database Change} {origin : Database} {held : List Change}
variable {deployment : Deployment} {key : Nat} {contact : Contact}
variable {campaign : Campaign} {loaded : Option Campaign} {email : InboundEmail}
variable {intent : SemanticIntent} {classified : ClassificationResult}

/-- An entry and a transition are added. -/
theorem conserves_handleUnsubscribe :
    Conserves company origin held (handleUnsubscribe key contact) := by
  refine .bind conserves_query fun organization => .bind conserves_query fun existing => ?_
  have leaves : Conserves company origin held (leaveCadence key contact) :=
    .bind conserves_transitionContactState fun _ => conserves_assign
  refine .ite (fun _ => ?_) fun _ => leaves
  exact .bind (conserves_stage trivial) fun _ => leaves

theorem conserves_promoteIfSent : Conserves company origin held (promoteIfSent key contact) := by
  refine .ite (fun _ => .bind conserves_query fun sent => ?_) fun _ => conserves_pure
  refine .ite (fun _ => ?_) fun _ => conserves_pure
  exact .bind conserves_transitionContactState fun _ => conserves_pure

theorem conserves_advanceIntegrationContact {event : StateTransitionEvent} :
    Conserves company origin held (advanceIntegrationContact key contact event) := by
  refine .bind conserves_promoteIfSent fun promoted => ?_
  refine .bind conserves_transitionContactState fun moved => ?_
  refine .ite (fun _ => conserves_pure) fun _ => ?_
  refine .bind conserves_transitionContactState fun replied => ?_
  refine .ite (fun _ => ?_) fun _ => conserves_pure
  exact .bind conserves_transitionContactState fun _ => conserves_pure

/-- What follows an automatic reply is added. -/
theorem conserves_afterAutomaticReply {result : SendResult} :
    Conserves company origin held (afterAutomaticReply key contact result) := by
  refine .ite (fun _ => ?_) fun _ =>
    .ite (fun _ => conserves_escalateUnknown) fun _ => conserves_pure
  exact .bind conserves_ask fun sentAt => conserves_assign

/-- A failed call of the sender ends the program, not the transaction. -/
theorem conserves_sendOrHoldReply
    {plan : ReplyPlan}
    {draft : Draft} :
    Conserves company origin held
      (sendOrHoldReply deployment key contact campaign email plan draft) := by
  refine .bind conserves_query fun suppressed => ?_
  refine .ite (fun _ => ?_) fun _ => .bind conserves_addMessage fun _ => conserves_pure
  refine .bind conserves_sendEmail fun result => .bind conserves_afterAutomaticReply fun _ => ?_
  exact .bind conserves_addMessage fun _ => conserves_pure

/-- A plan or a draft that is not to be had adds a transition or nothing. -/
theorem conserves_draftAndMaybeSendReply :
    Conserves company origin held
      (draftAndMaybeSendReply deployment key contact campaign email intent) := by
  refine .bind conserves_ask fun _ => .bind conserves_ask fun planned => ?_
  cases planned with
  | error name => exact conserves_raise
  | ok plan =>
      refine .bind conserves_ask fun reply => ?_
      cases reply with
      | raised name => exact conserves_raise
      | contextualFallbackUnavailable =>
          exact .bind conserves_transitionContactState fun _ => conserves_pure
      | drafted draft => exact conserves_sendOrHoldReply

/-- The transition, the new date and the reply are added. -/
theorem conserves_continueConversation :
    Conserves company origin held
      (continueConversation deployment key contact loaded email intent) := by
  refine .bind conserves_transitionContactState fun moved => ?_
  refine .bind conserves_required fun campaign => .bind conserves_ask fun now => ?_
  refine .bind conserves_ofExcept fun next => ?_
  exact .bind conserves_assign fun scheduled => conserves_draftAndMaybeSendReply

/-- Every branch on the intents only adds changes. -/
theorem conserves_applyIntent :
    Conserves company origin held (applyIntent deployment key contact loaded email intent) := by
  refine .ite (fun _ => .bind conserves_handleUnsubscribe fun _ => conserves_pure) fun _ => ?_
  refine .ite (fun _ => ?_) fun _ => ?_
  · refine .bind conserves_transitionContactState fun moved => ?_
    exact .bind conserves_assign fun _ => conserves_pure
  refine .ite (fun _ => conserves_pure) fun _ => ?_
  refine .ite (fun _ => ?_) fun _ => conserves_continueConversation
  refine .bind conserves_advanceIntegrationContact fun advanced => ?_
  exact .bind conserves_assign fun _ => conserves_pure

/-- Every branch on the classification only adds changes. -/
theorem conserves_applyClassification :
    Conserves company origin held
      (applyClassification deployment key contact loaded email classified) := by
  refine .ite (fun _ => ?_) fun _ => ?_
  · refine .bind conserves_transitionContactState fun moved => ?_
    exact .bind conserves_assign fun _ => conserves_pure
  split
  · exact .bind conserves_transitionContactState fun _ => conserves_pure
  · exact conserves_applyIntent

/-- The handler stores the classification that it acts on: from the record of it on, the
transaction carries the interpretation of the message to the handler's end. -/
theorem carries_interpretation
    {Result : Type}
    {reference : String}
    {rest : Contact → InboundAction → Program Result}
    (continues : ∀ held recorded action, Conserves company origin held (rest recorded action)) :
    Leads (carrying company origin held)
      (do
        let recorded ← recordClassification key contact reference classified
        let action ← applyClassification deployment key recorded loaded email classified
        rest recorded action)
      (fun _ => carrying company origin
        (held ++ [.interpretMessage key reference (interpretationOf classified)]))
      fun _ => carrying company origin held := by
  have fewer : ∀ pending store session,
      (carrying company origin
        (held ++ [.interpretMessage key reference (interpretationOf classified)])).holds
          pending store session →
        (carrying company origin held).holds pending store session :=
    fun _ _ _ holds => ⟨holds.1, holds.2.weaken (List.subset_append_left _ _)⟩
  have staged : Leads (carrying company origin held)
      (stage (.interpretMessage key reference (interpretationOf classified)))
      (fun _ => carrying company origin
        (held ++ [.interpretMessage key reference (interpretationOf classified)]))
      fun _ => carrying company origin held :=
    .stage fun _ _ _ holds => ⟨holds.1, holds.2.stage trivial⟩
  have marked : Leads (carrying company origin held)
      (recordClassification key contact reference classified)
      (fun _ => carrying company origin
        (held ++ [.interpretMessage key reference (interpretationOf classified)]))
      fun _ => carrying company origin held := by
    refine .bind staged fun _ => ?_
    split
    · exact conserves_assign.weaken (fun _ _ _ _ => id) fun _ => fewer
    · exact conserves_pure.weaken (fun _ _ _ _ => id) fun _ => fewer
  refine .bind marked fun recorded => ?_
  have acted : Conserves company origin
      (held ++ [.interpretMessage key reference (interpretationOf classified)])
      (do
        let action ← applyClassification deployment key recorded loaded email classified
        rest recorded action) :=
    .bind conserves_applyClassification fun action => continues _ recorded action
  exact acted.weaken (fun _ _ _ _ => id) fun _ => fewer

/-- The handling of a stored message takes no change back. -/
theorem conserves_classifyAndApplyInbound {reference : String} :
    Conserves company origin held
      (classifyAndApplyInbound deployment key contact loaded email reference) := by
  refine .bind conserves_ask fun repliedAt => .bind conserves_assign fun replied => ?_
  refine .bind conserves_query fun messages => .bind conserves_ask fun answer => ?_
  cases answer with
  | error name => exact conserves_raise
  | ok classified =>
      refine (carries_interpretation fun _ recorded action => ?_).weaken ?_ fun _ _ _ _ => id
      · exact .bind conserves_flush fun _ =>
          .bind conserves_maybeSummarizeOlderMessages fun _ => conserves_pure
      · exact fun _ _ _ _ holds => ⟨holds.1, holds.2.weaken (List.subset_append_left _ _)⟩

/-- Correlation reads only. -/
theorem conserves_correlate {organization : Option String} :
    Conserves company origin held (correlate organization email) := by
  have falls : ∀ byThread, Conserves company origin held
      (if byThread.isSome || !(threadReferences email).isEmpty then pure byThread
        else query (findContactByEmail organization email)) :=
    fun byThread => .ite (fun _ => conserves_pure) fun _ => conserves_query
  exact .ite (fun _ => .bind conserves_pure falls) fun _ => .bind conserves_query falls

end Inbound

end Native
end MailerAgent
