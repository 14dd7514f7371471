import MailerAgent.Foundation.Confinement
import MailerAgent.Native.Api

/-!
# What the native operations can do at all

Mailboxes are written only by the two routes that configure them, and retained mail and
messages with a mailbox only by the poll of a mailbox. Every other operation is confined
to plain changes and to interactions that are not those of a poll; the handling of one
classified message moreover ends no transaction.
-/

namespace MailerAgent
namespace Native

open Concurrent Relational Mail

/-! ## Programs within bounds -/

namespace Program

variable {bounds : Bounds Change Signal} {Value Result : Type}

/-- A program that stays within bounds, with what waits for a flush. -/
def Confined
    (bounds : Bounds Change Signal)
    (program : Program Value)
    (ensures : Value → Prop) : Prop :=
  ∀ pending, (∀ change ∈ pending, bounds.writes change) →
    Process.Confined bounds (program pending) fun (result, after) =>
      (∀ change ∈ after, bounds.writes change) ∧
        ∀ value, result = .ok value → ensures value

namespace Confined

variable {ensures weaker : Value → Prop} {concludes : Result → Prop}
variable {program : Program Value} {rest : Value → Program Result}

/-- A program ensures whatever follows from what it ensures. -/
theorem weaken
    (confined : Confined bounds program ensures)
    (implies : ∀ value, ensures value → weaker value) :
    Confined bounds program weaker := by
  intro pending held
  refine (confined pending held).weaken ?_
  rintro ⟨result, after⟩ ⟨kept, holds⟩
  exact ⟨kept, fun value returned => implies value (holds value returned)⟩

theorem pure
    {value : Value}
    (holds : ensures value) :
    Confined bounds (pure value : Program Value) ensures := by
  intro pending held
  refine ⟨held, ?_⟩
  rintro _ ⟨⟩
  exact holds

/-- A value of which nothing is said. -/
theorem done {value : Value} :
    Confined bounds (Pure.pure value : Program Value) fun _ => True :=
  pure trivial

theorem raise (failure : Failure) :
    Confined bounds (Program.raise failure : Program Value) ensures :=
  fun _ held => ⟨held, nofun⟩

/-- The rest of a program may rely on what the first part ensures. -/
theorem bind
    (first : Confined bounds program ensures)
    (second : ∀ value, ensures value → Confined bounds (rest value) concludes) :
    Confined bounds (program >>= rest) concludes := by
  intro pending held
  refine (first pending held).andThen ?_
  rintro ⟨result, after⟩ ⟨kept, holds⟩
  cases result with
  | ok value => exact second value (holds value rfl) after kept
  | error failure => exact ⟨kept, nofun⟩

/-- A caught failure stays within the bounds; a value is ensured as before. -/
theorem attempt (confined : Confined bounds program ensures) :
    Confined bounds (Program.attempt program)
      fun result => ∀ value, result = .ok value → ensures value := by
  intro pending held
  refine (confined pending held).andThen ?_
  rintro ⟨result, after⟩ ⟨kept, holds⟩
  refine ⟨kept, ?_⟩
  rintro _ ⟨⟩
  exact holds

/-- A computed result ensures a property of its value; a failure ends the program. -/
theorem ofExcept
    {result : Except Failure Value}
    (holds : ∀ value, result = .ok value → ensures value) :
    Confined bounds (Program.ofExcept result) ensures := by
  cases result with
  | ok value => exact pure (holds value rfl)
  | error failure => exact raise failure

/-- Each branch of a condition may use that it was taken. -/
theorem ite
    {condition : Prop}
    [Decidable condition]
    {first second : Program Value}
    (taken : condition → Confined bounds first ensures)
    (missed : ¬condition → Confined bounds second ensures) :
    Confined bounds (if condition then first else second) ensures := by
  split
  · next holds => exact taken holds
  · next fails => exact missed fails

/-- An interaction that the bounds allow. -/
theorem ask
    {signal : Signal}
    {ensures : signal.Reply → Prop}
    (asks : bounds.asks signal)
    (answered : ∀ reply, ensures reply) :
    Confined bounds (Program.ask signal) ensures := by
  intro pending held
  refine ⟨asks, fun reply => ⟨held, ?_⟩⟩
  rintro _ ⟨⟩
  exact answered reply

/-- A statement whose changes are within the bounds, whatever it reads. -/
theorem execute
    {changes : Database → List Change}
    {read : Database → Value}
    (makes : ∀ view, ∀ change ∈ changes view, bounds.writes change)
    (reads : ∀ view, ensures (read view)) :
    Confined bounds (Program.execute changes read) ensures := by
  intro pending held
  constructor
  · rintro view _ ⟨⟩
    exact makes view
  · intro result
    refine ⟨held, ?_⟩
    cases result with
    | ran view =>
        rintro _ ⟨⟩
        exact reads view
    | violated | failed => exact nofun

theorem query
    {read : Database → Value}
    (reads : ∀ view, ensures (read view)) :
    Confined bounds (Program.query read) ensures :=
  execute (fun _ _ member => (List.not_mem_nil member).elim) reads

theorem look {read : Database → Value} :
    Confined bounds (Program.query read) fun _ => True :=
  query fun _ => trivial

/-- A change that waits for the flush is one that the program writes. -/
theorem stage
    {change : Change}
    (makes : bounds.writes change) :
    Confined bounds (Program.stage change) fun _ => True := by
  intro pending held
  refine ⟨?_, fun _ _ => trivial⟩
  intro other member
  rcases List.mem_append.mp member with earlier | fresh
  · exact held other earlier
  · exact List.mem_singleton.mp fresh ▸ makes

theorem flush : Confined bounds Program.flush fun _ => True := by
  intro pending held
  cases pending with
  | nil => exact ⟨held, fun _ _ => trivial⟩
  | cons change rest =>
      constructor
      · rintro view _ ⟨⟩ write member
        exact held write (mem_unitOfWork.mp member)
      · intro result
        refine ⟨?_, fun _ _ => trivial⟩
        cases result with
        | ran view => exact fun _ member => (List.not_mem_nil member).elim
        | violated | failed => exact held

/-- Only programs that transact end a transaction. -/
theorem commit (transacts : bounds.transacts) :
    Confined bounds Program.commit fun _ => True :=
  bind flush fun _ _ _ held => ⟨transacts, fun _ => ⟨held, fun _ _ => trivial⟩⟩

theorem rollback (transacts : bounds.transacts) :
    Confined bounds Program.rollback fun _ => True :=
  fun _ _ => ⟨transacts, fun _ member => (List.not_mem_nil member).elim, fun _ _ => trivial⟩

/-- `finally`: the cleanup stays within the bounds as well. -/
theorem ensuring
    {cleanup : Program Unit}
    (body : Confined bounds program ensures)
    (cleans : Confined bounds cleanup fun _ => True) :
    Confined bounds (Program.ensuring program cleanup) ensures :=
  bind body.attempt fun _ returned => bind cleans fun _ _ => ofExcept returned

/-- A session ends its transaction, so that only a transacting program opens one. -/
theorem session
    (transacts : bounds.transacts)
    (body : Confined bounds program ensures) :
    Confined bounds (Program.session program) ensures :=
  ensuring body (rollback transacts)

theorem sessionScope
    (transacts : bounds.transacts)
    (body : Confined bounds program ensures) :
    Confined bounds (Program.sessionScope program) ensures := by
  refine session transacts (bind (attempt (bind body fun value returned =>
    bind (commit transacts) fun _ _ => pure returned)) fun result holds => ?_)
  cases result with
  | ok value => exact pure (holds value rfl)
  | error failure => exact bind (rollback transacts) fun _ _ => raise failure

/-- A loop stays within the bounds if each of its rounds does. -/
theorem forEach
    {items : List Value}
    {body : Value → Program Unit}
    (each : ∀ item, Confined bounds (body item) fun _ => True) :
    Confined bounds (Program.forEach items body) fun _ => True := by
  induction items with
  | nil => exact pure trivial
  | cons item rest inductionHypothesis => exact bind (each item) fun _ _ => inductionHypothesis

theorem loadContact (key : Nat) :
    Confined bounds (Program.loadContact key) fun _ => True :=
  fun pending held => query (fun _ => trivial) pending held

/-- What is required is present in what follows. -/
theorem required {value : Option Value} :
    Confined bounds (Native.required value) fun present => value = some present := by
  cases value with
  | some present => exact pure rfl
  | none => exact raise _

end Confined
end Program

/-! ## Plain changes -/

/-- The changes of operations that neither configure a mailbox, nor poll one, nor approve
a draft, nor create a contact, nor count a follow-up. -/
def Change.Plain : Change → Prop
  | insertContact _ => False
  | insertMessage row => row.mailboxId = none
  | updateContact _ patch => patch.followUpIndex = none
  | recordSend _ _ => False
  | insertMailbox _ => False
  | insertUnmatched _ => False
  | updateMailbox _ _ => False
  | resolveRetained _ _ _ => False
  | _ => True

/-- The interactions that are not those of a poll. -/
def Signal.Plain : Signal → Prop
  | login _ | select | search | fetch _ | leftUnseen _ | storeSeen _ _ _ => False
  | _ => True

/-- Bounds that admit all plain changes and interactions besides their own. -/
def withPlain (bounds : Bounds Change Signal) : Bounds Change Signal where
  writes change := change.Plain ∨ bounds.writes change
  asks signal := signal.Plain ∨ bounds.asks signal
  transacts := bounds.transacts

/-- A plain program: it stays within any bounds that admit what is plain. -/
abbrev Plain
    (bounds : Bounds Change Signal)
    {Value : Type}
    (program : Program Value) : Prop :=
  program.Confined (withPlain bounds) fun _ => True

/-- The change of an approval. -/
def Change.Approves : Change → Prop
  | recordSend _ _ => True
  | _ => False

/-- Besides what is plain the change of an approval, and the ends of transactions. -/
def transacting : Bounds Change Signal where
  writes := Change.Approves
  asks _ := False
  transacts := True

/-- A new contact was sent no follow-up, and none is scheduled. -/
def Change.Enrolls : Change → Prop
  | insertContact row => row.followUpIndex = 0 ∧ row.nextActionAt = none
  | _ => False

/-- Approvals, updates that may count a follow-up, and new contacts. -/
def Change.Works : Change → Prop
  | insertContact row => row.followUpIndex = 0 ∧ row.nextActionAt = none
  | updateContact _ _ => True
  | recordSend _ _ => True
  | _ => False

/-- Everything that operations do that neither configure a mailbox nor poll one. -/
def working : Bounds Change Signal where
  writes := Change.Works
  asks _ := False
  transacts := True

/-- What creates contacts does nothing else. -/
def enrolling : Bounds Change Signal where
  writes := Change.Enrolls
  asks _ := False
  transacts := True

/-- A patch that leaves the claim on a contact alone, or ends it. -/
def ContactPatch.takesNoClaim (patch : ContactPatch) : Bool :=
  patch.claimedBy == some none || patch.claimedBy.isNone && patch.claimedAt.isNone

/-- What a handler notes besides its messages and its contact. -/
def Change.Notes : Change → Prop
  | insertSuppression _ | interpretMessage _ _ _ => True
  | _ => False

/-- Bounds that admit what is done about one contact: updates of contacts that count no
follow-up and take no claim, new outbound messages without a mailbox, notes, and plain
interactions. -/
class Admits (bounds : Bounds Change Signal) : Prop where
  updates : ∀ {key patch}, patch.followUpIndex = none → patch.takesNoClaim = true →
    bounds.writes (.updateContact key patch)
  messages : ∀ {row}, row.mailboxId = none → row.direction = .outbound →
    bounds.writes (.insertMessage row)
  notes : ∀ {change}, change.Notes → bounds.writes change
  asks : ∀ {signal}, signal.Plain → bounds.asks signal

/-- The same without the start of an operation that may send, and without its calls. -/
class Tends (bounds : Bounds Change Signal) : Prop where
  updates : ∀ {key patch}, patch.followUpIndex = none → patch.takesNoClaim = true →
    bounds.writes (.updateContact key patch)
  messages : ∀ {row}, row.mailboxId = none → row.direction = .outbound →
    bounds.writes (.insertMessage row)
  notes : ∀ {change}, change.Notes → bounds.writes change
  asks : ∀ {signal}, signal.Quiet → signal.Plain → bounds.asks signal

instance {bounds : Bounds Change Signal} [Admits bounds] : Tends bounds where
  updates := Admits.updates
  messages := Admits.messages
  notes := Admits.notes
  asks _ plain := Admits.asks plain

instance {bounds : Bounds Change Signal} : Admits (withPlain bounds) where
  updates uncounted _ := .inl uncounted
  messages unbound _ := .inl unbound
  notes {change} notes := by
    cases change with
    | insertSuppression row => exact .inl trivial
    | interpretMessage contactId reference interpretation => exact .inl trivial
    | _ => exact notes.elim
  asks plain := .inl plain

open Program

/-- A program within bounds. -/
abbrev Heeds
    (bounds : Bounds Change Signal)
    {Value : Type}
    (program : Program Value) : Prop :=
  program.Confined bounds fun _ => True

section Statements

variable {bounds : Bounds Change Signal} {Value : Type}

theorem plain_pure {value : Value} :
    Heeds bounds (pure value : Program Value) :=
  Confined.pure trivial

theorem plain_query {read : Database → Value} :
    Heeds bounds (query read) :=
  Confined.look

theorem plain_required {value : Option Value} :
    Heeds bounds (required value) :=
  Confined.required.weaken fun _ _ => trivial

theorem plain_ofExcept {result : Except Failure Value} :
    Heeds bounds (ofExcept result) :=
  Confined.ofExcept fun _ _ => trivial

end Statements

section Contacts

variable {bounds : Bounds Change Signal} [Tends bounds] {key : Nat} {contact : Contact}

theorem plain_utcnow : Heeds bounds utcnow :=
  Confined.ask (Tends.asks trivial trivial) fun _ => trivial

/-- A contact is written without a change of its counter or a new claim. -/
theorem plain_assign
    {patch : ContactPatch}
    (uncounted : patch.followUpIndex = none)
    (gentle : patch.takesNoClaim = true) :
    Heeds bounds (assign key contact patch) :=
  Confined.bind plain_utcnow fun _ _ =>
    Confined.bind (Confined.stage (Tends.updates uncounted gentle)) fun _ _ =>
      Confined.pure trivial

/-- Moving a contact leaves its counter and its claim alone. -/
theorem plain_transitionContactState {event : StateTransitionEvent} :
    Heeds bounds (transitionContactState key contact event) := by
  unfold transitionContactState
  split
  · exact Confined.pure trivial
  · exact Confined.bind (plain_assign rfl rfl) fun _ _ => Confined.pure trivial

/-- A new message that no mailbox has received. -/
theorem plain_addMessage
    {message : Message}
    (unbound : message.mailboxId = none)
    (outbound : message.direction = .outbound) :
    Heeds bounds (addMessage message) :=
  Confined.bind plain_utcnow fun _ _ =>
    Confined.bind (Confined.ask (Tends.asks trivial trivial) fun _ => trivial) fun _ _ =>
      Confined.stage (Tends.messages unbound outbound)

/-- A summary changes the memory of the contact only. -/
theorem plain_maybeSummarizeOlderMessages {messages : List Message} :
    Heeds bounds (maybeSummarizeOlderMessages key contact messages) := by
  refine Confined.ite (fun _ => Confined.pure trivial) fun _ => ?_
  refine Confined.bind (Confined.ask (Tends.asks trivial trivial) fun _ => trivial)
    fun reply _ => ?_
  cases reply with
  | summarized text => exact Confined.bind (plain_assign rfl rfl) fun _ _ => Confined.flush
  | unavailable => exact Confined.pure trivial
  | raised name => exact Confined.raise _

theorem plain_draftMessage {action : DraftAction} :
    Heeds bounds (draftMessage key action) := by
  refine Confined.bind (Confined.ask (Tends.asks trivial trivial) fun _ => trivial)
    fun reply _ => ?_
  cases reply with
  | drafted draft => exact Confined.pure trivial
  | contextualFallbackUnavailable | raised name => exact Confined.raise _

/-- A contact that waits for a review keeps its counter. -/
theorem plain_parkForGroundingReview :
    Heeds bounds (parkForGroundingReview key contact) :=
  Confined.bind plain_transitionContactState fun _ _ => plain_assign rfl rfl

theorem plain_escalateUnknown : Heeds bounds (escalateUnknown key contact) :=
  Confined.bind plain_transitionContactState fun _ _ => plain_assign rfl rfl

end Contacts

section Sending

variable {bounds : Bounds Change Signal} [Admits bounds] {deployment : Deployment} {key : Nat}

theorem plain_begin : Heeds bounds begin :=
  Confined.ask (Admits.asks trivial) fun _ => trivial

/-- Whether the mail was accepted or refused, the sender writes no row. -/
theorem plain_sendEmail
    {origin : SendOrigin}
    {arguments : SendEmailArguments} :
    Heeds bounds (sendEmail deployment.settings origin key arguments) := by
  refine Confined.bind (Confined.ask (Admits.asks trivial) fun _ => trivial) fun behaviour _ => ?_
  split
  · exact Confined.pure trivial
  · exact Confined.raise _

end Sending

/-! ## Outreach -/

section Outreach

variable {bounds : Bounds Change Signal} [Admits bounds]
variable {deployment : Deployment} {key : Nat} {contact : Contact}
variable {campaign : Campaign} {result : SendResult}

/-- What follows the first message dates the contact and leaves its counter. -/
theorem plain_afterInitialSend :
    Heeds bounds (afterInitialSend key contact campaign result) := by
  refine Confined.ite (fun _ => ?_) fun _ => Confined.ite (fun _ => plain_escalateUnknown)
    fun _ => Confined.pure trivial
  refine Confined.bind plain_transitionContactState fun ⟨moved, _⟩ _ => ?_
  refine Confined.bind plain_utcnow fun sentAt _ => ?_
  refine Confined.bind (plain_assign rfl rfl) fun stamped _ => ?_
  refine Confined.bind plain_utcnow fun now _ => ?_
  exact Confined.bind plain_ofExcept fun next _ => plain_assign rfl rfl

/-- The first message goes out, waits for a review or is skipped. -/
theorem plain_sendInitialOutreach :
    Heeds bounds (sendInitialOutreach deployment key contact) := by
  refine Confined.bind plain_begin fun _ _ => ?_
  refine Confined.bind plain_query fun loaded _ => ?_
  refine Confined.ite (fun _ => Confined.pure trivial) fun _ => ?_
  refine Confined.bind plain_query fun suppressed _ => ?_
  refine Confined.ite (fun _ => ?_) fun _ => ?_
  · exact Confined.bind plain_transitionContactState fun _ _ =>
      Confined.bind Confined.flush fun _ _ => Confined.pure trivial
  refine Confined.bind plain_required fun campaign _ => ?_
  refine Confined.bind plain_query fun messages _ => ?_
  refine Confined.bind plain_draftMessage fun draft _ => ?_
  refine Confined.ite (fun _ => ?_) fun _ => ?_
  · refine Confined.bind (plain_addMessage rfl rfl) fun _ _ => ?_
    exact Confined.bind plain_parkForGroundingReview fun _ _ =>
      Confined.bind Confined.flush fun _ _ => Confined.pure trivial
  refine Confined.bind plain_sendEmail fun result _ => ?_
  refine Confined.bind (plain_addMessage rfl rfl) fun _ _ => ?_
  refine Confined.bind plain_afterInitialSend fun current _ => ?_
  refine Confined.bind Confined.flush fun _ _ => ?_
  exact Confined.bind plain_maybeSummarizeOlderMessages fun _ _ => Confined.pure trivial

theorem plain_exhaustSequence {next : Option Instant} :
    Heeds bounds (exhaustSequence key contact next) :=
  Confined.ite
    (fun _ => Confined.bind plain_transitionContactState fun _ _ => Confined.pure trivial)
    fun _ => Confined.pure trivial

/-- A follow-up moves the counter, which only some bounds allow. -/
theorem plain_afterFollowup
    (counts : ∀ key patch, patch.takesNoClaim = true →
      bounds.writes (.updateContact key patch)) :
    Heeds bounds (afterFollowup key contact campaign result) := by
  refine Confined.ite (fun _ => ?_) fun _ => Confined.ite (fun _ => plain_escalateUnknown)
    fun _ => Confined.pure trivial
  refine Confined.bind plain_transitionContactState fun ⟨moved, _⟩ _ => ?_
  refine Confined.bind plain_utcnow fun sentAt _ => ?_
  have stages : Heeds bounds (assign key moved
      { lastOutboundAt := some sentAt, followUpIndex := some (moved.followUpIndex + 1) }) :=
    Confined.bind plain_utcnow fun _ _ =>
      Confined.bind (Confined.stage (counts _ _ rfl)) fun _ _ => Confined.pure trivial
  refine Confined.bind stages fun counted _ => ?_
  refine Confined.bind plain_utcnow fun now _ => ?_
  refine Confined.bind plain_ofExcept fun next _ => ?_
  exact Confined.bind plain_exhaustSequence fun ended _ => plain_assign rfl rfl

/-- A due follow-up, for bounds that let the counter move. -/
theorem plain_sendFollowupIfDue
    {origin : Nat → SendOrigin}
    (counts : ∀ key patch, patch.takesNoClaim = true →
      bounds.writes (.updateContact key patch)) :
    Heeds bounds (sendFollowupIfDue deployment origin key contact) := by
  refine Confined.bind plain_begin fun _ _ => ?_
  refine Confined.bind plain_query fun loaded _ => ?_
  refine Confined.ite (fun _ => Confined.pure trivial) fun _ => ?_
  refine Confined.bind plain_utcnow fun checkedAt _ => ?_
  refine Confined.bind plain_ofExcept fun due _ => ?_
  refine Confined.ite (fun _ => Confined.pure trivial) fun _ => ?_
  refine Confined.bind plain_utcnow fun confirmedAt _ => ?_
  refine Confined.bind plain_ofExcept fun confirmed _ => ?_
  refine Confined.ite (fun _ => Confined.pure trivial) fun _ => ?_
  refine Confined.bind plain_query fun suppressed _ => ?_
  refine Confined.ite (fun _ => ?_) fun _ => ?_
  · refine Confined.bind plain_transitionContactState fun ⟨moved, _⟩ _ => ?_
    exact Confined.bind (plain_assign rfl rfl) fun _ _ =>
      Confined.bind Confined.flush fun _ _ => Confined.pure trivial
  refine Confined.bind plain_required fun campaign _ => ?_
  refine Confined.bind plain_utcnow fun hintedAt _ => ?_
  refine Confined.bind plain_ofExcept fun _ _ => ?_
  refine Confined.bind plain_query fun messages _ => ?_
  refine Confined.bind plain_draftMessage fun draft _ => ?_
  refine Confined.ite (fun _ => ?_) fun _ => ?_
  · refine Confined.bind (plain_addMessage rfl rfl) fun _ _ => ?_
    exact Confined.bind plain_parkForGroundingReview fun _ _ =>
      Confined.bind Confined.flush fun _ _ => Confined.pure trivial
  refine Confined.bind plain_sendEmail fun result _ => ?_
  refine Confined.bind (plain_addMessage rfl rfl) fun _ _ => ?_
  refine Confined.bind (plain_afterFollowup counts) fun current _ => ?_
  refine Confined.bind Confined.flush fun _ _ => ?_
  exact Confined.bind plain_maybeSummarizeOlderMessages fun _ _ => Confined.pure trivial

end Outreach

/-! ## Scheduler jobs -/

section Jobs

variable {deployment : Deployment} {workerId : String} {locked : List Nat}

/-- The claims of a batch are plain changes, because no counter moves. -/
theorem plain_claimDueContacts
    {bounds : Bounds Change Signal}
    {status : ContactStatus}
    {limit : Nat} :
    Plain bounds (claimDueContacts deployment workerId status locked limit) := by
  refine Confined.bind plain_utcnow fun now _ => Confined.execute ?_ fun _ => trivial
  intro view change member
  obtain ⟨key, -, rfl⟩ := List.mem_map.mp member
  exact .inl rfl

/-- A release gives up a claim and takes none. -/
theorem plain_releaseClaim
    {bounds : Bounds Change Signal}
    [Admits bounds]
    {key : Nat}
    {contact : Contact} :
    Heeds bounds (releaseClaim key contact) :=
  Confined.bind (plain_assign rfl rfl) fun _ _ => Confined.flush

theorem plain_releaseAllClaims {bounds : Bounds Change Signal} :
    Plain bounds (releaseAllClaims workerId) := by
  refine Confined.execute ?_ fun _ => trivial
  intro view change member
  obtain ⟨key, -, rfl⟩ := List.mem_map.mp member
  exact .inl rfl

/-- Recovery gives up the claims that have expired. -/
theorem plain_recoverExpiredClaims
    {bounds : Bounds Change Signal}
    [Admits bounds] :
    Heeds bounds (recoverExpiredClaims deployment) := by
  refine Confined.bind plain_utcnow fun now _ => ?_
  refine Confined.bind plain_query fun stale _ => ?_
  refine Confined.bind (Confined.forEach fun ⟨key, contact⟩ => ?_) fun _ _ => Confined.flush
  exact Confined.bind (plain_assign rfl rfl) fun _ _ => Confined.pure trivial

theorem plain_dispatchNewContact
    {key : Nat}
    {contact : Contact} :
    Plain transacting (dispatchNewContact deployment key contact) := by
  refine Confined.ensuring ?_ plain_releaseClaim
  have sends : Plain transacting (do
      let _ ← sendInitialOutreach deployment key contact
      commit) :=
    Confined.bind plain_sendInitialOutreach fun _ _ => Confined.commit trivial
  refine Confined.bind sends.attempt fun processed _ => ?_
  cases processed with
  | ok _ => exact Confined.pure trivial
  | error failure => exact Confined.rollback trivial

/-- The contacts of a batch, one after the other. -/
theorem plain_dispatchNewContacts {due : List (Nat × Contact)} :
    Plain transacting (dispatchNewContacts deployment due) := by
  cases due with
  | nil => exact Confined.pure trivial
  | cons first rest =>
      refine Confined.bind plain_dispatchNewContact fun _ _ => ?_
      refine Confined.forEach fun ⟨other, stale⟩ => ?_
      exact Confined.bind (Confined.loadContact other) fun _ _ => plain_dispatchNewContact

/-- The job of the scheduler for new contacts. -/
theorem plain_dispatchNewContactsJob :
    Plain transacting (dispatchNewContactsJob deployment workerId locked) := by
  refine Confined.sessionScope trivial ?_
  refine Confined.bind plain_recoverExpiredClaims fun _ _ => ?_
  refine Confined.bind plain_claimDueContacts fun claimed _ => ?_
  refine Confined.ite (fun _ => Confined.pure trivial) fun _ => ?_
  exact Confined.bind plain_query fun due _ => plain_dispatchNewContacts

/-- The cycle for follow-ups; it is the one that moves counters. -/
theorem plain_runFollowupCycle :
    Plain working (runFollowupCycle deployment workerId locked) := by
  refine Confined.bind plain_recoverExpiredClaims fun _ _ => ?_
  refine Confined.bind plain_claimDueContacts fun claimed _ => ?_
  refine Confined.ite (fun _ => Confined.pure trivial) fun _ => ?_
  refine Confined.bind plain_query fun due _ => ?_
  refine Confined.bind (Confined.forEach fun ⟨key, contact⟩ => ?_) fun _ _ =>
    Confined.commit trivial
  refine Confined.ensuring ?_ plain_releaseClaim
  have sends : Plain working (sendFollowupIfDue deployment .followUp key contact) :=
    plain_sendFollowupIfDue fun _ _ _ => .inr trivial
  exact Confined.bind sends.attempt fun _ _ => Confined.pure trivial

end Jobs

/-! ## Inbound messages -/

section Tending

variable {bounds : Bounds Change Signal} [Tends bounds] {key : Nat} {contact : Contact}
variable {classified : ClassificationResult}

/-- A request to unsubscribe adds an entry and moves the contact. -/
theorem plain_handleUnsubscribe : Heeds bounds (handleUnsubscribe key contact) := by
  refine Confined.bind plain_query fun organization _ => ?_
  refine Confined.bind plain_query fun existing _ => ?_
  have leaves : Heeds bounds (leaveCadence key contact) :=
    Confined.bind plain_transitionContactState fun _ _ => plain_assign rfl rfl
  refine Confined.ite (fun _ => ?_) fun _ => leaves
  exact Confined.bind (Confined.stage (Tends.notes trivial)) fun _ _ => leaves

theorem plain_promoteIfSent : Heeds bounds (promoteIfSent key contact) := by
  refine Confined.ite (fun _ => ?_) fun _ => Confined.pure trivial
  refine Confined.bind plain_query fun sent _ => ?_
  refine Confined.ite (fun _ => ?_) fun _ => Confined.pure trivial
  exact Confined.bind plain_transitionContactState fun _ _ => Confined.pure trivial

/-- A contact of the integration is moved in up to three transitions. -/
theorem plain_advanceIntegrationContact {event : StateTransitionEvent} :
    Heeds bounds (advanceIntegrationContact key contact event) := by
  refine Confined.bind plain_promoteIfSent fun promoted _ => ?_
  refine Confined.bind plain_transitionContactState fun ⟨moved, success⟩ _ => ?_
  refine Confined.ite (fun _ => Confined.pure trivial) fun _ => ?_
  refine Confined.bind plain_transitionContactState fun ⟨replied, again⟩ _ => ?_
  refine Confined.ite (fun _ => ?_) fun _ => Confined.pure trivial
  exact Confined.bind plain_transitionContactState fun _ _ => Confined.pure trivial

/-- After an automatic reply the contact is dated or handed to a human. -/
theorem plain_afterAutomaticReply {result : SendResult} :
    Heeds bounds (afterAutomaticReply key contact result) := by
  refine Confined.ite (fun _ => ?_) fun _ => Confined.ite (fun _ => plain_escalateUnknown)
    fun _ => Confined.pure trivial
  exact Confined.bind plain_utcnow fun sentAt _ => plain_assign rfl rfl

/-- The classification is noted on the message and on the contact. -/
theorem plain_recordClassification {reference : String} :
    Heeds bounds (recordClassification key contact reference classified) := by
  unfold recordClassification
  split
  · exact Confined.bind (Confined.stage (Tends.notes trivial)) fun _ _ => plain_assign rfl rfl
  · exact Confined.bind (Confined.stage (Tends.notes trivial)) fun _ _ => Confined.pure trivial

end Tending

section Inbound

variable {bounds : Bounds Change Signal} [Admits bounds]
variable {deployment : Deployment} {key : Nat} {contact : Contact}
variable {campaign : Campaign} {loaded : Option Campaign} {email : InboundEmail}
variable {intent : SemanticIntent} {classified : ClassificationResult}

/-- A reply is sent, or kept as a draft; the message of it is outbound. -/
theorem plain_sendOrHoldReply
    {plan : ReplyPlan}
    {draft : Draft} :
    Heeds bounds (sendOrHoldReply deployment key contact campaign email plan draft) := by
  refine Confined.bind plain_query fun suppressed _ => ?_
  refine Confined.ite (fun _ => ?_) fun _ => ?_
  · refine Confined.bind plain_sendEmail fun result _ => ?_
    refine Confined.bind plain_afterAutomaticReply fun _ _ => ?_
    exact Confined.bind (plain_addMessage rfl rfl) fun _ _ => Confined.pure trivial
  · exact Confined.bind (plain_addMessage rfl rfl) fun _ _ => Confined.pure trivial

/-- Planning and drafting write nothing by themselves. -/
theorem plain_draftAndMaybeSendReply :
    Heeds bounds (draftAndMaybeSendReply deployment key contact campaign email intent) := by
  refine Confined.bind plain_begin fun _ _ => ?_
  refine Confined.bind (Confined.ask (Admits.asks trivial) fun _ => trivial) fun planned _ => ?_
  cases planned with
  | error name => exact Confined.raise _
  | ok plan =>
      refine Confined.bind (Confined.ask (Admits.asks trivial) fun _ => trivial) fun reply _ => ?_
      cases reply with
      | raised name => exact Confined.raise _
      | contextualFallbackUnavailable =>
          exact Confined.bind plain_transitionContactState fun _ _ => Confined.pure trivial
      | drafted draft => exact plain_sendOrHoldReply

theorem plain_continueConversation :
    Heeds bounds (continueConversation deployment key contact loaded email intent) := by
  refine Confined.bind plain_transitionContactState fun ⟨moved, _⟩ _ => ?_
  refine Confined.bind plain_required fun campaign _ => ?_
  refine Confined.bind plain_utcnow fun now _ => ?_
  refine Confined.bind plain_ofExcept fun next _ => ?_
  exact Confined.bind (plain_assign rfl rfl) fun scheduled _ => plain_draftAndMaybeSendReply

/-- Every branch on the intents stays within the plain changes. -/
theorem plain_applyIntent :
    Heeds bounds (applyIntent deployment key contact loaded email intent) := by
  refine Confined.ite (fun _ => ?_) fun _ => ?_
  · exact Confined.bind plain_handleUnsubscribe fun _ _ => Confined.pure trivial
  refine Confined.ite (fun _ => ?_) fun _ => ?_
  · refine Confined.bind plain_transitionContactState fun ⟨moved, _⟩ _ => ?_
    exact Confined.bind (plain_assign rfl rfl) fun _ _ => Confined.pure trivial
  refine Confined.ite (fun _ => Confined.pure trivial) fun _ => ?_
  refine Confined.ite (fun _ => ?_) fun _ => plain_continueConversation
  refine Confined.bind plain_advanceIntegrationContact fun advanced _ => ?_
  exact Confined.bind (plain_assign rfl rfl) fun _ _ => Confined.pure trivial

theorem plain_applyClassification :
    Heeds bounds
      (applyClassification deployment key contact loaded email classified) := by
  refine Confined.ite (fun _ => ?_) fun _ => ?_
  · refine Confined.bind plain_transitionContactState fun ⟨moved, _⟩ _ => ?_
    exact Confined.bind (plain_assign rfl rfl) fun _ _ => Confined.pure trivial
  split
  · exact Confined.bind plain_transitionContactState fun _ _ => Confined.pure trivial
  · exact plain_applyIntent

/-- The handling of a stored message ends no transaction. -/
theorem plain_classifyAndApplyInbound {reference : String} :
    Heeds bounds
      (classifyAndApplyInbound deployment key contact loaded email reference) := by
  refine Confined.bind plain_utcnow fun repliedAt _ => ?_
  refine Confined.bind (plain_assign rfl rfl) fun replied _ => ?_
  refine Confined.bind plain_query fun messages _ => ?_
  refine Confined.bind (Confined.ask (Admits.asks trivial) fun _ => trivial) fun answer _ => ?_
  cases answer with
  | error name => exact Confined.raise _
  | ok classified =>
      refine Confined.bind plain_recordClassification fun recorded _ => ?_
      refine Confined.bind plain_applyClassification fun action _ => ?_
      refine Confined.bind Confined.flush fun _ _ => ?_
      exact Confined.bind plain_maybeSummarizeOlderMessages fun _ _ => Confined.pure trivial

/-- A correlated message is stored, handled and committed. -/
theorem plain_receiveCorrelated {organization : Option String} :
    Plain transacting (receiveCorrelated deployment organization email key) := by
  refine Confined.bind (Confined.loadContact key) fun found _ => ?_
  refine Confined.bind plain_required fun contact _ => ?_
  refine Confined.bind plain_query fun campaign _ => ?_
  refine Confined.bind (Confined.ask (.inl trivial) fun _ => trivial) fun reference _ => ?_
  refine Confined.bind plain_utcnow fun createdAt _ => ?_
  refine Confined.bind (Confined.stage (.inl rfl)) fun _ _ => ?_
  refine Confined.bind Confined.flush.attempt fun flushed _ => ?_
  cases flushed with
  | ok _ =>
      exact Confined.bind plain_classifyAndApplyInbound fun _ _ => Confined.pure trivial
  | error failure =>
      cases failure with
      | integrity =>
          refine Confined.bind (Confined.rollback trivial) fun _ _ => ?_
          exact Confined.bind plain_query fun _ _ => Confined.pure trivial
      | database | http status detail | raised name => exact Confined.raise _

theorem plain_correlate
    {bounds : Bounds Change Signal}
    {organization : Option String} :
    Plain bounds (correlate organization email) := by
  have falls : ∀ byThread, Plain bounds
      (if Option.isSome byThread || !(threadReferences email).isEmpty then pure byThread
        else query (findContactByEmail organization email)) :=
    fun byThread => Confined.ite (fun _ => Confined.pure trivial) fun _ => plain_query
  refine Confined.ite (fun _ => ?_) fun _ => ?_
  · exact Confined.bind plain_pure fun byThread _ => falls byThread
  · exact Confined.bind plain_query fun byThread _ => falls byThread

/-- The handler of the webhook and of the legacy poll. -/
theorem plain_processInboundEmailV2 {organization : Option String} :
    Plain transacting (processInboundEmailV2 deployment email organization) := by
  have handles : ∀ existing : Option (Nat × Message), Plain transacting
      (receiveUnlessDuplicate deployment organization email.normalized existing) := by
    intro existing
    cases existing with
    | some duplicate => exact Confined.pure trivial
    | none =>
        refine Confined.bind plain_correlate fun correlated _ => ?_
        cases correlated with
        | none => exact Confined.pure trivial
        | some key => exact plain_receiveCorrelated
  refine Confined.ite (fun _ => ?_) fun _ => ?_
  · exact Confined.bind plain_query fun existing _ => handles existing
  · exact Confined.bind plain_pure fun existing _ => handles existing

/-- The legacy poll handles its messages one by one. -/
theorem plain_pollRepliesJob : Plain transacting (pollRepliesJob deployment) := by
  refine Confined.bind (Confined.ask (.inl trivial) fun _ => trivial) fun emails _ => ?_
  refine Confined.ite (fun _ => Confined.pure trivial) fun _ => ?_
  refine Confined.sessionScope trivial (Confined.forEach fun email => ?_)
  exact Confined.bind plain_processInboundEmailV2.attempt fun _ _ => Confined.pure trivial

theorem plain_receiveInboundEmail {organization : String} :
    Plain transacting (receiveInboundEmail deployment organization email) := by
  refine Confined.session trivial ?_
  refine Confined.bind plain_processInboundEmailV2 fun result _ => ?_
  exact Confined.bind (Confined.commit trivial) fun _ _ => Confined.pure trivial

end Inbound

/-! ## Routes -/

section Routes

variable {deployment : Deployment} {organization : String} {campaignId key : Nat}

/-- Looking a campaign up writes nothing. -/
theorem confined_getCampaignOr404 {bounds : Bounds Change Signal} :
    Confined bounds (getCampaignOr404 organization campaignId) fun _ => True := by
  refine Confined.bind Confined.look fun found _ => ?_
  cases found with
  | some campaign => exact Confined.pure trivial
  | none => exact Confined.raise _

theorem confined_validated
    {bounds : Bounds Change Signal}
    {email : String} :
    Confined bounds (validated deployment.services email) fun _ => True := by
  unfold validated
  split
  · exact Confined.pure trivial
  · exact Confined.raise _

theorem confined_validateContacts
    {bounds : Bounds Change Signal}
    {submitted : List ContactCreate} :
    Confined bounds (validateContacts deployment.services submitted) fun _ => True := by
  induction submitted with
  | nil => exact Confined.pure trivial
  | cons payload rest inductionHypothesis =>
      refine Confined.bind confined_validated fun email _ => ?_
      exact Confined.bind inductionHypothesis fun _ _ => Confined.pure trivial

/-- A contact that is added has not been written to and has no date. -/
theorem confined_addContact {payload : ContactCreate} :
    Confined enrolling (addContact campaignId payload) fun _ => True := by
  refine Confined.bind Confined.look fun suppressed _ => ?_
  refine Confined.ite (fun _ => Confined.pure trivial) fun _ => ?_
  refine Confined.bind Confined.look fun taken _ => ?_
  exact Confined.ite (fun _ => Confined.pure trivial) fun _ => Confined.stage ⟨rfl, rfl⟩

/-- The route that adds contacts inserts new ones only. -/
theorem confined_addContacts {submitted : List ContactCreate} :
    Confined enrolling (addContacts deployment organization campaignId submitted)
      fun _ => True := by
  refine Confined.session trivial ?_
  refine Confined.bind confined_validateContacts fun contacts _ => ?_
  refine Confined.bind confined_getCampaignOr404 fun _ _ => ?_
  refine Confined.bind (Confined.forEach fun _ => confined_addContact) fun _ _ => ?_
  refine Confined.bind Confined.flush.attempt fun flushed _ => ?_
  cases flushed with
  | ok _ => exact Confined.commit trivial
  | error failure =>
      cases failure with
      | integrity => exact Confined.bind (Confined.rollback trivial) fun _ _ => Confined.raise _
      | database | http status detail | raised name => exact Confined.raise _

/-- A lead is inserted as a new contact, or reported. -/
theorem confined_ingestLead
    {lead : List (String × LeadValue)}
    {report : IngestReport} :
    Confined enrolling (ingestLead deployment.services campaignId lead report)
      fun _ => True := by
  unfold ingestLead
  split
  · exact Confined.pure trivial
  · refine Confined.bind Confined.look fun suppressed _ => ?_
    refine Confined.ite (fun _ => Confined.pure trivial) fun _ => ?_
    refine Confined.bind Confined.look fun taken _ => ?_
    cases taken with
    | some key => exact Confined.pure trivial
    | none =>
        refine Confined.bind (Confined.stage ⟨rfl, rfl⟩) fun _ _ => ?_
        refine Confined.bind Confined.flush.attempt fun flushed _ => ?_
        cases flushed with
        | ok _ => exact Confined.pure trivial
        | error failure =>
            cases failure with
            | integrity =>
                exact Confined.bind (Confined.rollback trivial) fun _ _ => Confined.pure trivial
            | database | http status detail | raised name => exact Confined.raise _

theorem confined_ingestEach
    {leads : List (List (String × LeadValue))}
    {report : IngestReport} :
    Confined enrolling (ingestEach deployment.services campaignId leads report)
      fun _ => True := by
  induction leads generalizing report with
  | nil => exact Confined.pure trivial
  | cons lead rest inductionHypothesis =>
      exact Confined.bind confined_ingestLead fun next _ => inductionHypothesis

/-- The route that ingests leads inserts new contacts only. -/
theorem confined_ingestLeads {leads : List (List (String × LeadValue))} :
    Confined enrolling (ingestLeads deployment organization campaignId leads)
      fun _ => True := by
  refine Confined.session trivial ?_
  refine Confined.bind confined_getCampaignOr404 fun _ _ => ?_
  refine Confined.bind confined_ingestEach fun report _ => ?_
  exact Confined.bind (Confined.commit trivial) fun _ _ => Confined.pure trivial

/-- Starting a campaign switches it on and dates nobody. -/
theorem plain_startCampaign : Plain transacting (startCampaign organization campaignId) := by
  refine Confined.session trivial ?_
  refine Confined.bind confined_getCampaignOr404 fun campaign _ => ?_
  refine Confined.ite (fun _ => Confined.raise _) fun _ => ?_
  refine Confined.bind plain_query fun contacts _ => ?_
  refine Confined.ite (fun _ => Confined.pure trivial) fun _ => ?_
  refine Confined.bind plain_utcnow fun now _ => ?_
  refine Confined.bind (Confined.forEach fun ⟨other, contact⟩ => ?_) fun _ _ =>
    Confined.commit trivial
  exact Confined.bind (plain_assign rfl rfl) fun _ _ => Confined.pure trivial

theorem plain_getContactOr404 {bounds : Bounds Change Signal} :
    Plain bounds (getContactOr404 organization key) := by
  refine Confined.bind plain_query fun found _ => ?_
  cases found with
  | some contact => exact Confined.pure trivial
  | none => exact Confined.raise _

/-- The manual routes move one contact, with a patch that claims nothing. -/
theorem plain_moveContact
    {event : StateTransitionEvent}
    {verb advice : String}
    {patch : ContactPatch}
    (uncounted : patch.followUpIndex = none)
    (gentle : patch.takesNoClaim = true) :
    Plain transacting (moveContact organization key event verb advice patch) := by
  refine Confined.session trivial ?_
  refine Confined.bind plain_getContactOr404 fun contact _ => ?_
  refine Confined.bind plain_transitionContactState fun ⟨moved, success⟩ _ => ?_
  refine Confined.ite (fun _ => Confined.raise _) fun _ => ?_
  exact Confined.bind (plain_assign uncounted gentle) fun _ _ => Confined.commit trivial

/-- A forced follow-up is the one route that moves a counter. -/
theorem plain_forceFollowup :
    Plain working (forceFollowup deployment organization key) := by
  refine Confined.session trivial ?_
  refine Confined.bind plain_getContactOr404 fun contact _ => ?_
  refine Confined.bind plain_query fun campaign _ => ?_
  refine Confined.ite (fun _ => Confined.raise _) fun _ => ?_
  refine Confined.bind plain_utcnow fun now _ => ?_
  refine Confined.bind plain_ofExcept fun due _ => ?_
  refine Confined.ite (fun _ => Confined.raise _) fun _ => ?_
  refine Confined.bind plain_utcnow fun dueAt _ => ?_
  refine Confined.bind (plain_assign rfl rfl) fun _ _ => ?_
  refine Confined.bind (Confined.commit trivial) fun _ _ => ?_
  refine Confined.bind (Confined.loadContact key) fun found _ => ?_
  refine Confined.bind plain_required fun current _ => ?_
  refine Confined.bind (plain_sendFollowupIfDue fun _ _ _ => .inr trivial) fun action _ => ?_
  exact Confined.bind (Confined.commit trivial) fun _ _ => Confined.pure trivial

theorem plain_checkApprovable
    {bounds : Bounds Change Signal}
    {campaign : Option Campaign}
    {message : Message} :
    Plain bounds (checkApprovable campaign key message) := by
  refine Confined.ite (fun _ => Confined.raise _) fun _ => ?_
  refine Confined.bind plain_query fun owned _ => ?_
  refine Confined.ite (fun _ => Confined.raise _) fun _ => ?_
  exact Confined.ite (fun _ => Confined.raise _) fun _ => Confined.pure trivial

theorem plain_checkSendable
    {bounds : Bounds Change Signal}
    {contact : Contact}
    {campaign : Campaign}
    {message : Message}
    {transcript : String} :
    Plain bounds (checkSendable deployment contact campaign message transcript) := by
  refine Confined.ite (fun _ => Confined.raise _) fun _ => ?_
  exact Confined.ite (fun _ => Confined.raise _) fun _ => Confined.pure trivial

/-- An approved message is sent and recorded on its row. -/
theorem plain_approveMessage
    {message : Message}
    {contact : Contact} :
    Plain transacting (approveMessage deployment key message contact) := by
  refine Confined.bind plain_query fun loaded _ => ?_
  refine Confined.bind plain_checkApprovable fun _ _ => ?_
  refine Confined.bind plain_query fun suppressed _ => ?_
  refine Confined.ite (fun _ => Confined.raise _) fun _ => ?_
  refine Confined.bind plain_required fun campaign _ => ?_
  refine Confined.bind plain_query fun ⟨messages, transcript⟩ _ => ?_
  refine Confined.bind plain_checkSendable fun _ _ => ?_
  refine Confined.bind plain_sendEmail fun result _ => ?_
  exact Confined.bind (Confined.stage (.inr trivial)) fun _ _ => Confined.commit trivial

/-- The route that approves a draft and sends it. -/
theorem plain_approveAndSendDraft :
    Plain transacting (approveAndSendDraft deployment organization key) := by
  refine Confined.session trivial ?_
  refine Confined.bind plain_begin fun _ _ => ?_
  have loads : Plain transacting (getMessageOr404 organization key) := by
    refine Confined.bind plain_query fun found _ => ?_
    cases found with
    | some row => exact Confined.pure trivial
    | none => exact Confined.raise _
  exact Confined.bind loads fun ⟨message, contact⟩ _ => plain_approveMessage

/-- Suppressing an address adds an entry to the list. -/
theorem plain_suppressEmail
    {submitted : String}
    {reason : Option String} :
    Plain transacting (suppressEmail deployment organization submitted reason) := by
  refine Confined.session trivial ?_
  refine Confined.bind confined_validated fun email _ => ?_
  refine Confined.bind plain_query fun existing _ => ?_
  refine Confined.ite (fun _ => Confined.pure trivial) fun _ => ?_
  exact Confined.bind (Confined.stage (.inl trivial)) fun _ _ => Confined.commit trivial

theorem plain_createCampaign {payload : CampaignCreate} :
    Plain transacting (createCampaign organization payload) :=
  Confined.session trivial
    (Confined.bind (Confined.stage (.inl trivial)) fun _ _ => Confined.commit trivial)

end Routes

/-! ## Polls of mailboxes -/

/-- The changes of a poll that are not plain. -/
def Change.Received : Change → Prop
  | insertMessage _ | insertUnmatched _ | resolveRetained _ _ _ => True
  | _ => False

/-- What a poll does besides what is plain. -/
def receiving : Bounds Change Signal where
  writes := Change.Received
  asks _ := True
  transacts := True

section Polling

variable {deployment : Deployment} {mailboxId key : Nat} {organizationId identity : String}
variable {email : InboundEmail}

/-- Finding the candidates of a reply writes nothing. -/
theorem confined_eligibleContacts
    {bounds : Bounds Change Signal}
    {referred : List (Nat × Message)} :
    Confined bounds (eligibleContacts mailboxId organizationId referred) fun _ => True := by
  induction referred with
  | nil => exact Confined.pure trivial
  | cons entry rest inductionHypothesis =>
      have continues : ∀ eligible : Bool, Confined bounds (do
          let others ← eligibleContacts mailboxId organizationId rest
          pure (if eligible then entry.2.contactId :: others else others)) fun _ => True :=
        fun eligible => Confined.bind inductionHypothesis fun _ _ => Confined.pure trivial
      refine Confined.ite (fun _ => ?_) fun _ => ?_
      · exact Confined.bind Confined.done fun eligible _ => continues eligible
      · exact Confined.bind Confined.look fun _ _ =>
          Confined.bind Confined.done fun eligible _ => continues eligible

/-- The correlation only reads. -/
theorem confined_correlateMailboxInbound {bounds : Bounds Change Signal} :
    Confined bounds (correlateMailboxInbound deployment mailboxId organizationId email)
      fun _ => True := by
  have continues : ∀ referred : List (Nat × Message), Confined bounds
      (correlateReferred deployment mailboxId organizationId email referred) fun _ => True := by
    intro referred
    refine Confined.bind confined_eligibleContacts fun threads _ => ?_
    split
    · exact Confined.pure trivial
    · exact Confined.pure trivial
    · refine Confined.ite (fun _ => Confined.pure trivial) fun _ => ?_
      exact Confined.bind Confined.look fun _ _ => Confined.pure trivial
  rw [correlateMailboxInbound_eq]
  refine Confined.ite (fun _ => ?_) fun _ => ?_
  · exact Confined.bind Confined.done fun referred _ => continues referred
  · exact Confined.bind Confined.look fun referred _ => continues referred

/-- An insertion that a conflict absorbs. -/
theorem confined_insertUnless
    {bounds : Bounds Change Signal}
    {absorbed : Database → Bool}
    {change : Change}
    {Value : Type}
    {read : Database → Value}
    (makes : bounds.writes change) :
    Plain bounds (execute (fun view => if absorbed view then [] else [change]) read) := by
  refine Confined.execute ?_ fun _ => trivial
  intro view other member
  split at member
  · exact (List.not_mem_nil member).elim
  · rw [List.mem_singleton.mp member]
    exact .inr makes

/-- The message of a poll is inserted with its mailbox. -/
theorem plain_insertCorrelatedMessage {row : Message} :
    Plain receiving (insertCorrelatedMessage mailboxId organizationId identity row) := by
  have inserts : Plain receiving (execute
      (fun view =>
        if view.messages.clashes Message.mailboxIdentity row then [] else [.insertMessage row])
      fun view => view.messages.clashes Message.mailboxIdentity row) :=
    confined_insertUnless trivial
  refine Confined.bind inserts fun taken _ => ?_
  refine Confined.ite (fun _ => ?_) fun _ => ?_
  · refine Confined.bind plain_query fun found _ => ?_
    cases found with
    | some existing => exact Confined.pure trivial
    | none => exact Confined.raise _
  · exact Confined.bind plain_query fun _ _ => Confined.pure trivial

/-- A message without a contact is retained. -/
theorem plain_retainUnmatched {row : UnmatchedInboundMessage} :
    Plain receiving (retainUnmatched row) := by
  have inserts : Plain receiving (execute
      (fun view =>
        if view.unmatched.clashes UnmatchedInboundMessage.mailboxIdentity row then []
        else [.insertUnmatched row])
      fun _ => ()) :=
    confined_insertUnless trivial
  refine Confined.bind inserts fun _ _ => ?_
  refine Confined.bind plain_query fun retained _ => ?_
  exact Confined.ite (fun _ => Confined.pure trivial) fun _ => Confined.raise _

/-- A retained copy is marked as resolved. -/
theorem plain_resolveRetainedCopy {now : Instant} :
    Plain receiving (resolveRetainedCopy mailboxId identity now) := by
  refine Confined.execute ?_ fun _ => trivial
  intro view change member
  split at member
  · rw [List.mem_singleton.mp member]
    exact .inr trivial
  · exact (List.not_mem_nil member).elim

/-- A message of a poll is stored and handled in one transaction. -/
theorem plain_storeCorrelated :
    Plain receiving
      (storeCorrelated deployment mailboxId organizationId identity email key) := by
  refine Confined.bind (Confined.loadContact key) fun loaded _ => ?_
  refine Confined.bind plain_required fun contact _ => ?_
  refine Confined.bind plain_query fun campaign _ => ?_
  refine Confined.bind (Confined.ask (.inl trivial) fun _ => trivial) fun reference _ => ?_
  refine Confined.bind plain_utcnow fun createdAt _ => ?_
  refine Confined.bind plain_insertCorrelatedMessage fun inserted _ => ?_
  cases inserted with
  | some existing => exact Confined.pure trivial
  | none =>
      refine Confined.bind plain_utcnow fun now _ => ?_
      refine Confined.bind plain_resolveRetainedCopy fun _ _ => ?_
      exact Confined.bind plain_classifyAndApplyInbound fun action _ => Confined.pure trivial

/-- A message of a poll is matched, retained or recognised. -/
theorem plain_processMailboxInbound :
    Plain receiving (processMailboxInbound deployment mailboxId organizationId email) := by
  unfold processMailboxInbound
  dsimp only
  split
  · exact Confined.raise _
  · refine Confined.bind plain_query fun found _ => ?_
    cases found with
    | some existing => exact Confined.pure trivial
    | none =>
        refine Confined.bind confined_correlateMailboxInbound fun correlated _ => ?_
        cases correlated with
        | error reason =>
            exact Confined.bind plain_retainUnmatched fun _ _ => Confined.pure trivial
        | ok key => exact plain_storeCorrelated

theorem plain_persistInbound {target : MailboxImapTarget} :
    Plain receiving (persistInbound deployment target email) := by
  refine Confined.session trivial ?_
  have handles : Plain receiving (do
      let result ← processMailboxInbound deployment target.mailboxId target.organizationId
        email
      commit
      pure result) :=
    Confined.bind plain_processMailboxInbound fun _ _ =>
      Confined.bind (Confined.commit trivial) fun _ _ => Confined.pure trivial
  refine Confined.bind handles.attempt fun handled _ => ?_
  cases handled with
  | ok result => exact Confined.pure trivial
  | error failure =>
      exact Confined.bind (Confined.rollback trivial) fun _ _ => Confined.raise _

/-- One message of a mailbox is handled and then flagged. -/
theorem plain_drainMessage
    {Value : Type}
    {handler : InboundEmail → Program Value}
    {uid : Nat}
    (handles : ∀ email, Plain receiving (handler email)) :
    Plain receiving (drainMessage mailboxId handler uid) := by
  have fetches : Plain receiving (fetchAndHandle handler uid) := by
    refine Confined.bind (Confined.ask (.inr trivial) fun _ => trivial) fun fetched _ => ?_
    refine Confined.bind plain_ofExcept fun email _ => ?_
    exact Confined.bind (handles email) fun _ _ => Confined.pure trivial
  refine Confined.bind fetches.attempt fun handled _ => ?_
  cases handled with
  | error failure =>
      exact Confined.bind (Confined.ask (.inr trivial) fun _ => trivial) fun _ _ =>
        Confined.pure trivial
  | ok email =>
      refine Confined.bind (Confined.ask (.inr trivial) fun _ => trivial) fun stored _ => ?_
      cases stored with
      | ok _ => exact Confined.pure trivial
      | refused | raised name => exact Confined.pure trivial

/-- The messages of a mailbox, one after the other. -/
theorem plain_drainMessages
    {Value : Type}
    {handler : InboundEmail → Program Value}
    {uids : List Nat}
    {stats : DrainStats}
    (handles : ∀ email, Plain receiving (handler email)) :
    Plain receiving (drainMessages mailboxId handler uids stats) := by
  induction uids generalizing stats with
  | nil => exact Confined.pure trivial
  | cons uid rest inductionHypothesis =>
      exact Confined.bind (plain_drainMessage handles) fun seen _ => inductionHypothesis

/-- One mailbox is polled from the login to the last message. -/
theorem plain_pollMailbox {target : MailboxImapTarget} :
    Plain receiving (pollMailbox deployment target) := by
  unfold pollMailbox
  split
  · have drains : Plain receiving (do
        let _ ← ofExcept (imapValue "IMAP4.error" (← ask (.login target.mailboxId)))
        drainUnseen target.mailboxId (persistInbound deployment target)) := by
      refine Confined.bind (Confined.ask (.inr trivial) fun _ => trivial) fun connected _ => ?_
      refine Confined.bind plain_ofExcept fun _ _ => ?_
      refine Confined.bind (Confined.ask (.inr trivial) fun _ => trivial) fun selected _ => ?_
      refine Confined.bind plain_ofExcept fun _ _ => ?_
      refine Confined.bind (Confined.ask (.inr trivial) fun _ => trivial) fun searched _ => ?_
      refine Confined.bind plain_ofExcept fun uids _ => ?_
      exact plain_drainMessages fun _ => plain_persistInbound
    refine Confined.bind drains.attempt fun polled _ => ?_
    cases polled with
    | ok stats => exact Confined.pure trivial
    | error failure => exact Confined.pure trivial
  · exact Confined.pure trivial

theorem plain_pollListedMailbox :
    Plain receiving (pollListedMailbox deployment mailboxId) := by
  have polls : Plain receiving (pollIfEligible deployment mailboxId) := by
    refine Confined.bind (Confined.session trivial plain_query) fun found _ => ?_
    cases found with
    | none => exact Confined.pure trivial
    | some target => exact plain_pollMailbox
  refine Confined.bind polls.attempt fun polled _ => ?_
  cases polled with
  | ok outcome => exact Confined.pure trivial
  | error failure => exact Confined.pure trivial

/-- The mailboxes of a poll, one after the other. -/
theorem plain_pollListedMailboxes {ids : List Nat} :
    Plain receiving (pollListedMailboxes deployment ids) := by
  induction ids with
  | nil => exact Confined.pure trivial
  | cons mailboxId rest inductionHypothesis =>
      exact Confined.bind plain_pollListedMailbox fun outcome _ =>
        Confined.bind inductionHypothesis fun _ _ => Confined.pure trivial

theorem plain_pollAllMailboxesReport :
    Plain receiving (pollAllMailboxesReport deployment) := by
  refine Confined.bind (Confined.session trivial plain_query).attempt fun listed _ => ?_
  cases listed with
  | error failure => exact Confined.pure trivial
  | ok ids => exact Confined.bind plain_pollListedMailboxes fun _ _ => Confined.pure trivial

end Polling

/-! ## Operations -/

/-- The operations that neither configure a mailbox nor poll one. -/
def Operation.Plain : Operation → Prop
  | createMailbox _ _ | updateMailbox _ _ _ | pollMailboxInboxesJob => False
  | _ => True

/-- The operations that create contacts. -/
def Operation.Enrolls : Operation → Prop
  | addContacts _ _ _ | ingestLeads _ _ _ => True
  | _ => False

/-- The operations that count follow-ups. -/
def Operation.Counts : Operation → Prop
  | forceFollowup _ _ | dispatchFollowupsJob _ _ => True
  | _ => False

section Operations

variable {deployment : Deployment} {operation : Operation}

/-- A thread that starts a program without anything that waits for a flush. -/
theorem Program.Confined.start
    {bounds : Bounds Change Signal}
    {program : Program Unit}
    (confined : program.Confined bounds fun _ => True) :
    Thread.Confined bounds
      (⟨program [], {}⟩ :
        Thread Database Change Signal Signal.Reply (Except Failure Unit × List Change)) where
  process := (confined [] fun _ member => (List.not_mem_nil member).elim).weaken
    fun _ _ => trivial
  writes _ member := (List.not_mem_nil member).elim

/-- The routes that insert contacts insert new ones only. -/
theorem Operation.Enrolls.program (enrolls : operation.Enrolls) :
    Confined enrolling (operation.program deployment) fun _ => True := by
  cases operation with
  | addContacts organization campaignId contacts => exact confined_addContacts
  | ingestLeads organization campaignId leads =>
      exact Confined.bind confined_ingestLeads fun _ _ => Confined.pure trivial
  | _ => exact enrolls.elim

/-- The operations that may move a counter. -/
theorem Operation.Counts.program (counts : operation.Counts) :
    Native.Plain working (operation.program deployment) := by
  cases operation with
  | forceFollowup organization contactId =>
      exact Confined.bind plain_forceFollowup fun _ _ => Confined.pure trivial
  | dispatchFollowupsJob workerId locked =>
      exact Confined.sessionScope trivial plain_runFollowupCycle
  | _ => exact counts.elim

/-- All other operations neither insert contacts nor move counters. -/
theorem Operation.Plain.program
    (plain : operation.Plain)
    (enrolls : ¬operation.Enrolls)
    (counts : ¬operation.Counts) :
    Native.Plain transacting (operation.program deployment) := by
  cases operation with
  | createCampaign organization payload => exact plain_createCampaign
  | addContacts organization campaignId contacts => exact absurd trivial enrolls
  | ingestLeads organization campaignId leads => exact absurd trivial enrolls
  | startCampaign organization campaignId => exact plain_startCampaign
  | pauseContact organization contactId => exact plain_moveContact rfl rfl
  | resumeContact organization contactId => exact plain_moveContact rfl rfl
  | markWon organization contactId => exact plain_moveContact rfl rfl
  | forceFollowup organization contactId => exact absurd trivial counts
  | approveAndSendDraft organization messageId => exact plain_approveAndSendDraft
  | suppressEmail organization email reason => exact plain_suppressEmail
  | receiveInboundEmail organization payload =>
      exact Confined.bind plain_receiveInboundEmail fun _ _ => Confined.pure trivial
  | createMailbox organization payload => exact plain.elim
  | updateMailbox organization publicReference payload => exact plain.elim
  | dispatchNewContactsJob workerId locked => exact plain_dispatchNewContactsJob
  | dispatchFollowupsJob workerId locked => exact absurd trivial counts
  | pollRepliesJob => exact plain_pollRepliesJob
  | pollMailboxInboxesJob => exact plain.elim
  | releaseAllClaims workerId => exact Confined.sessionScope trivial plain_releaseAllClaims

theorem Change.Approves.works
    {change : Change}
    (approves : change.Approves) :
    change.Works := by
  cases change with
  | recordSend key record => trivial
  | _ => exact approves.elim

theorem Change.Enrolls.works
    {change : Change}
    (enrolls : change.Enrolls) :
    change.Works := by
  cases change with
  | insertContact row => exact enrolls
  | _ => exact enrolls.elim

/-- What a plain operation does. -/
theorem Operation.Plain.start (plain : operation.Plain) :
    Thread.Confined (withPlain working)
      (⟨operation.program deployment [], {}⟩ :
        Thread Database Change Signal Signal.Reply (Except Failure Unit × List Change)) := by
  by_cases enrolls : operation.Enrolls
  · exact enrolls.program.start.mono (fun _ => .inr ∘ Change.Enrolls.works)
      (fun _ => False.elim) id
  by_cases counts : operation.Counts
  · exact counts.program.start
  · exact (plain.program enrolls counts).start.mono
      (fun _ => Or.imp_right Change.Approves.works) (fun _ => id) id

/-- The operations that configure a mailbox. -/
def Operation.Configures : Operation → Prop
  | createMailbox _ _ | updateMailbox _ _ _ => True
  | _ => False

/-- What operations do that configure no mailbox. -/
def serving : Bounds Change Signal where
  writes change := change.Works ∨ change.Received
  asks _ := True
  transacts := True

/-- All other operations leave the rows of mailboxes alone. -/
theorem Operation.confined (other : ¬operation.Configures) :
    Thread.Confined (withPlain serving)
      (⟨operation.program deployment [], {}⟩ :
        Thread Database Change Signal Signal.Reply (Except Failure Unit × List Change)) := by
  have narrow : operation.Plain → Thread.Confined (withPlain serving)
      (⟨operation.program deployment [], {}⟩ :
        Thread Database Change Signal Signal.Reply (Except Failure Unit × List Change)) :=
    fun plain => plain.start.mono (fun _ => Or.imp_right .inl)
      (fun _ => Or.imp_right False.elim) id
  cases operation with
  | createMailbox organization payload => exact absurd trivial other
  | updateMailbox organization publicReference payload => exact absurd trivial other
  | pollMailboxInboxesJob =>
      exact (Confined.bind plain_pollAllMailboxesReport fun _ _ =>
        Confined.pure trivial).start.mono (fun _ => Or.imp_right .inr) (fun _ => id) id
  | _ => exact narrow trivial

end Operations

end Native
end MailerAgent
