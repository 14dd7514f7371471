import MailerAgent.Native.Adherence
import MailerAgent.Native.Changes
import MailerAgent.Native.Contract
import MailerAgent.Native.Polling

/-!
# When a poll replies

A poll of a mailbox sends an automatic reply only in a transaction that has stored the
message which it answers, and sends no second one in that transaction. `Turn` is how far
the handling of a message has come, and `replying` the protocol that says so.
-/

namespace MailerAgent
namespace Native

open Concurrent Mail Program

/-! ## The protocol -/

/-- How far the transaction of a poll has come with the message that is handled. -/
inductive Progress where
  | unwritten
  | stored
  | replied
  /-- A statement failed; nothing can be stored until the transaction is ended. -/
  | lost
  deriving DecidableEq, Repr

/-- The open connection, the message that was fetched and is being handled, and the
progress of its transaction. -/
structure Turn where
  connection : Option Nat := none
  email : Option InboundEmail := none
  progress : Progress := .unwritten

namespace Turn

/-- The mailbox and the identity of the message. -/
def pair (turn : Turn) : Option (Nat × String) :=
  turn.connection.bind fun mailboxId =>
    turn.email.bind fun email =>
      (inboundIdentity email.normalized).map fun identity => (mailboxId, identity)

/-- The changes store the message. -/
def storedBy
    (turn : Turn)
    (changes : List Change) : Bool :=
  turn.pair.any fun pair => changes.any fun change =>
    change.insertedMessage.any fun row => row.mailboxIdentity == some pair

/-- The turn after a statement that ran. -/
def wrote
    (turn : Turn)
    (changes : List Change) : Turn :=
  if turn.progress = .unwritten ∧ turn.storedBy changes = true then
    { turn with progress := .stored }
  else turn

/-- The turn after an interaction. -/
def asked (turn : Turn) : (signal : Signal) → signal.Reply → Turn
  | .login mailboxId, _ => { turn with connection := some mailboxId }
  | .fetch _, reply => { turn with email := fetchedEmail reply }
  | .leftUnseen _, _ => { turn with email := none }
  | .storeSeen _ _ _, _ => { turn with email := none }
  | .sendEmail .automaticReply _ _, _ => { turn with progress := .replied }
  | _, _ => turn

/-- A message is taken up and put down outside of transactions, and answered only in the
transaction that has stored it. -/
def allows (turn : Turn) : Signal → Prop
  | .login _ | .fetch _ | .leftUnseen _ | .storeSeen _ _ _ => turn.progress = .unwritten
  | .sendEmail .automaticReply _ _ => turn.progress = .stored
  | _ => True

end Turn

/-- The protocol of polls. -/
def replying : Protocol Change Signal Signal.Reply Turn where
  usable turn := turn.progress ≠ .lost
  wrote := Turn.wrote
  lost turn := { turn with progress := .lost }
  ended turn reported := { turn with progress := if reported then .unwritten else .lost }
  released turn := { turn with progress := .unwritten }
  asked := Turn.asked
  allows := Turn.allows

/-! ## Turns -/

section Turns

variable {target : MailboxImapTarget} {email : InboundEmail} {turn : Turn}

/-- Connected to a mailbox, with a message that was fetched. -/
structure Handles
    (target : MailboxImapTarget)
    (email : InboundEmail)
    (turn : Turn) : Prop where
  connection : turn.connection = some target.mailboxId
  email : turn.email = some email

/-- The message is handled, and its transaction has come so far or is lost. -/
def Reaches
    (target : MailboxImapTarget)
    (email : InboundEmail)
    (progress : Progress)
    (turn : Turn) : Prop :=
  Handles target email turn ∧ (turn.progress = progress ∨ turn.progress = .lost)

theorem Handles.with_progress
    (handles : Handles target email turn)
    (progress : Progress) :
    Handles target email { turn with progress := progress } :=
  ⟨handles.connection, handles.email⟩

theorem Handles.wrote
    (handles : Handles target email turn)
    (changes : List Change) :
    Handles target email (turn.wrote changes) := by
  unfold Turn.wrote
  split
  · exact handles.with_progress _
  · exact handles

theorem wrote_of_progress
    (written : turn.progress ≠ .unwritten)
    (changes : List Change) :
    turn.wrote changes = turn := by
  unfold Turn.wrote
  exact if_neg fun both => written both.1

theorem storedBy_eq_false
    {changes : List Change}
    (inserts : ∀ change ∈ changes, change.insertedMessage = none) :
    turn.storedBy changes = false := by
  unfold Turn.storedBy
  cases turn.pair with
  | none => rfl
  | some pair =>
      refine List.any_eq_false.mpr fun change member => ?_
      rw [inserts change member]
      exact Bool.false_ne_true

theorem wrote_of_inserts_nothing
    {changes : List Change}
    (inserts : ∀ change ∈ changes, change.insertedMessage = none) :
    turn.wrote changes = turn := by
  unfold Turn.wrote
  exact if_neg fun both => Bool.false_ne_true ((storedBy_eq_false inserts).symm.trans both.2)

theorem asked_of_quiet
    {signal : Signal}
    (reply : signal.Reply)
    (quiet : signal.Quiet) :
    turn.asked signal reply = turn := by
  cases signal with
  | begin | sendEmail | login | search | fetch | leftUnseen | storeSeen => exact quiet.elim
  | _ => rfl

theorem allows_of_quiet
    {signal : Signal}
    (quiet : signal.Quiet) :
    turn.allows signal := by
  cases signal with
  | begin | sendEmail | login | search | fetch | leftUnseen | storeSeen => exact quiet.elim
  | _ => trivial

/-! ## Programs that send nothing -/

/-- Whatever is written, nothing is sent, and no transaction is ended. -/
def sendless : Bounds Change Signal where
  writes _ := True
  asks := Signal.Quiet
  transacts := False

instance : Tends sendless where
  updates _ _ := trivial
  messages _ _ := trivial
  notes _ := trivial
  asks quiet _ := quiet

/-- The same without inserting messages. -/
def storeless : Bounds Change Signal where
  writes change := change.insertedMessage = none
  asks := Signal.Quiet
  transacts := False

/-- The handling of a message goes on. -/
theorem handles_stable : replying.Stable sendless (Handles target email) where
  lost handles := handles.with_progress _
  wrote handles _ := handles.wrote _
  asked reply handles quiet := by
    rw [show replying.asked _ _ reply = _ from asked_of_quiet reply quiet]
    exact handles
  allows _ quiet := allows_of_quiet quiet

theorem reaches_stable
    {bounds : Bounds Change Signal}
    {progress : Progress}
    (asks : ∀ signal, bounds.asks signal → signal.Quiet)
    (writes : progress = .unwritten → ∀ change, bounds.writes change →
      change.insertedMessage = none) :
    replying.Stable bounds (Reaches target email progress) where
  lost reaches := ⟨reaches.1.with_progress _, .inr rfl⟩
  wrote {phase changes} reaches within := by
    obtain ⟨handles, reached⟩ := reaches
    have same : phase.wrote changes = phase := by
      rcases reached with here | lost
      · by_cases first : progress = .unwritten
        · exact wrote_of_inserts_nothing fun change member =>
            writes first change (within change member)
        · exact wrote_of_progress (here ▸ first) changes
      · exact wrote_of_progress (lost ▸ nofun) changes
    rw [show replying.wrote phase changes = phase from same]
    exact ⟨handles, reached⟩
  asked reply reaches quiet := by
    rw [show replying.asked _ _ reply = _ from asked_of_quiet reply (asks _ quiet)]
    exact reaches
  allows _ quiet := allows_of_quiet (asks _ quiet)

end Turns

/-! ## One message -/

section Message

variable {deployment : Deployment} {target : MailboxImapTarget} {received email : InboundEmail}
variable {identity : String} {key : Nat} {contact : Contact} {campaign : Campaign}
variable {loaded : Option Campaign} {intent : SemanticIntent}
variable {classified : ClassificationResult} {Value Result : Type}

/-- The transaction has come so far with the message. -/
def atProgress
    (target : MailboxImapTarget)
    (received : InboundEmail)
    (progress : Progress) : List Change → Turn → Prop :=
  fun pending turn => (progress = .unwritten → ∀ change ∈ pending, change.insertedMessage = none) ∧
    Reaches target received progress turn

/-- The message is handled, however far its transaction has come. -/
def inHand
    (target : MailboxImapTarget)
    (received : InboundEmail) : Except Failure Value → List Change → Turn → Prop :=
  fun _ _ turn => Handles target received turn

theorem adheres_inHand
    {program : Program Value}
    (confined : Heeds sendless program) :
    Adheres replying (fun _ turn => Handles target received turn) program
      (inHand target received) := by
  have stays := Adheres.of_confined (@handles_stable target received) id confined
  refine (stays.strengthen fun _ _ handles => ⟨fun _ _ => trivial, handles⟩).weaken ?_
  exact fun _ _ _ ends => ends.2.1

/-- A program that only reads, before the message is stored. -/
theorem adheres_reading
    {program : Program Value}
    (confined : Heeds storeless program) :
    Adheres replying (atProgress target received .unwritten) program
      fun _ => atProgress target received .unwritten := by
  have stays := Adheres.of_confined
    (@reaches_stable target received storeless .unwritten (fun _ => id) fun _ _ => id) id confined
  refine (stays.strengthen fun _ _ holds => ⟨holds.1 rfl, holds.2⟩).weaken ?_
  exact fun _ _ _ ends => ⟨fun _ => ends.1, ends.2.1⟩

/-- A program that sends nothing, once the message is stored. -/
theorem adheres_tending
    {program : Program Value}
    (confined : Heeds sendless program) :
    Adheres replying (atProgress target received .stored) program
      fun _ => atProgress target received .stored := by
  have stays := Adheres.of_confined
    (@reaches_stable target received sendless .stored (fun _ => id) nofun) id confined
  refine (stays.strengthen fun _ _ holds => ⟨fun _ _ => trivial, holds.2⟩).weaken ?_
  exact fun _ _ _ ends => ⟨nofun, ends.2.1⟩

/-- The same as the end of what is done about the message. -/
theorem adheres_closing
    {program : Program Value}
    (confined : Heeds sendless program) :
    Adheres replying (atProgress target received .stored) program (inHand target received) :=
  (adheres_inHand confined).strengthen fun _ _ holds => holds.2.1

/-- And before something else is done about it. -/
theorem tendThen
    {program : Program Value}
    {rest : Value → Program Result}
    (confined : Heeds sendless program)
    (continues : ∀ value, Adheres replying (atProgress target received .stored) (rest value)
      (inHand target received)) :
    Adheres replying (atProgress target received .stored) (program >>= rest)
      (inHand target received) :=
  (adheres_tending confined).bind continues fun _ _ _ holds => holds.2.1

theorem closeThen
    {program : Program Value}
    {rest : Value → Program Result}
    (adheres : Adheres replying (atProgress target received .stored) program
      (inHand target received))
    (closes : ∀ value, Heeds sendless (rest value)) :
    Adheres replying (atProgress target received .stored) (program >>= rest)
      (inHand target received) :=
  adheres.bind (fun value => adheres_inHand (closes value)) fun _ _ _ => id

/-- An automatic reply to a message that the transaction has stored. -/
theorem adheres_sendReply {arguments : SendEmailArguments} :
    Adheres replying (fun _ turn => Handles target received turn ∧ turn.progress = .stored)
      (sendEmail deployment.settings .automaticReply key arguments) (inHand target received) := by
  have calls : Adheres replying
      (fun _ turn => Handles target received turn ∧ turn.progress = .stored)
      (ask (.sendEmail .automaticReply key arguments)) (inHand target received) :=
    Adheres.ask (fun _ _ holds => holds.2) fun _ _ _ holds => holds.1.with_progress _
  refine calls.bind (fun behaviour => ?_) fun _ _ _ => id
  cases SendBehaviour.report deployment.settings arguments behaviour with
  | returned result => exact Adheres.pure fun _ _ => id
  | raised text => exact Adheres.raise fun _ _ => id

/-- A query that runs sees a transaction that is not lost, so the message is stored. -/
theorem adheres_query {read : Database → Value} :
    Adheres replying (atProgress target received .stored) (query read)
      (fun result _ turn => Handles target received turn ∧
        ∀ value, result = .ok value → turn.progress = .stored) := by
  refine Adheres.execute ?_ ?_
  · rintro failure pending turn ⟨-, handles, -⟩
    exact ⟨handles.with_progress _, nofun⟩
  · rintro pending turn view ⟨-, handles, reached⟩ usable
    have stored := reached.resolve_right usable
    have same : replying.wrote turn [] = turn :=
      wrote_of_inserts_nothing fun _ member => (List.not_mem_nil member).elim
    rw [same]
    exact ⟨handles, fun _ _ => stored⟩

theorem adheres_sendOrHoldReply
    {plan : ReplyPlan}
    {draft : Draft} :
    Adheres replying (atProgress target received .stored)
      (sendOrHoldReply deployment key contact campaign email plan draft)
      (inHand target received) := by
  have records : ∀ message : Message, message.mailboxId = none →
      message.direction = .outbound → ∀ action : InboundAction,
      Heeds sendless (do
        addMessage message
        pure action) :=
    fun _ unbound outbound _ =>
      Confined.bind (plain_addMessage unbound outbound) fun _ _ => Confined.pure trivial
  refine adheres_query.bind (fun suppressed => ?_) fun _ _ _ ends => ends.1
  refine Adheres.ite (fun _ => ?_) fun _ => ?_
  · refine (adheres_sendReply.strengthen fun _ _ ends => ⟨ends.1, ends.2 _ rfl⟩).bind
      (fun result => adheres_inHand ?_) fun _ _ _ => id
    exact Confined.bind plain_afterAutomaticReply fun _ _ => records _ rfl rfl _
  · exact (adheres_inHand (records _ rfl rfl _)).strengthen fun _ _ ends => ends.1

theorem adheres_draftAndMaybeSendReply :
    Adheres replying (atProgress target received .stored)
      (draftAndMaybeSendReply deployment key contact campaign email intent)
      (inHand target received) := by
  have begins : Adheres replying (atProgress target received .stored) begin
      fun _ => atProgress target received .stored :=
    Adheres.ask (fun _ _ _ => trivial) fun _ _ _ => id
  have asks : ∀ {signal : Signal}, signal.Quiet → Heeds sendless (ask signal) :=
    fun quiet => Confined.ask quiet fun _ => trivial
  refine begins.bind (fun _ => ?_) fun _ _ _ holds => holds.2.1
  refine tendThen (asks trivial) fun planned => ?_
  cases planned with
  | error name => exact adheres_closing (Confined.raise _)
  | ok plan =>
      refine tendThen (asks trivial) fun reply => ?_
      cases reply with
      | raised name => exact adheres_closing (Confined.raise _)
      | contextualFallbackUnavailable =>
          exact adheres_closing
            (Confined.bind plain_transitionContactState fun _ _ => Confined.pure trivial)
      | drafted draft => exact adheres_sendOrHoldReply

theorem adheres_continueConversation :
    Adheres replying (atProgress target received .stored)
      (continueConversation deployment key contact loaded email intent)
      (inHand target received) := by
  refine tendThen plain_transitionContactState fun moved => ?_
  refine tendThen plain_required fun campaign => ?_
  refine tendThen plain_utcnow fun now => ?_
  refine tendThen plain_ofExcept fun next => ?_
  exact tendThen (plain_assign rfl rfl) fun scheduled => adheres_draftAndMaybeSendReply

theorem adheres_applyIntent :
    Adheres replying (atProgress target received .stored)
      (applyIntent deployment key contact loaded email intent) (inHand target received) := by
  refine Adheres.ite (fun _ => ?_) fun _ => ?_
  · exact adheres_closing
      (Confined.bind plain_handleUnsubscribe fun _ _ => Confined.pure trivial)
  refine Adheres.ite (fun _ => ?_) fun _ => ?_
  · exact adheres_closing (Confined.bind plain_transitionContactState fun _ _ =>
      Confined.bind (plain_assign rfl rfl) fun _ _ => Confined.pure trivial)
  refine Adheres.ite (fun _ => adheres_closing (Confined.pure trivial)) fun _ => ?_
  refine Adheres.ite (fun _ => ?_) fun _ => adheres_continueConversation
  exact adheres_closing (Confined.bind plain_advanceIntegrationContact fun _ _ =>
    Confined.bind (plain_assign rfl rfl) fun _ _ => Confined.pure trivial)

theorem adheres_applyClassification :
    Adheres replying (atProgress target received .stored)
      (applyClassification deployment key contact loaded email classified)
      (inHand target received) := by
  refine Adheres.ite (fun _ => ?_) fun _ => ?_
  · exact adheres_closing (Confined.bind plain_transitionContactState fun _ _ =>
      Confined.bind (plain_assign rfl rfl) fun _ _ => Confined.pure trivial)
  cases classified.semanticIntent with
  | none =>
      exact adheres_closing
        (Confined.bind plain_transitionContactState fun _ _ => Confined.pure trivial)
  | some intent => exact adheres_applyIntent

theorem adheres_classifyAndApplyInbound {reference : String} :
    Adheres replying (atProgress target received .stored)
      (classifyAndApplyInbound deployment key contact loaded email reference)
      (inHand target received) := by
  refine tendThen plain_utcnow fun repliedAt => ?_
  refine tendThen (plain_assign rfl rfl) fun replied => ?_
  refine tendThen plain_query fun messages => ?_
  refine tendThen (Confined.ask trivial fun _ => trivial) fun answer => ?_
  cases answer with
  | error name => exact adheres_closing (Confined.raise _)
  | ok classified =>
      refine tendThen plain_recordClassification fun recorded => ?_
      refine closeThen adheres_applyClassification fun action => ?_
      exact Confined.bind Confined.flush fun _ _ =>
        Confined.bind plain_maybeSummarizeOlderMessages fun _ _ => Confined.pure trivial

/-! ### Storing the message -/

theorem readThen
    {program : Program Value}
    {rest : Value → Program Result}
    (confined : Heeds storeless program)
    (continues : ∀ value, Adheres replying (atProgress target received .unwritten) (rest value)
      (inHand target received)) :
    Adheres replying (atProgress target received .unwritten) (program >>= rest)
      (inHand target received) :=
  (adheres_reading confined).bind continues fun _ _ _ holds => holds.2.1

theorem Handles.pair
    {turn : Turn}
    (handles : Handles target received turn)
    (named : inboundIdentity received.normalized = some identity) :
    turn.pair = some (target.mailboxId, identity) := by
  unfold Turn.pair
  rw [handles.connection, Option.bind_some, handles.email, Option.bind_some, named,
    Option.map_some]

/-- The end of the insertion: without an existing message, the row is stored. -/
def inserted
    (target : MailboxImapTarget)
    (received : InboundEmail) : Except Failure (Option Message) → List Change → Turn → Prop
  | .ok none => atProgress target received .stored
  | _ => fun _ turn => Handles target received turn

theorem Handles.inserted
    {turn : Turn}
    {result : Except Failure (Option Message)}
    {pending : List Change}
    (handles : Handles target received turn)
    (other : result ≠ .ok none) :
    inserted target received result pending turn := by
  cases result with
  | error failure => exact handles
  | ok found =>
      cases found with
      | none => exact absurd rfl other
      | some existing => exact handles

/-- The insertion that a conflict absorbs. -/
theorem adheres_insertUnlessTaken
    {row : Message}
    (named : inboundIdentity received.normalized = some identity)
    (identified : row.mailboxIdentity = some (target.mailboxId, identity)) :
    Adheres replying (atProgress target received .unwritten)
      (execute
        (fun view =>
          if view.messages.clashes Message.mailboxIdentity row then [] else [.insertMessage row])
        (fun view => view.messages.clashes Message.mailboxIdentity row))
      (fun result _ turn => Handles target received turn ∧
        (result = .ok false → turn.progress = .stored)) := by
  refine Adheres.execute ?_ ?_
  · rintro failure pending turn ⟨-, handles, -⟩
    exact ⟨handles.with_progress _, nofun⟩
  · rintro pending turn view ⟨-, handles, reached⟩ usable
    have unwritten := reached.resolve_right usable
    refine ⟨handles.wrote _, fun free => ?_⟩
    have free : view.messages.clashes Message.mailboxIdentity row = false :=
      Except.ok.inj free
    rw [free]
    have stores : turn.storedBy [.insertMessage row] = true := by
      unfold Turn.storedBy
      rw [handles.pair named]
      simp [Change.insertedMessage, identified]
    exact congrArg Turn.progress (if_pos ⟨unwritten, stores⟩)

theorem adheres_insertCorrelatedMessage
    {row : Message}
    (named : inboundIdentity received.normalized = some identity)
    (identified : row.mailboxIdentity = some (target.mailboxId, identity)) :
    Adheres replying (atProgress target received .unwritten)
      (insertCorrelatedMessage target.mailboxId target.organizationId identity row)
      (inserted target received) := by
  refine (adheres_insertUnlessTaken named identified).bind (fun taken => ?_)
    fun _ _ _ ends => ends.1
  cases taken with
  | true =>
      have looks : Adheres replying
          (fun _ turn => Handles target received turn ∧
            ((Except.ok true : Except Failure Bool) = .ok false → turn.progress = .stored))
          (query (findInboundMessage target.mailboxId target.organizationId identity))
          (inHand target received) :=
        (adheres_inHand plain_query).strengthen fun _ _ ends => ends.1
      refine looks.bind (fun found => ?_) fun _ _ _ handles => handles
      cases found with
      | none => exact Adheres.raise fun _ _ handles => handles
      | some existing => exact Adheres.pure fun _ _ handles => handles
  | false =>
      have looks : Adheres replying
          (fun _ turn => Handles target received turn ∧
            ((Except.ok false : Except Failure Bool) = .ok false → turn.progress = .stored))
          (query fun _ => ()) fun _ => atProgress target received .stored :=
        (adheres_tending plain_query).strengthen fun _ _ ends =>
          ⟨nofun, ends.1, .inl (ends.2 rfl)⟩
      refine looks.bind (fun _ => ?_) fun _ _ _ holds => holds.2.1
      exact Adheres.pure fun _ _ holds => holds

theorem adheres_storeCorrelated
    (named : inboundIdentity received.normalized = some identity) :
    Adheres replying (atProgress target received .unwritten)
      (storeCorrelated deployment target.mailboxId target.organizationId identity
        received.normalized key)
      (inHand target received) := by
  refine readThen (Confined.loadContact key) fun loaded => ?_
  refine readThen plain_required fun contact => ?_
  refine readThen plain_query fun campaign => ?_
  refine readThen (Confined.ask trivial fun _ => trivial) fun reference => ?_
  refine readThen (Confined.ask trivial fun _ => trivial) fun createdAt => ?_
  refine (adheres_insertCorrelatedMessage named rfl).bind (fun existing => ?_)
    fun _ _ _ handles => handles
  cases existing with
  | some message => exact Adheres.pure fun _ _ handles => handles
  | none =>
      refine tendThen plain_utcnow fun now => ?_
      refine tendThen (Confined.execute (fun _ _ _ => trivial) fun _ => trivial) fun _ => ?_
      exact closeThen adheres_classifyAndApplyInbound fun _ => Confined.pure trivial

theorem sendless_retainUnmatched {row : UnmatchedInboundMessage} :
    Heeds sendless (retainUnmatched row) := by
  have inserts : Heeds sendless (execute
      (fun view =>
        if view.unmatched.clashes UnmatchedInboundMessage.mailboxIdentity row then []
        else [.insertUnmatched row])
      fun _ => ()) :=
    Confined.execute (fun _ _ _ => trivial) fun _ => trivial
  refine Confined.bind inserts fun _ _ => Confined.bind plain_query fun retained _ => ?_
  exact Confined.ite (fun _ => Confined.pure trivial) fun _ => Confined.raise _

theorem adheres_processMailboxInbound :
    Adheres replying (atProgress target received .unwritten)
      (processMailboxInbound deployment target.mailboxId target.organizationId received)
      (inHand target received) := by
  unfold processMailboxInbound
  dsimp only
  cases named : inboundIdentity received.normalized with
  | none => exact Adheres.raise fun _ _ holds => holds.2.1
  | some identity =>
      refine readThen plain_query fun found => ?_
      cases found with
      | some existing => exact Adheres.pure fun _ _ holds => holds.2.1
      | none =>
          refine readThen confined_correlateMailboxInbound fun correlated => ?_
          cases correlated with
          | ok key => exact adheres_storeCorrelated named
          | error reason =>
              exact (adheres_inHand (Confined.bind sendless_retainUnmatched fun _ _ =>
                Confined.pure trivial)).strengthen fun _ _ holds => holds.2.1

/-! ### One session -/

/-- Between messages nothing waits for a flush, and no transaction has stored anything. -/
def between (target : MailboxImapTarget) : List Change → Turn → Prop :=
  fun pending turn =>
    pending = [] ∧ turn.connection = some target.mailboxId ∧ turn.progress = .unwritten

/-- A message was fetched. -/
def taken
    (target : MailboxImapTarget)
    (received : InboundEmail) : List Change → Turn → Prop :=
  fun pending turn => pending = [] ∧ Handles target received turn ∧ turn.progress = .unwritten

theorem adheres_commit :
    Adheres replying (fun _ turn => Handles target received turn) commit
      (inHand target received) := by
  refine (adheres_inHand Confined.flush).bind (fun _ => ?_) fun _ _ _ => id
  exact Adheres.commitTransaction fun _ _ _ _ handles => handles.with_progress _

theorem adheres_persistInbound :
    Adheres replying (taken target received) (persistInbound deployment target received)
      fun _ => between target := by
  have handles : Adheres replying (taken target received)
      (do
        let result ← processMailboxInbound deployment target.mailboxId target.organizationId
          received
        commit
        pure result)
      (inHand target received) := by
    refine (adheres_processMailboxInbound.strengthen ?_).bind (fun result => ?_) fun _ _ _ => id
    · rintro pending turn ⟨rfl, handles, unwritten⟩
      exact ⟨fun _ _ member => (List.not_mem_nil member).elim, handles, .inl unwritten⟩
    · exact adheres_commit.bind (fun _ => Adheres.pure fun _ _ => id) fun _ _ _ => id
  have body : Adheres replying (taken target received)
      (attempt (do
        let result ← processMailboxInbound deployment target.mailboxId target.organizationId
          received
        commit
        pure result) >>= persisted)
      (inHand target received) := by
    refine (Adheres.attempt (inHand target received) handles).bind (fun handled => ?_)
      fun _ _ _ => id
    cases handled with
    | ok result => exact Adheres.pure fun _ _ => id
    | error failure =>
        have rolls : Adheres replying (fun _ turn => Handles target received turn) rollback
            (inHand target received) :=
          fun _ _ handles => handles.with_progress _
        exact rolls.bind (fun _ => Adheres.raise fun _ _ => id) fun _ _ _ => id
  exact body.session fun _ _ _ handles => ⟨rfl, handles.connection, rfl⟩

end Message

/-! ## The loops -/

section Loops

variable {deployment : Deployment} {target : MailboxImapTarget}

/-- An interaction between two messages. -/
theorem adheres_ask_between
    (signal : Signal)
    (allows : ∀ turn : Turn, turn.progress = .unwritten → turn.allows signal)
    (keeps : ∀ (turn : Turn) (reply : signal.Reply), turn.progress = .unwritten →
      (turn.asked signal reply).connection = turn.connection ∧
        (turn.asked signal reply).progress = .unwritten) :
    Adheres replying (between target) (ask signal) fun _ => between target := by
  refine Adheres.ask (fun _ turn holds => allows turn holds.2.2) ?_
  rintro pending turn reply ⟨rfl, connection, unwritten⟩
  obtain ⟨same, still⟩ := keeps turn reply unwritten
  exact ⟨rfl, same.trans connection, still⟩

theorem adheres_ofExcept_between
    {Value : Type}
    {result : Except Failure Value} :
    Adheres replying (between target) (ofExcept result) fun _ => between target :=
  Adheres.ofExcept fun _ _ => id

/-- Fetching and handling a message. -/
theorem adheres_fetchAndHandle {uid : Nat} :
    Adheres replying (between target)
      (fetchAndHandle (persistInbound deployment target) uid) fun _ => between target := by
  have fetches : Adheres replying (between target) (ask (.fetch uid))
      (fun result pending turn => between target pending turn ∧
        ∀ email, result = .ok (.ok email) → taken target email pending turn) := by
    refine Adheres.ask (fun _ _ holds => holds.2.2) ?_
    rintro pending turn reply ⟨rfl, connection, unwritten⟩
    refine ⟨⟨rfl, connection, unwritten⟩, fun email fetched => ?_⟩
    obtain rfl : reply = .ok email := Except.ok.inj fetched
    exact ⟨rfl, ⟨connection, rfl⟩, unwritten⟩
  refine fetches.bind (fun reply => ?_) fun _ _ _ ends => ends.1
  cases reply with
  | refused | raised name => exact Adheres.raise fun _ _ ends => ends.1
  | ok email =>
      have parses : Adheres replying (fun pending turn => between target pending turn ∧
            ∀ received, (Except.ok (.ok email) : Except Failure (ImapReply InboundEmail)) =
              .ok (.ok received) → taken target received pending turn)
          (pure email) fun result pending turn => between target pending turn ∧
            ∀ received, result = .ok received → taken target received pending turn :=
        Adheres.pure fun _ _ ends => ⟨ends.1, fun received same =>
          ends.2 received (congrArg (Except.ok ∘ ImapReply.ok) (Except.ok.inj same))⟩
      refine parses.bind (fun received => ?_) fun _ _ _ ends => ends.1
      refine (adheres_persistInbound.strengthen fun _ _ ends => ends.2 received rfl).bind
        (fun _ => ?_) fun _ _ _ => id
      exact Adheres.pure fun _ _ => id

theorem adheres_drainMessage {uid : Nat} :
    Adheres replying (between target)
      (drainMessage target.mailboxId (persistInbound deployment target) uid)
      fun _ => between target := by
  refine (Adheres.attempt (fun _ => between target) adheres_fetchAndHandle).bind
    (fun handled => ?_) fun _ _ _ => id
  cases handled with
  | error failure =>
      exact (adheres_ask_between (.leftUnseen uid) (fun _ => id) fun _ _ => And.intro rfl).bind
        (fun _ => Adheres.pure fun _ _ => id) fun _ _ _ => id
  | ok email =>
      refine (adheres_ask_between (.storeSeen target.mailboxId uid email) (fun _ => id)
        fun _ _ => And.intro rfl).bind (fun stored => ?_) fun _ _ _ => id
      cases stored with
      | ok _ | refused | raised name => exact Adheres.pure fun _ _ => id

theorem adheres_drainMessages
    {uids : List Nat}
    {stats : DrainStats} :
    Adheres replying (between target)
      (drainMessages target.mailboxId (persistInbound deployment target) uids stats)
      fun _ => between target := by
  induction uids generalizing stats with
  | nil => exact Adheres.pure fun _ _ => id
  | cons uid rest inductionHypothesis =>
      exact adheres_drainMessage.bind (fun seen => inductionHypothesis) fun _ _ _ => id

theorem adheres_drainUnseen :
    Adheres replying (between target)
      (drainUnseen target.mailboxId (persistInbound deployment target))
      fun _ => between target := by
  refine (adheres_ask_between .select (fun _ _ => trivial) fun _ _ => And.intro rfl).bind
    (fun selected => ?_) fun _ _ _ => id
  refine adheres_ofExcept_between.bind (fun _ => ?_) fun _ _ _ => id
  refine (adheres_ask_between .search (fun _ _ => trivial) fun _ _ => And.intro rfl).bind
    (fun searched => ?_) fun _ _ _ => id
  exact adheres_ofExcept_between.bind (fun uids => adheres_drainMessages) fun _ _ _ => id

/-- Between mailboxes. -/
def atRest : List Change → Turn → Prop :=
  fun pending turn => pending = [] ∧ turn.progress = .unwritten

theorem adheres_pollMailbox :
    Adheres replying atRest (pollMailbox deployment target) fun _ => atRest := by
  unfold pollMailbox
  split
  · have connects : Adheres replying atRest (ask (.login target.mailboxId))
        fun _ => between target := by
      refine Adheres.ask (fun _ _ holds => holds.2) ?_
      rintro pending turn reply ⟨rfl, unwritten⟩
      exact ⟨rfl, rfl, unwritten⟩
    have drains := connects.bind
      (fun reply => (@adheres_ofExcept_between target _ (imapValue "IMAP4.error" reply)).bind
        (fun _ => @adheres_drainUnseen deployment target) fun _ _ _ => id) fun _ _ _ => id
    refine (Adheres.attempt (fun _ => between target) drains).bind (fun polled => ?_)
      fun _ _ _ holds => ⟨holds.1, holds.2.2⟩
    cases polled with
    | ok stats => exact Adheres.pure fun _ _ holds => ⟨holds.1, holds.2.2⟩
    | error failure => exact Adheres.pure fun _ _ holds => ⟨holds.1, holds.2.2⟩
  · exact Adheres.pure fun _ _ => id

/-- A session that only reads. -/
theorem adheres_reading_session
    {Value : Type}
    {read : Database → Value} :
    Adheres replying atRest (session (query read)) fun _ => atRest := by
  have body : Adheres replying atRest (query read) fun _ _ _ => True :=
    Adheres.execute (fun _ _ _ _ => trivial) fun _ _ _ _ _ => trivial
  exact body.session fun _ _ _ _ => ⟨rfl, rfl⟩

theorem adheres_pollListedMailbox {mailboxId : Nat} :
    Adheres replying atRest (pollListedMailbox deployment mailboxId) fun _ => atRest := by
  have polls : Adheres replying atRest (pollIfEligible deployment mailboxId)
      fun _ => atRest := by
    refine adheres_reading_session.bind (fun found => ?_) fun _ _ _ => id
    cases found with
    | none => exact Adheres.pure fun _ _ => id
    | some target => exact adheres_pollMailbox
  refine (Adheres.attempt (fun _ => atRest) polls).bind (fun polled => ?_)
    fun _ _ _ => id
  cases polled with
  | ok outcome => exact Adheres.pure fun _ _ => id
  | error failure => exact Adheres.pure fun _ _ => id

theorem adheres_pollListedMailboxes {ids : List Nat} :
    Adheres replying atRest (pollListedMailboxes deployment ids) fun _ => atRest := by
  induction ids with
  | nil => exact Adheres.pure fun _ _ => id
  | cons mailboxId rest inductionHypothesis =>
      refine adheres_pollListedMailbox.bind (fun outcome => ?_) fun _ _ _ => id
      exact inductionHypothesis.bind (fun _ => Adheres.pure fun _ _ => id) fun _ _ _ => id

/-- The poll of all mailboxes follows the protocol. -/
theorem adheres_pollAllMailboxesReport :
    Adheres replying atRest (pollAllMailboxesReport deployment) fun _ => atRest := by
  have lists : Adheres replying atRest listPollableMailboxIds fun _ => atRest :=
    adheres_reading_session
  refine (Adheres.attempt (fun _ => atRest) lists).bind (fun listed => ?_)
    fun _ _ _ => id
  cases listed with
  | error failure => exact Adheres.pure fun _ _ => id
  | ok ids =>
      exact adheres_pollListedMailboxes.bind (fun _ => Adheres.pure fun _ _ => id)
        fun _ _ _ => id

end Loops

end Native
end MailerAgent
