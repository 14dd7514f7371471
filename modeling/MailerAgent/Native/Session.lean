import MailerAgent.Foundation.Process
import MailerAgent.Mail.Calls
import MailerAgent.Mail.Threading
import MailerAgent.Models.Services

/-!
# Sessions of the native components

The API routes, schedulers and inbound handlers are sequential programs over a
database session. A session collects what its objects changed (`autoflush` is
off) until a flush turns it into statements of the open transaction; a commit
applies the transaction. A failed statement leaves a transaction in which nothing
succeeds until it is rolled back. Everything that is not the database (the clock,
random references, the language model, the mail servers) is an interaction whose
answer is arbitrary.
-/

namespace MailerAgent
namespace Native

open Concurrent Relational Mail

/-! ## Changes -/

/-- The columns of a contact that an update sets; an absent column is kept. -/
structure ContactPatch where
  status : Option ContactStatus := none
  followUpIndex : Option Nat := none
  nextActionAt : Option (Option Instant) := none
  lastReplyAt : Option Instant := none
  lastOutboundAt : Option Instant := none
  buyingStage : Option BuyingStage := none
  memorySummary : Option String := none
  claimedBy : Option (Option String) := none
  claimedAt : Option (Option Instant) := none
  updatedAt : Option Instant := none
  deriving DecidableEq, Repr

/-- The contact with the columns of a patch set. -/
def ContactPatch.apply
    (patch : ContactPatch)
    (contact : Contact) : Contact :=
  { contact with
    status := patch.status.getD contact.status
    followUpIndex := patch.followUpIndex.getD contact.followUpIndex
    nextActionAt := patch.nextActionAt.getD contact.nextActionAt
    lastReplyAt := patch.lastReplyAt.or contact.lastReplyAt
    lastOutboundAt := patch.lastOutboundAt.or contact.lastOutboundAt
    buyingStage := patch.buyingStage.or contact.buyingStage
    memorySummary := patch.memorySummary.or contact.memorySummary
    claimedBy := patch.claimedBy.getD contact.claimedBy
    claimedAt := patch.claimedAt.getD contact.claimedAt
    updatedAt := patch.updatedAt.getD contact.updatedAt }

/-- The columns of a mailbox that an update sets. -/
structure MailboxPatch where
  status : Option MailboxStatus := none
  smtpHost : Option String := none
  smtpPort : Option Nat := none
  smtpUseTls : Option Bool := none
  smtpUsername : Option String := none
  smtpPasswordEnc : Option String := none
  imapHost : Option String := none
  imapPort : Option Nat := none
  imapUsername : Option String := none
  imapPasswordEnc : Option String := none
  updatedAt : Option Instant := none
  deriving DecidableEq, Repr

/-- The patch with the `onupdate` of `updated_at`, if it changes a column at all. -/
def MailboxPatch.dated
    (patch : MailboxPatch)
    (now : Instant) : MailboxPatch :=
  if patch = {} then patch else { patch with updatedAt := some now }

/-- The mailbox with the columns of a patch set. -/
def MailboxPatch.apply
    (patch : MailboxPatch)
    (mailbox : Mailbox) : Mailbox :=
  { mailbox with
    status := patch.status.getD mailbox.status
    smtpHost := patch.smtpHost.getD mailbox.smtpHost
    smtpPort := patch.smtpPort.getD mailbox.smtpPort
    smtpUseTls := patch.smtpUseTls.getD mailbox.smtpUseTls
    smtpUsername := patch.smtpUsername.getD mailbox.smtpUsername
    smtpPasswordEnc := patch.smtpPasswordEnc.getD mailbox.smtpPasswordEnc
    imapHost := patch.imapHost.or mailbox.imapHost
    imapPort := patch.imapPort.or mailbox.imapPort
    imapUsername := patch.imapUsername.or mailbox.imapUsername
    imapPasswordEnc := patch.imapPasswordEnc.or mailbox.imapPasswordEnc
    updatedAt := patch.updatedAt.getD mailbox.updatedAt }

/-- What an approval records on the message it sent. -/
structure SendRecord where
  status : MessageStatus
  messageIdHeader : Option String
  subject : Option String
  errorMessage : Option String
  deriving DecidableEq, Repr

/-- The message with a send recorded. -/
def SendRecord.apply
    (record : SendRecord)
    (message : Message) : Message :=
  { message with
    status := record.status
    messageIdHeader := record.messageIdHeader
    subject := record.subject
    errorMessage := record.errorMessage }

/-- What the handler records on an inbound message after its classification. -/
structure Interpretation where
  success : Bool
  detectedIntent : String
  semanticAnalysis : Option SemanticIntent := none
  failureReason : Option String := none
  deriving DecidableEq, Repr

/-- The message with an interpretation recorded. -/
def Interpretation.apply
    (interpretation : Interpretation)
    (message : Message) : Message :=
  { message with
    classificationSuccess := some interpretation.success
    detectedIntent := some interpretation.detectedIntent
    semanticAnalysis := interpretation.semanticAnalysis.or message.semanticAnalysis
    classificationFailureReason :=
      interpretation.failureReason.or message.classificationFailureReason }

/-- One effect of a statement. The row that a transaction inserted and goes on to
interpret is named by its unique `reply_reference`, because row keys are the
database's to assign. -/
inductive Change where
  | insertCampaign (row : Campaign)
  | insertContact (row : Contact)
  | insertMessage (row : Message)
  | insertSuppression (row : SuppressionEntry)
  | insertMailbox (row : Mailbox)
  | insertUnmatched (row : UnmatchedInboundMessage)
  | updateContact (key : Nat) (patch : ContactPatch)
  | recordSend (key : Nat) (record : SendRecord)
  | interpretMessage (contactId : Nat) (reference : String)
      (interpretation : Interpretation)
  | updateMailbox (key : Nat) (patch : MailboxPatch)
  | resolveRetained (mailboxId : Nat) (identity : String) (resolvedAt : Instant)
  deriving DecidableEq, Repr

/-- The key of the message of a contact with a given public handle. -/
def messageByReference
    (database : Database)
    (contactId : Nat)
    (reference : String) :
    Option Nat :=
  database.messages.firstWhere fun message =>
    message.contactId == contactId && message.replyReference == some reference

/-- The key of an unresolved retained message. -/
def unresolvedRetained
    (database : Database)
    (mailboxId : Nat)
    (identity : String) :
    Option Nat :=
  database.unmatched.firstWhere fun row =>
    row.mailboxId == mailboxId && row.messageIdHeader == identity && row.resolvedAt.isNone

/-- The effect on the tables; `none` is a violated constraint. -/
def Change.apply (database : Database) : Change → Option Database
  | insertCampaign row => database.insertCampaign row
  | insertContact row => database.insertContact row
  | insertMessage row => database.insertMessage row
  | insertSuppression row => database.insertSuppression row
  | insertMailbox row => database.insertMailbox row
  | insertUnmatched row => database.insertUnmatched row
  | updateContact key patch => some (database.modifyContact key patch.apply)
  | recordSend key record => database.updateMessage key record.apply
  | interpretMessage contactId reference interpretation =>
      some ((messageByReference database contactId reference).elim database fun key =>
        database.modifyMessage key interpretation.apply)
  | updateMailbox key patch => some (database.modifyMailbox key patch.apply)
  | resolveRetained mailboxId identity resolvedAt =>
      some ((unresolvedRetained database mailboxId identity).elim database fun key =>
        database.modifyUnmatched key fun row =>
          { row with resolvedAt := some resolvedAt })

/-- New suppression entries depend on no other row. -/
def Change.isSuppression : Change → Bool
  | insertSuppression _ => true
  | _ => false

/-- The statements of a flush: the unit of work orders them by table. -/
def unitOfWork (pending : List Change) : List Change :=
  pending.filter Change.isSuppression ++
    pending.filter fun change => !change.isSuppression

/-- A flush issues what waits for it, in another order. -/
theorem mem_unitOfWork
    {pending : List Change}
    {change : Change} :
    change ∈ unitOfWork pending ↔ change ∈ pending := by
  simp only [unitOfWork, List.mem_append, List.mem_filter, Bool.not_eq_true']
  cases change.isSuppression <;> simp

/-! ## Interactions -/

/-- What a draft is written for. -/
inductive DraftAction where
  | initialOutreach
  | followUp
  | reply
  | closing
  deriving DecidableEq, Repr

/-- How `draft_message` ends. -/
inductive DraftResult where
  | drafted (draft : Draft)
  | contextualFallbackUnavailable
  | raised (exceptionName : String)
  deriving DecidableEq, Repr

/-- What the planner and the guardrails decide about a reply, apart from the
setting that enables automatic replies. -/
structure ReplyPlan where
  eligible : Bool
  closing : Bool
  deriving DecidableEq, Repr

/-- How a summarization ends. -/
inductive SummaryResult where
  | summarized (text : String)
  | unavailable
  | raised (exceptionName : String)
  deriving DecidableEq, Repr

/-- How an IMAP command ends. -/
inductive ImapReply (Value : Type) where
  | ok (value : Value)
  | refused
  | raised (exceptionName : String)

/-- Interactions with anything but the database. `begin` marks the start of an
operation that may send; `leftUnseen` is the log entry of a message that failed,
and `storeSeen` names the message that was fetched. -/
inductive Signal where
  | begin
  | utcnow
  | newReference
  | sendEmail (origin : SendOrigin) (contactId : Nat) (arguments : SendEmailArguments)
  | draftMessage (contactId : Nat) (action : DraftAction)
  | classify (contactId : Nat) (body : String) (autoSubmitted : Bool)
  | planReply (contactId : Nat) (intent : SemanticIntent)
  | summarize (contactId : Nat) (messages : List Message)
  | login (mailboxId : Nat)
  | select
  | search
  | fetch (uid : Nat)
  | leftUnseen (uid : Nat)
  | storeSeen (mailboxId uid : Nat) (email : InboundEmail)
  | fetchUnseenReplies

/-- The type of an answer. -/
def Signal.Reply : Signal → Type
  | begin => Unit
  | utcnow => Instant
  | newReference => String
  | sendEmail _ _ _ => SendBehaviour
  | draftMessage _ _ => DraftResult
  | classify _ _ _ => Except String ClassificationResult
  | planReply _ _ => Except String ReplyPlan
  | summarize _ _ => SummaryResult
  | login _ => ImapReply Unit
  | select => ImapReply Unit
  | search => ImapReply (List Nat)
  | fetch _ => ImapReply InboundEmail
  | leftUnseen _ => Unit
  | storeSeen _ _ _ => ImapReply Unit
  | fetchUnseenReplies => List InboundEmail

/-- An interaction that is always allowed and not observed. -/
def Signal.Quiet : Signal → Prop
  | utcnow | newReference | draftMessage _ _ | classify _ _ _ | planReply _ _
  | summarize _ _ | select | fetchUnseenReplies => True
  | _ => False

/-! ## Programs -/

/-- How a program fails. -/
inductive Failure where
  /-- `IntegrityError`. -/
  | integrity
  /-- Any other error of the database or of a session that must be rolled back. -/
  | database
  /-- `HTTPException`. -/
  | http (status : Nat) (detail : String)
  | raised (exceptionName : String)
  deriving DecidableEq, Repr

/-- A process of this program. -/
abbrev Script := Process Database Change Signal Signal.Reply

/-- A program over a session: the changes that wait for a flush go in and out. -/
def Program (Value : Type) : Type :=
  List Change → Script (Except Failure Value × List Change)

namespace Program

variable {Value Result : Type}

/-- Return a value. -/
protected def pure (value : Value) : Program Value :=
  fun pending => .done (.ok value, pending)

/-- Raise. -/
def raise (failure : Failure) : Program Value :=
  fun pending => .done (.error failure, pending)

/-- Continue after a normal return; an exception passes through. -/
protected def bind
    (program : Program Value)
    (rest : Value → Program Result) : Program Result :=
  fun pending => (program pending).andThen fun
    | (.ok value, after) => rest value after
    | (.error failure, after) => .done (.error failure, after)

instance : Monad Program where
  pure := Program.pure
  bind := Program.bind

/-- `try`: the exception as a value. -/
def attempt (program : Program Value) : Program (Except Failure Value) :=
  fun pending => (program pending).andThen fun (result, after) => .done (.ok result, after)

/-- Return a value or raise. -/
def ofExcept : Except Failure Value → Program Value
  | .ok value => Program.pure value
  | .error failure => raise failure

/-- Interact. -/
def ask (signal : Signal) : Program signal.Reply :=
  fun pending => .ask signal fun reply => .done (.ok reply, pending)

/-- The result of a statement. -/
def statementResult (read : Database → Value) : StatementResult Database →
    Except Failure Value
  | .ran view => .ok (read view)
  | .violated => .error .integrity
  | .failed => .error .database

/-- A statement issued directly: its effect and its result on the rows it sees. -/
def execute
    (changes : Database → List Change)
    (read : Database → Value) :
    Program Value :=
  fun pending => .statement (fun view => some (changes view)) fun result =>
    .done (statementResult read result, pending)

/-- A `SELECT`. -/
def query (read : Database → Value) : Program Value :=
  execute (fun _ => []) read

/-- A session object changed. -/
def stage (change : Change) : Program Unit :=
  fun pending => .done (.ok (), pending ++ [change])

/-- `flush`; without changes there is no statement. -/
def flush : Program Unit
  | [] => .done (.ok (), [])
  | pending => .statement (fun _ => some (unitOfWork pending)) fun result =>
      .done (statementResult (fun _ => ()) result,
        match result with
        | .ran _ => []
        | _ => pending)

/-- `COMMIT`. -/
def commitTransaction : Program Unit :=
  fun pending => .commit fun reported =>
    .done (if reported then .ok () else .error .database, pending)

/-- `commit`, which flushes. -/
def commit : Program Unit := do
  flush
  commitTransaction

/-- `rollback`; what waited for a flush is forgotten. -/
def rollback : Program Unit :=
  fun _ => .rollback (.done (.ok (), []))

/-- `finally`. -/
def ensuring
    (program : Program Value)
    (cleanup : Program Unit) : Program Value := do
  let result ← program.attempt
  cleanup
  ofExcept result

/-- A session that is closed at the end. -/
def session (program : Program Value) : Program Value :=
  program.ensuring rollback

/-- `session_scope`. -/
def sessionScope (program : Program Value) : Program Value :=
  session do
    match ← attempt (do let value ← program; commit; pure value) with
    | .ok value => pure value
    | .error failure =>
        rollback
        raise failure

/-- One condition on what a program returns and another for its exceptions. -/
def byResult
    (returned : Value → α)
    (raised : α) : Except Failure Value → α
  | .ok value => returned value
  | .error _ => raised

/-- `for item in items: body(item)`. -/
def forEach
    (items : List Value)
    (body : Value → Program Unit) : Program Unit :=
  match items with
  | [] => pure ()
  | item :: rest => do
      body item
      forEach rest body

/-- `utcnow`. -/
def utcnow : Program Instant := ask .utcnow

/-- Mark the start of an operation that may send. -/
def begin : Program Unit := ask .begin

/-- Call `send_email` on behalf of a contact. -/
def sendEmail
    (settings : Settings)
    (origin : SendOrigin)
    (contactId : Nat)
    (arguments : SendEmailArguments) : Program SendResult := do
  let behaviour ← ask (.sendEmail origin contactId arguments)
  match SendBehaviour.report settings arguments behaviour with
  | .returned result => pure result
  | .raised text => raise (.raised text)

/-- A loaded object with what the session changed on it since. -/
def inSession
    (pending : List Change)
    (key : Nat)
    (contact : Contact) : Contact :=
  pending.foldl
    (fun row change =>
      match change with
      | .updateContact other patch => if other = key then patch.apply row else row
      | _ => row)
    contact

/-- The contact under a key, as an object of the session. -/
def loadContact (key : Nat) : Program (Option Contact) :=
  fun pending => query (fun view => (view.contacts.get key).map (inSession pending key)) pending

/-- Set columns of a contact object; `updated_at` follows every update. -/
def assign
    (key : Nat)
    (contact : Contact)
    (patch : ContactPatch) : Program Contact := do
  let now ← utcnow
  let stamped := { patch with updatedAt := some now }
  stage (.updateContact key stamped)
  pure (stamped.apply contact)

/-! ### Objects of a session -/

section Objects

variable {changes : List Change} {key : Nat}

theorem inSession_of_not_mem
    (absent : ∀ patch, .updateContact key patch ∉ changes)
    (contact : Contact) :
    inSession changes key contact = contact := by
  induction changes generalizing contact with
  | nil => rfl
  | cons change rest inductionHypothesis =>
      have later : ∀ patch, .updateContact key patch ∉ rest :=
        fun patch member => absent patch (List.mem_cons_of_mem _ member)
      cases change with
      | updateContact other patch =>
          have different : other ≠ key := by
            rintro rfl
            exact absent patch List.mem_cons_self
          change inSession rest key (if other = key then patch.apply contact else contact) = _
          rw [if_neg different]
          exact inductionHypothesis later contact
      | _ => exact inductionHypothesis later contact

theorem inSession_append
    (first second : List Change)
    (key : Nat)
    (contact : Contact) :
    inSession (first ++ second) key contact =
      inSession second key (inSession first key contact) :=
  List.foldl_append

/-- Changes that are no updates do not matter to a contact. -/
theorem inSession_filter
    {keep : Change → Bool}
    (updates : ∀ key patch, keep (.updateContact key patch) = true)
    (changes : List Change)
    (contact : Contact) :
    inSession (changes.filter keep) key contact = inSession changes key contact := by
  induction changes generalizing contact with
  | nil => rfl
  | cons change rest inductionHypothesis =>
      cases kept : keep change with
      | true =>
          rw [List.filter_cons_of_pos kept]
          exact inductionHypothesis _
      | false =>
          rw [List.filter_cons_of_neg (by simp [kept]), inductionHypothesis]
          cases change with
          | updateContact other patch =>
              rw [updates] at kept
              cases kept
          | _ => rfl

theorem inSession_update
    (patch : ContactPatch)
    (rest : List Change)
    (contact : Contact) :
    inSession (.updateContact key patch :: rest) key contact =
      inSession rest key (patch.apply contact) := by
  change inSession rest key (if key = key then patch.apply contact else contact) = _
  rw [if_pos rfl]

/-- The order of a flush does not matter to a contact. -/
theorem inSession_unitOfWork
    (changes : List Change)
    (contact : Contact) :
    inSession (unitOfWork changes) key contact = inSession changes key contact := by
  have skips : inSession (changes.filter Change.isSuppression) key contact = contact := by
    refine inSession_of_not_mem (fun patch member => ?_) contact
    cases (List.mem_filter.mp member).2
  unfold unitOfWork
  rw [inSession_append, skips]
  exact inSession_filter (fun _ _ => rfl) changes contact

end Objects

end Program
end Native
end MailerAgent
