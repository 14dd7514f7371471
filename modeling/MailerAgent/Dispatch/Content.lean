import MailerAgent.Dispatch.History

/-!
# What is sent for a dispatch

The arguments that Transaction B prepares are read off the rows of the dispatch: its
contact, its message and its mailbox. Generation fixes what the message says by the
snapshot that was stored with the dispatch.
-/

namespace MailerAgent
namespace Dispatch

open Concurrent Relational Mail

/-- A message as the sender is to be given it. -/
structure SaidBy
    (message : Message)
    (arguments : SendEmailArguments) : Prop where
  subject : arguments.subject = message.subject.getD ""
  bodyText : arguments.bodyText = message.body
  inReplyToHeader : arguments.inReplyToHeader = truthy message.inReplyToHeader
  referencesHeader : arguments.referencesHeader =
    (truthy message.inReplyToHeader).bind fun _ => truthy message.referencesHeader

/-- The arguments are the rows of the dispatch. -/
structure Carries
    (database : Database)
    (row : ExternalDispatch)
    (arguments : SendEmailArguments) : Prop where
  recipient : ∃ contact, database.contacts.get row.contactId = some contact ∧
    arguments.toEmail = contact.email
  letter : ∃ key message, row.messageId = some key ∧
    database.messages.get key = some message ∧ SaidBy message arguments
  sender : ∃ key mailbox, row.mailboxId = some key ∧
    database.mailboxes.get key = some mailbox ∧ arguments.fromEmail = mailbox.emailAddress

/-- The arguments are those of a dispatch. -/
def Addressed
    (database : Database)
    (key : Nat)
    (arguments : SendEmailArguments) : Prop :=
  ∃ row, database.dispatches.get key = some row ∧ Carries database row arguments

/-- The Message-ID of the arguments is the one that is stored with the dispatch. -/
def Stamped
    (database : Database)
    (key : Nat)
    (arguments : SendEmailArguments) : Prop :=
  ∃ row messageKey message header, database.dispatches.get key = some row ∧
    row.messageId = some messageKey ∧ database.messages.get messageKey = some message ∧
    message.status ≠ .draft ∧ message.messageIdHeader = some header ∧
    arguments.messageIdHeader = some header

/-! ## Transaction B -/

theorem loadActiveMailbox_eq_ok
    {database : Database}
    {row : ExternalDispatch}
    {mailbox : Mailbox}
    (passed : loadActiveMailbox database row = .ok mailbox) :
    ∃ key, row.mailboxId = some key ∧ database.mailboxes.get key = some mailbox := by
  unfold loadActiveMailbox at passed
  split at passed
  · cases passed
  next key chosen =>
  split at passed
  · cases passed
  next stored found =>
  split at passed
  · cases passed
  split at passed
  · cases passed
  obtain rfl := Except.ok.inj passed
  exact ⟨key, chosen, found⟩

theorem buildExactSendInput_eq_ok
    {messageKey contactKey campaignKey : Nat}
    {message : Message}
    {contact : Contact}
    {campaign : Campaign}
    {input : ExactSendInput}
    (built : buildExactSendInput messageKey message contactKey contact campaignKey campaign =
      .ok input) :
    input.toEmail = contact.email ∧ input.subject = message.subject.getD "" ∧
      input.bodyText = message.body ∧ input.inReplyToHeader = message.inReplyToHeader ∧
      input.referencesHeader = message.referencesHeader := by
  unfold buildExactSendInput at built
  cases checked : assertWired messageKey message contactKey contact campaignKey with
  | error text =>
      rw [checked] at built
      cases built
  | ok _ =>
      rw [checked] at built
      obtain rfl := Except.ok.inj built
      exact ⟨rfl, rfl, rfl, rfl, rfl⟩

/-- The gates hand over what the rows say, under a Message-ID of their own. -/
theorem evaluateGates_carries
    {settings : Settings}
    {services : Services}
    {makeMsgid : String → String}
    {stopping : Bool}
    {database : Database}
    {row : ExternalDispatch}
    {ready : ReadySend}
    (passed : evaluateGates settings services makeMsgid stopping database row = .ok ready) :
    Carries database row ready.arguments ∧
      ready.arguments.messageIdHeader = some ready.messageId := by
  unfold evaluateGates at passed
  obtain ⟨loaded, scopedOk, passed⟩ := bind_eq_ok passed
  obtain ⟨input, wiredOk, passed⟩ := bind_eq_ok passed
  obtain ⟨mailbox, mailboxOk, passed⟩ := bind_eq_ok passed
  obtain ⟨_, -, passed⟩ := bind_eq_ok passed
  obtain ⟨grounding, -, passed⟩ := bind_eq_ok passed
  obtain ⟨_, -, passed⟩ := bind_eq_ok passed
  obtain ⟨_, -, passed⟩ := bind_eq_ok passed
  obtain ⟨smtpConfig, -, passed⟩ := bind_eq_ok passed
  obtain ⟨_, -, passed⟩ := bind_eq_ok passed
  obtain rfl := Except.ok.inj passed
  obtain ⟨attached, foundMessage, foundContact⟩ := loadTenantScoped_eq_ok scopedOk
  obtain ⟨mailboxKey, chosen, foundMailbox⟩ := loadActiveMailbox_eq_ok mailboxOk
  obtain ⟨toEmail, subject, bodyText, inReplyTo, references⟩ :=
    buildExactSendInput_eq_ok (wired_eq_ok wiredOk)
  refine ⟨⟨⟨loaded.contact, foundContact, toEmail⟩,
    ⟨loaded.messageKey, loaded.message, attached, foundMessage, subject, bodyText, ?_, ?_⟩,
    ⟨mailboxKey, mailbox, chosen, foundMailbox, rfl⟩⟩, rfl⟩
  · exact congrArg truthy inReplyTo
  · change (truthy input.inReplyToHeader).bind (fun _ => truthy input.referencesHeader) = _
    rw [inReplyTo, references]

/-- Transaction B stores the Message-ID that is handed over. -/
theorem commitPrepared_stamped
    {database updated : Database}
    {claim : ClaimedDispatch}
    {ready : ReadySend}
    (consistent : Consistent database)
    (wired : Wired database claim ready)
    (header : ready.arguments.messageIdHeader = some ready.messageId)
    (prepared : commitPrepared database claim ready = some updated) :
    Stamped updated claim.dispatchId ready.arguments := by
  obtain ⟨row, found, -, written⟩ := commitPrepared_eq_some prepared
  obtain ⟨same, foundSame, attached, -⟩ := wired
  obtain rfl : same = row := Option.some.inj (foundSame.symm.trans found)
  obtain ⟨message, foundMessage, -⟩ := (consistent.linked _ same found).message _ attached
  obtain ⟨rfl, -⟩ := Database.updateMessage_eq_some written
  refine ⟨sendClaimedRow claim same, ready.messageKey,
    { message with messageIdHeader := some ready.messageId, status := .sending },
    ready.messageId, ?_, attached, ?_, nofun, rfl, header⟩
  · simp [Database.modifyDispatch, Database.modifyMessage, found]
  · simp [Database.modifyDispatch, Database.modifyMessage, foundMessage]

/-- What a thread that has passed the gates is about to hand over. -/
def DispatchPhase.Faithful (database : Database) : DispatchPhase → Prop
  | .decided _ claim (.ok ready) => Addressed database claim.dispatchId ready.arguments ∧
      ready.arguments.messageIdHeader = some ready.messageId
  | .prepared _ claim ready => Addressed database claim.dispatchId ready.arguments ∧
      Stamped database claim.dispatchId ready.arguments
  | _ => True

/-- A call hands over what its dispatch says. -/
def CallFaithful
    (database : Database)
    (call : SendCall) : Prop :=
  ∀ key, call.origin = .dispatch key →
    Addressed database key call.arguments ∧ Stamped database key call.arguments

section Step

variable {deployment : Deployment} {database : Database} {clock : Instant}
variable {position : Nat} {runtime : DispatchRuntime} {phase : DispatchPhase}
variable {choice : DispatchChoice} {move : DispatchMove} {calls : List SendCall}

theorem faithful_retryOutcome
    {claim : ClaimedDispatch}
    {ready : ReadySend}
    {report : SendReport}
    {remaining : Nat} :
    (retryOutcome claim ready report remaining).Faithful database := by
  cases remaining with
  | zero => trivial
  | succ remaining => trivial

/-- A thread that evaluates the gates, commits Transaction B or calls the sender goes on
with what its dispatch says. `kept` is that the commit does not change what it says. -/
theorem faithful_dispatchStep
    (consistent : Consistent database)
    (holds : phase.Holds database calls)
    (faithful : phase.Faithful database)
    (kept : ∀ key arguments, Addressed database key arguments →
      Addressed move.database key arguments)
    (stepped : dispatchStep deployment database clock position runtime phase choice =
      some move) :
    move.phase.Faithful move.database ∧
      ∀ call ∈ move.calls, CallFaithful move.database call := by
  unfold dispatchStep at stepped
  split at stepped
  · obtain ⟨admitted, -, rfl⟩ := Option.map_eq_some_iff.mp stepped
    exact ⟨trivial, fun _ member => by cases member⟩
  · split at stepped <;> cases stepped <;> exact ⟨trivial, fun _ member => by cases member⟩
  · cases stepped
    exact ⟨trivial, fun _ member => by cases member⟩
  · obtain ⟨registered, -, rfl⟩ := Option.map_eq_some_iff.mp stepped
    exact ⟨trivial, fun _ member => by cases member⟩
  · obtain ⟨row, found, rfl⟩ := Option.map_eq_some_iff.mp stepped
    refine ⟨?_, fun _ member => by cases member⟩
    dsimp only
    generalize evaluated : evaluateGates _ _ _ _ _ _ = result
    cases result with
    | error exit => cases exit <;> trivial
    | ok ready =>
        obtain ⟨carries, header⟩ := evaluateGates_carries evaluated
        exact ⟨⟨row, found, carries⟩, header⟩
  · cases stepped
    exact ⟨trivial, fun _ member => by cases member⟩
  · next began claim decision outcome =>
      obtain rfl := Option.some.inj stepped
      refine ⟨?_, fun _ member => by cases member⟩
      cases decision with
      | error reason => trivial
      | ok ready =>
          obtain ⟨addressed, header⟩ := faithful
          have before := kept _ _ addressed
          simp only [commitDecision] at before ⊢
          split at before
          · trivial
          · next updated prepared =>
              cases outcome with
              | failed => trivial
              | appliedButReportedFailed => trivial
              | committed =>
                  exact ⟨before, commitPrepared_stamped consistent holds header prepared⟩
  · cases stepped
    exact ⟨trivial, fun _ member => by cases member⟩
  · obtain rfl := Option.some.inj stepped
    refine ⟨trivial, ?_⟩
    intro call member key origin
    obtain rfl := List.mem_singleton.mp member
    cases origin
    exact faithful
  · next claim ready report remaining outcome =>
      obtain rfl := Option.some.inj stepped
      refine ⟨?_, fun _ member => by cases member⟩
      simp only [recordOutcome]
      split
      · dsimp only
        split
        · trivial
        · exact faithful_retryOutcome
      · dsimp only
        split
        · trivial
        · exact faithful_retryOutcome
  · cases stepped
    exact ⟨faithful_retryOutcome, fun _ member => by cases member⟩
  · cases stepped
    exact ⟨trivial, fun _ member => by cases member⟩
  · cases stepped
    exact ⟨trivial, fun _ member => by cases member⟩
  · cases stepped
    exact ⟨trivial, fun _ member => by cases member⟩
  · obtain ⟨released, -, rfl⟩ := Option.map_eq_some_iff.mp stepped
    exact ⟨trivial, fun _ member => by cases member⟩
  · cases stepped

end Step

/-! ## Generation -/

/-- What a generation was prepared from: the snapshot that is stored with the dispatch. -/
structure PreparedFrom
    (row : ExternalDispatch)
    (prepared : PreparedGeneration) : Prop where
  snapshot : ∃ snapshot, row.groundingContext = some snapshot ∧
    prepared.valueProp = snapshot.valueProp ∧
    prepared.contextNotes = snapshot.contextNotes ∧
    prepared.transcript = snapshot.conversationTranscript ∧
    prepared.replyParent = snapshot.replyParent

/-- The generation of a thread is prepared from its dispatch. -/
def GenerationPhase.Fits
    (database : Database)
    (phase : GenerationPhase) : Prop :=
  ∀ prepared, phase.preparation = some prepared →
    ∃ row, database.dispatches.get prepared.claim.dispatchId = some row ∧
      PreparedFrom row prepared

theorem GenerationPhase.Fits.of_extends
    {before after : Database}
    {phase : GenerationPhase}
    (fits : phase.Fits before)
    (extended : before.Extends after) :
    phase.Fits after := by
  intro prepared working
  obtain ⟨row, found, origin⟩ := fits prepared working
  obtain ⟨kept, foundKept, keeps⟩ := extended.dispatches _ row found
  refine ⟨kept, foundKept, ?_⟩
  constructor
  rw [keeps.groundingContext]
  exact origin.snapshot

theorem GenerationPhase.fits_idle (database : Database) :
    GenerationPhase.idle.Fits database := by
  intro prepared working
  cases working

theorem prepareGeneration_from
    {database : Database}
    {claim : ClaimedDispatch}
    {row : ExternalDispatch}
    {prepared : PreparedGeneration}
    (preparation : prepareGeneration database claim row = .ok prepared) :
    PreparedFrom row prepared := by
  unfold prepareGeneration at preparation
  split at preparation
  · cases preparation
  next snapshot usable =>
  split at preparation
  · cases preparation
  split at preparation
  · cases preparation
  have stored : row.groundingContext = some snapshot :=
    (Option.filter_eq_some_iff.mp usable).1
  cases parent : snapshot.replyParent with
  | none =>
      rw [parent] at preparation
      obtain rfl := Except.ok.inj preparation
      exact ⟨snapshot, stored, rfl, rfl, rfl, parent.symm⟩
  | some chosen =>
      rw [parent] at preparation
      unfold validReplyParent at preparation
      dsimp only at preparation
      split at preparation
      · cases preparation
      · obtain rfl := Except.ok.inj preparation
        exact ⟨snapshot, stored, rfl, rfl, rfl, parent.symm⟩

theorem fits_claimGeneration
    {database : Database}
    {claim : ClaimedDispatch}
    {outcome : CommitOutcome} :
    (claimGeneration database claim outcome).phase.Fits database := by
  unfold claimGeneration
  split
  · exact GenerationPhase.fits_idle _
  · exact GenerationPhase.fits_idle _
  · next updated prepared claimed =>
      obtain ⟨row, found, -, -, preparation, -⟩ := transactionG1_eq_some claimed
      obtain ⟨sameClaim, -⟩ := prepareGeneration_eq_ok preparation
      cases outcome with
      | committed =>
          rintro _ ⟨⟩
          exact ⟨row, by rw [sameClaim]; exact found, prepareGeneration_from preparation⟩
      | appliedButReportedFailed | failed => exact GenerationPhase.fits_idle _

/-- A generation thread goes on with what its dispatch says. -/
theorem fits_generationStep
    {database : Database}
    {clock : Instant}
    {runtime : DispatchRuntime}
    {phase : GenerationPhase}
    {choice : GenerationChoice}
    {move : GenerationMove}
    (fits : phase.Fits database)
    (stepped : generationStep database clock runtime phase choice = some move) :
    move.phase.Fits database := by
  unfold generationStep at stepped
  split at stepped
  · split at stepped
    · cases stepped
    · obtain ⟨claim, -, rfl⟩ := Option.map_eq_some_iff.mp stepped
      exact fits_claimGeneration
  · next prepared attempt =>
      obtain rfl := Option.some.inj stepped
      exact fun same working => fits same working
  · next prepared result remaining replyReference outcome =>
      obtain rfl := Option.some.inj stepped
      have retried : (retryGeneration prepared result remaining).Fits database := by
        intro same working
        obtain rfl := preparation_retryGeneration working
        exact fits prepared rfl
      unfold writeGeneration
      split
      · exact GenerationPhase.fits_idle _
      · exact retried
      · dsimp only
        split
        · exact GenerationPhase.fits_idle _
        · exact retried
  · next prepared result remaining =>
      obtain rfl := Option.some.inj stepped
      intro same working
      obtain rfl := preparation_retryGeneration working
      exact fits prepared rfl
  · cases stepped

end Dispatch
end MailerAgent
