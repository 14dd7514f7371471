import Mathlib.Logic.Relation
import MailerAgent.Dispatch.Content
import MailerAgent.Intake.Requests

/-!
# What the pipeline writes

Every transaction of the intake and of the workers is a sequence of row-level edits. The
edits say which tables the pipeline touches, and that it changes nothing of a stored
message but its delivery. The message of a reply says what the parent says that is stored
with its dispatch.
-/

namespace MailerAgent
namespace Dispatch

open Concurrent Relational Mail Intake

/-- The columns of a message that its delivery leaves alone. Once the message was handed
over, they include its Message-ID. -/
structure SameLetter (before after : Message) : Prop where
  contactId : after.contactId = before.contactId
  direction : after.direction = before.direction
  mailboxId : after.mailboxId = before.mailboxId
  subject : after.subject = before.subject
  body : after.body = before.body
  inReplyToHeader : after.inReplyToHeader = before.inReplyToHeader
  referencesHeader : after.referencesHeader = before.referencesHeader
  replyReference : after.replyReference = before.replyReference
  stamped : before.status ≠ .draft →
    after.status ≠ .draft ∧ after.messageIdHeader = before.messageIdHeader

theorem SameLetter.refl (message : Message) : SameLetter message message :=
  ⟨rfl, rfl, rfl, rfl, rfl, rfl, rfl, rfl, fun handed => ⟨handed, rfl⟩⟩

theorem SameLetter.trans
    (first second third : Message)
    (left : SameLetter first second)
    (right : SameLetter second third) :
    SameLetter first third where
  contactId := right.contactId.trans left.contactId
  direction := right.direction.trans left.direction
  mailboxId := right.mailboxId.trans left.mailboxId
  subject := right.subject.trans left.subject
  body := right.body.trans left.body
  inReplyToHeader := right.inReplyToHeader.trans left.inReplyToHeader
  referencesHeader := right.referencesHeader.trans left.referencesHeader
  replyReference := right.replyReference.trans left.replyReference
  stamped handed := by
    obtain ⟨between, first⟩ := left.stamped handed
    obtain ⟨last, second⟩ := right.stamped between
    exact ⟨last, second.trans first⟩

/-- A dispatch keeps its message and its snapshot. -/
def SameAttachment (before after : ExternalDispatch) : Prop :=
  after.messageId = before.messageId ∧ after.groundingContext = before.groundingContext

/-- The message of a reply has the subject and the threading headers of the parent that
is stored with the dispatch. -/
def Answers
    (row : ExternalDispatch)
    (message : Message) : Prop :=
  ∀ snapshot parent, row.groundingContext = some snapshot →
    snapshot.replyParent = some parent →
    message.subject = some parent.subject ∧
      message.inReplyToHeader = some parent.inReplyToHeader ∧
      message.referencesHeader = parent.referencesHeader

/-- A new contact, which no outreach has begun to pursue. -/
structure Unpursued (contact : Contact) : Prop where
  status : contact.status = .new
  followUpIndex : contact.followUpIndex = 0
  nextActionAt : contact.nextActionAt = none

/-- One edit of the pipeline. -/
inductive Edit (database : Database) : Database → Prop where
  | campaign
      {row : Campaign}
      {after : Database}
      (inserted : database.insertCampaign row = some after) : Edit database after
  | contact
      {row : Contact}
      {after : Database}
      (inserted : database.insertContact row = some after)
      (unpursued : Unpursued row) : Edit database after
  | message
      {row : Message}
      {after : Database}
      (outbound : row.direction = .outbound)
      (unpolled : row.mailboxId = none)
      (inserted : database.insertMessage row = some after) : Edit database after
  | accept
      {row : ExternalDispatch}
      {after : Database}
      (answered : ∀ messageKey, row.messageId = some messageKey →
        ∃ message, database.messages.get messageKey = some message ∧ Answers row message)
      (inserted : database.insertDispatch row = some after) : Edit database after
  | dispatch
      (key : Nat)
      {change : ExternalDispatch → ExternalDispatch}
      (same : ∀ row, SameAttachment row (change row)) :
      Edit database (database.modifyDispatch key change)
  | attach
      (key : Nat)
      {messageKey : Nat}
      {message : Message}
      {change : ExternalDispatch → ExternalDispatch}
      (attached : ∀ row, (change row).messageId = some messageKey ∧
        (change row).groundingContext = row.groundingContext)
      (stored : database.messages.get messageKey = some message)
      (answers : ∀ row, database.dispatches.get key = some row → Answers row message) :
      Edit database (database.modifyDispatch key change)
  | delivery
      (key : Nat)
      {change : Message → Message}
      (same : ∀ row, database.messages.get key = some row → SameLetter row (change row)) :
      Edit database (database.modifyMessage key change)

/-- The edits of a transaction. -/
abbrev Edits : Database → Database → Prop :=
  Relation.ReflTransGen Edit

section Footprint

variable {before after : Database}

/-- Mailboxes, suppressions and retained messages belong to other components. -/
theorem Edit.untouched (edit : Edit before after) :
    after.mailboxes = before.mailboxes ∧ after.suppressions = before.suppressions ∧
      after.unmatched = before.unmatched := by
  cases edit with
  | campaign inserted =>
      obtain ⟨-, rfl⟩ := Database.insertCampaign_eq_some inserted
      exact ⟨rfl, rfl, rfl⟩
  | contact inserted =>
      obtain ⟨-, -, rfl⟩ := Database.insertContact_eq_some inserted
      exact ⟨rfl, rfl, rfl⟩
  | message outbound unpolled inserted =>
      obtain ⟨-, rfl⟩ := Database.insertMessage_eq_some inserted
      exact ⟨rfl, rfl, rfl⟩
  | accept answers inserted =>
      obtain ⟨-, rfl⟩ := Database.insertDispatch_eq_some inserted
      exact ⟨rfl, rfl, rfl⟩
  | dispatch key same => exact ⟨rfl, rfl, rfl⟩
  | attach key attached stored answers => exact ⟨rfl, rfl, rfl⟩
  | delivery key same => exact ⟨rfl, rfl, rfl⟩

theorem Edit.letters (edit : Edit before after) :
    Table.Extends SameLetter before.messages after.messages := by
  cases edit with
  | campaign inserted =>
      obtain ⟨-, rfl⟩ := Database.insertCampaign_eq_some inserted
      exact .refl SameLetter.refl _
  | contact inserted =>
      obtain ⟨-, -, rfl⟩ := Database.insertContact_eq_some inserted
      exact .refl SameLetter.refl _
  | message outbound unpolled inserted =>
      obtain ⟨-, rfl⟩ := Database.insertMessage_eq_some inserted
      exact .insert SameLetter.refl _ _
  | accept answers inserted =>
      obtain ⟨-, rfl⟩ := Database.insertDispatch_eq_some inserted
      exact .refl SameLetter.refl _
  | dispatch key same => exact .refl SameLetter.refl _
  | attach key attached stored answers => exact .refl SameLetter.refl _
  | delivery key same => exact .modify SameLetter.refl same

/-- A message that came through a mailbox was there before. -/
theorem Edit.arrived
    {key : Nat}
    {message : Message}
    (edit : Edit before after)
    (found : after.messages.get key = some message)
    (polled : message.mailboxId ≠ none) :
    ∃ old, before.messages.get key = some old ∧ SameLetter old message := by
  cases edit with
  | campaign inserted =>
      obtain ⟨-, rfl⟩ := Database.insertCampaign_eq_some inserted
      exact ⟨message, found, .refl message⟩
  | contact inserted =>
      obtain ⟨-, -, rfl⟩ := Database.insertContact_eq_some inserted
      exact ⟨message, found, .refl message⟩
  | message outbound unpolled inserted =>
      obtain ⟨-, rfl⟩ := Database.insertMessage_eq_some inserted
      rcases Table.get_insert_cases found with old | ⟨-, rfl⟩
      · exact ⟨message, old, .refl message⟩
      · exact absurd unpolled polled
  | accept answers inserted =>
      obtain ⟨-, rfl⟩ := Database.insertDispatch_eq_some inserted
      exact ⟨message, found, .refl message⟩
  | dispatch key same => exact ⟨message, found, .refl message⟩
  | attach key attached stored answers => exact ⟨message, found, .refl message⟩
  | delivery key same =>
      obtain ⟨old, foundOld, rfl⟩ := Table.get_modify_cases found
      refine ⟨old, foundOld, ?_⟩
      split
      · next here => exact same old (here ▸ foundOld)
      · exact .refl old

/-- Campaigns are only added. -/
theorem Edit.campaigns (edit : Edit before after) :
    Table.Extends Eq before.campaigns after.campaigns := by
  have same : Table.Extends Eq before.campaigns before.campaigns := .refl (fun _ => rfl) _
  cases edit with
  | campaign inserted =>
      obtain ⟨-, rfl⟩ := Database.insertCampaign_eq_some inserted
      exact .insert (fun _ => rfl) _ _
  | contact inserted unpursued =>
      obtain ⟨-, -, rfl⟩ := Database.insertContact_eq_some inserted
      exact same
  | message outbound unpolled inserted =>
      obtain ⟨-, rfl⟩ := Database.insertMessage_eq_some inserted
      exact same
  | accept answers inserted =>
      obtain ⟨-, rfl⟩ := Database.insertDispatch_eq_some inserted
      exact same
  | dispatch | attach | delivery => exact same

/-- Contacts are only added, without a schedule. -/
theorem Edit.contacts (edit : Edit before after) :
    Table.Extends Eq before.contacts after.contacts ∧
      ∀ key contact, after.contacts.get key = some contact →
        before.contacts.get key = some contact ∨ Unpursued contact := by
  have same : Table.Extends Eq before.contacts before.contacts := .refl (fun _ => rfl) _
  cases edit with
  | campaign inserted =>
      obtain ⟨-, rfl⟩ := Database.insertCampaign_eq_some inserted
      exact ⟨same, fun _ _ => .inl⟩
  | contact inserted unpursued =>
      obtain ⟨-, -, rfl⟩ := Database.insertContact_eq_some inserted
      refine ⟨.insert (fun _ => rfl) _ _, fun key contact found => ?_⟩
      rcases Table.get_insert_cases found with old | ⟨-, rfl⟩
      · exact .inl old
      · exact .inr unpursued
  | message outbound unpolled inserted =>
      obtain ⟨-, rfl⟩ := Database.insertMessage_eq_some inserted
      exact ⟨same, fun _ _ => .inl⟩
  | accept answers inserted =>
      obtain ⟨-, rfl⟩ := Database.insertDispatch_eq_some inserted
      exact ⟨same, fun _ _ => .inl⟩
  | dispatch | attach | delivery => exact ⟨same, fun _ _ => .inl⟩

theorem Edits.campaigns (edits : Edits before after) :
    Table.Extends Eq before.campaigns after.campaigns := by
  induction edits with
  | refl => exact .refl (fun _ => rfl) _
  | tail _ edit inductionHypothesis =>
      exact inductionHypothesis.trans (fun _ _ _ => Eq.trans) edit.campaigns

theorem Edits.contacts (edits : Edits before after) :
    Table.Extends Eq before.contacts after.contacts ∧
      ∀ key contact, after.contacts.get key = some contact →
        before.contacts.get key = some contact ∨ Unpursued contact := by
  induction edits with
  | refl => exact ⟨.refl (fun _ => rfl) _, fun _ _ => .inl⟩
  | tail _ edit inductionHypothesis =>
      obtain ⟨extended, origin⟩ := inductionHypothesis
      obtain ⟨further, last⟩ := edit.contacts
      exact ⟨extended.trans (fun _ _ _ => Eq.trans) further,
        fun key contact found => (last key contact found).elim (origin key contact) .inr⟩

theorem Edits.untouched (edits : Edits before after) :
    after.mailboxes = before.mailboxes ∧ after.suppressions = before.suppressions ∧
      after.unmatched = before.unmatched := by
  induction edits with
  | refl => exact ⟨rfl, rfl, rfl⟩
  | tail _ edit inductionHypothesis =>
      obtain ⟨mailboxes, suppressions, unmatched⟩ := edit.untouched
      exact ⟨mailboxes.trans inductionHypothesis.1,
        suppressions.trans inductionHypothesis.2.1,
        unmatched.trans inductionHypothesis.2.2⟩

theorem Edits.letters (edits : Edits before after) :
    Table.Extends SameLetter before.messages after.messages := by
  induction edits with
  | refl => exact .refl SameLetter.refl _
  | tail _ edit inductionHypothesis =>
      exact inductionHypothesis.trans SameLetter.trans edit.letters

theorem Edits.arrived
    {key : Nat}
    {message : Message}
    (edits : Edits before after)
    (found : after.messages.get key = some message)
    (polled : message.mailboxId ≠ none) :
    ∃ old, before.messages.get key = some old ∧ SameLetter old message := by
  induction edits generalizing message with
  | refl => exact ⟨message, found, .refl message⟩
  | tail _ edit inductionHypothesis =>
      obtain ⟨middle, foundMiddle, later⟩ := edit.arrived found polled
      obtain ⟨old, foundOld, earlier⟩ :=
        inductionHypothesis foundMiddle (later.mailboxId ▸ polled)
      exact ⟨old, foundOld, .trans _ _ _ earlier later⟩

/-- Every dispatch of a reply that has a message has the answer to its parent. -/
def Answered (database : Database) : Prop :=
  ∀ key row messageKey, database.dispatches.get key = some row →
    row.messageId = some messageKey →
    ∃ message, database.messages.get messageKey = some message ∧ Answers row message

theorem Answers.of_sameLetter
    {row : ExternalDispatch}
    {message kept : Message}
    (answers : Answers row message)
    (same : SameLetter message kept) :
    Answers row kept := by
  intro snapshot parent stored chosen
  obtain ⟨subject, inReplyTo, references⟩ := answers snapshot parent stored chosen
  exact ⟨same.subject.trans subject, same.inReplyToHeader.trans inReplyTo,
    same.referencesHeader.trans references⟩

theorem Answers.of_sameAttachment
    {row kept : ExternalDispatch}
    {message : Message}
    (answers : Answers row message)
    (same : kept.groundingContext = row.groundingContext) :
    Answers kept message := by
  intro snapshot parent stored chosen
  exact answers snapshot parent (same ▸ stored) chosen

theorem Edit.answered
    (edit : Edit before after)
    (answered : Answered before) :
    Answered after := by
  have letters := edit.letters
  -- The answers of the dispatches that were there go on being answers.
  have old : ∀ key row messageKey, before.dispatches.get key = some row →
      row.messageId = some messageKey →
      ∃ message, after.messages.get messageKey = some message ∧ Answers row message := by
    intro key row messageKey found attached
    obtain ⟨message, foundMessage, answers⟩ := answered key row messageKey found attached
    obtain ⟨kept, foundKept, same⟩ := letters messageKey message foundMessage
    exact ⟨kept, foundKept, answers.of_sameLetter same⟩
  intro key row messageKey found attached
  cases edit with
  | campaign inserted =>
      obtain ⟨-, rfl⟩ := Database.insertCampaign_eq_some inserted
      exact old key row messageKey found attached
  | contact inserted =>
      obtain ⟨-, -, rfl⟩ := Database.insertContact_eq_some inserted
      exact old key row messageKey found attached
  | message outbound unpolled inserted =>
      obtain ⟨-, rfl⟩ := Database.insertMessage_eq_some inserted
      exact old key row messageKey found attached
  | accept answers inserted =>
      obtain ⟨-, rfl⟩ := Database.insertDispatch_eq_some inserted
      rcases Table.get_insert_cases found with earlier | ⟨-, rfl⟩
      · exact old key row messageKey earlier attached
      · exact answers messageKey attached
  | dispatch position same =>
      obtain ⟨stored, foundStored, rfl⟩ := Table.get_modify_cases found
      split at attached
      · next here =>
          rw [if_pos here]
          obtain ⟨message, foundMessage, answers⟩ :=
            old key stored messageKey foundStored ((same stored).1 ▸ attached)
          exact ⟨message, foundMessage, answers.of_sameAttachment (same stored).2⟩
      · next elsewhere =>
          rw [if_neg elsewhere]
          exact old key stored messageKey foundStored attached
  | attach position set stored answers =>
      obtain ⟨earlier, foundEarlier, rfl⟩ := Table.get_modify_cases found
      split at attached
      · next here =>
          rw [if_pos here]
          obtain rfl := Option.some.inj ((set earlier).1.symm.trans attached)
          exact ⟨_, stored,
            (answers earlier (here ▸ foundEarlier)).of_sameAttachment (set earlier).2⟩
      · next elsewhere =>
          rw [if_neg elsewhere]
          exact old key earlier messageKey foundEarlier attached
  | delivery position same => exact old key row messageKey found attached

theorem Edits.answered
    (edits : Edits before after)
    (answered : Answered before) :
    Answered after := by
  induction edits with
  | refl => exact answered
  | tail _ edit inductionHypothesis => exact edit.answered inductionHypothesis

end Footprint

/-! ## The transactions -/

section Transactions

variable {deployment : Deployment} {services : Services} {database updated : Database}
variable {claim : ClaimedDispatch}

theorem edits_updateDispatchWhere
    {key : Nat}
    {condition : ExternalDispatch → Bool}
    {change : ExternalDispatch → ExternalDispatch}
    (applied : database.updateDispatchWhere key condition change = some updated)
    (same : ∀ row, SameAttachment row (change row)) :
    Edits database updated := by
  obtain ⟨row, -, -, rfl⟩ := updateDispatchWhere_eq_some applied
  exact .single (.dispatch key same)

theorem edits_updateMessage
    {key : Nat}
    {change : Message → Message}
    (same : ∀ row, database.messages.get key = some row → SameLetter row (change row))
    (applied : database.updateMessage key change = some updated) :
    Edits database updated := by
  obtain ⟨rfl, -⟩ := Database.updateMessage_eq_some applied
  exact .single (.delivery key same)

theorem edits_modifyLinkedMessage
    {key : Nat}
    {change : Message → Message}
    (same : ∀ row, SameLetter row (change row)) :
    Edits database (modifyLinkedMessage database key change) := by
  unfold modifyLinkedMessage
  split
  · exact .refl
  · exact .single (.delivery _ fun row _ => same row)

theorem edits_finishExternalDispatch
    {now : Instant}
    {outcome : SendOutcome}
    {error : Option String}
    (finished : finishExternalDispatch database now claim outcome error = some updated) :
    Edits database updated := by
  obtain ⟨moved, guarded, rfl⟩ := Option.map_eq_some_iff.mp finished
  exact (edits_updateDispatchWhere guarded fun _ => ⟨rfl, rfl⟩).trans
    (edits_modifyLinkedMessage fun _ => ⟨rfl, rfl, rfl, rfl, rfl, rfl, rfl, rfl, fun _ =>
      ⟨by cases outcome <;> nofun, rfl⟩⟩)

/-- Transaction B stamps the message of a queued dispatch, which is a draft. -/
theorem edits_commitPrepared
    {ready : ReadySend}
    (consistent : Consistent database)
    (wired : Wired database claim ready)
    (prepared : commitPrepared database claim ready = some updated) :
    Edits database updated := by
  obtain ⟨claimed, taken, written⟩ := Option.bind_eq_some_iff.mp prepared
  refine (edits_updateDispatchWhere taken fun _ => ⟨rfl, rfl⟩).trans
    (edits_updateMessage ?_ written)
  intro message found
  obtain ⟨row, foundRow, queued, -, rfl⟩ := guardedSendClaim_eq_some taken
  obtain ⟨same, foundSame, attached, -⟩ := wired
  obtain rfl : same = row := Option.some.inj (foundSame.symm.trans foundRow)
  have draft : message.status = .draft := by
    refine (consistent.agreement _ same foundSame).queued queued message ?_
    unfold linkedMessage
    rw [attached]
    exact found
  exact ⟨rfl, rfl, rfl, rfl, rfl, rfl, rfl, rfl, fun handed => absurd draft handed⟩

theorem edits_commitRefusal
    {now : Instant}
    {reason : String}
    (refused : commitRefusal database now claim reason = some updated) :
    Edits database updated := by
  obtain ⟨claimed, taken, finished⟩ := Option.bind_eq_some_iff.mp refused
  exact (edits_updateDispatchWhere taken fun _ => ⟨rfl, rfl⟩).trans
    (edits_finishExternalDispatch finished)

/-- A commit leaves the database as it is, or applies the edits. -/
theorem edits_store
    (outcome : CommitOutcome)
    (edits : Edits database updated) :
    Edits database (outcome.store database updated) :=
  outcome.store_cases .refl edits

theorem edits_elim
    {result : Option Database}
    (outcome : CommitOutcome)
    (edits : ∀ updated, result = some updated → Edits database updated) :
    Edits database (result.elim database (outcome.store database)) := by
  cases result with
  | none => exact .refl
  | some updated => exact edits_store outcome (edits updated rfl)

theorem edits_commitDecision
    {now : Instant}
    {began : Nat}
    {outcome : CommitOutcome}
    {decision : Except String ReadySend}
    {calls : List SendCall}
    (consistent : Consistent database)
    (holds : (DispatchPhase.decided began claim decision).Holds database calls) :
    Edits database (commitDecision database now began claim outcome decision).1 := by
  cases decision with
  | error reason => exact edits_elim outcome fun _ => edits_commitRefusal
  | ok ready =>
      unfold commitDecision
      dsimp only
      split
      · exact .refl
      · next prepared => exact edits_store outcome (edits_commitPrepared consistent holds prepared)

theorem edits_recordOutcome
    {now : Instant}
    {ready : ReadySend}
    {report : SendReport}
    {remaining : Nat}
    {outcome : CommitOutcome} :
    Edits database (recordOutcome database now claim ready report remaining outcome).1 := by
  unfold recordOutcome
  split
  · exact .refl
  · next finished => exact edits_store outcome (edits_finishExternalDispatch finished)

/-- A step of a dispatch thread. -/
theorem edits_dispatchStep
    {clock : Instant}
    {position : Nat}
    {runtime : DispatchRuntime}
    {phase : DispatchPhase}
    {choice : DispatchChoice}
    {move : DispatchMove}
    {calls : List SendCall}
    (consistent : Consistent database)
    (holds : phase.Holds database calls)
    (stepped : dispatchStep deployment database clock position runtime phase choice =
      some move) :
    Edits database move.database := by
  unfold dispatchStep at stepped
  split at stepped
  · obtain ⟨admitted, -, rfl⟩ := Option.map_eq_some_iff.mp stepped
    exact .refl
  · split at stepped <;> cases stepped <;> exact .refl
  · cases stepped
    exact .refl
  · obtain ⟨registered, -, rfl⟩ := Option.map_eq_some_iff.mp stepped
    exact .refl
  · obtain ⟨row, -, rfl⟩ := Option.map_eq_some_iff.mp stepped
    exact .refl
  · cases stepped
    exact .refl
  · cases stepped
    exact edits_commitDecision consistent holds
  · cases stepped
    exact .refl
  · cases stepped
    exact .refl
  · cases stepped
    exact edits_recordOutcome
  · cases stepped
    exact .refl
  · cases stepped
    exact edits_elim _ fun _ annotated =>
      edits_updateDispatchWhere annotated fun _ => ⟨rfl, rfl⟩
  · cases stepped
    exact .refl
  · cases stepped
    exact .refl
  · obtain ⟨released, -, rfl⟩ := Option.map_eq_some_iff.mp stepped
    exact .refl
  · cases stepped

/-! ### Generation -/

theorem edits_transactionG1
    {result : Except String PreparedGeneration}
    (taken : transactionG1 database claim = some (updated, result)) :
    Edits database updated := by
  obtain ⟨claimed, guarded, rest⟩ := Option.bind_eq_some_iff.mp taken
  obtain ⟨row, -, rest⟩ := Option.bind_eq_some_iff.mp rest
  split at rest
  · cases rest
    exact edits_updateDispatchWhere guarded fun _ => ⟨rfl, rfl⟩
  · obtain ⟨failed, refused, equal⟩ := Option.map_eq_some_iff.mp rest
    cases equal
    exact (edits_updateDispatchWhere guarded fun _ => ⟨rfl, rfl⟩).trans
      (edits_updateDispatchWhere refused fun _ => ⟨rfl, rfl⟩)

/-- The generated message of a reply is the answer to the parent of its dispatch. -/
theorem answers_generatedMessage
    {prepared : PreparedGeneration}
    {row : ExternalDispatch}
    (draft : Draft)
    (createdAt : Instant)
    (replyReference : String)
    (origin : PreparedFrom row prepared) :
    Answers row (generatedMessage prepared draft createdAt replyReference) := by
  intro snapshot parent stored chosen
  obtain ⟨same, storedSame, -, -, -, replyParent⟩ := origin.snapshot
  obtain rfl : same = snapshot := Option.some.inj (storedSame.symm.trans stored)
  unfold generatedMessage
  rw [replyParent, chosen]
  exact ⟨rfl, rfl, rfl⟩

theorem edits_transactionG2
    {prepared : PreparedGeneration}
    {result : Except String Draft}
    {createdAt : Instant}
    {replyReference : String}
    (fits : ∃ row, database.dispatches.get prepared.claim.dispatchId = some row ∧
      PreparedFrom row prepared)
    (written : transactionG2 database prepared result createdAt replyReference =
      .written updated) :
    Edits database updated := by
  unfold transactionG2 at written
  split at written
  · split at written
    · cases written
    · next failed =>
        cases written
        exact edits_updateDispatchWhere failed fun _ => ⟨rfl, rfl⟩
  · next draft =>
      split at written
      · cases written
      · next inserted insertion =>
          split at written
          · cases written
          · next completed =>
              cases written
              obtain ⟨row, found, origin⟩ := fits
              have added : Edit database inserted := by
                refine .message ?_ ?_ insertion
                · unfold generatedMessage
                  dsimp only
                  split <;> rfl
                · unfold generatedMessage
                  dsimp only
                  split <;> rfl
              obtain ⟨-, rfl⟩ := Database.insertMessage_eq_some insertion
              obtain ⟨_, -, -, rfl⟩ := updateDispatchWhere_eq_some completed
              refine .tail (.single added) (.attach _ (fun _ => ⟨rfl, rfl⟩)
                (Table.get_insert_size _ _) ?_)
              intro same foundSame
              obtain rfl : same = row := Option.some.inj (foundSame.symm.trans found)
              exact answers_generatedMessage draft createdAt replyReference origin

/-- A step of a generation thread. -/
theorem edits_generationStep
    {clock : Instant}
    {runtime : DispatchRuntime}
    {phase : GenerationPhase}
    {choice : GenerationChoice}
    {move : GenerationMove}
    (fits : phase.Fits database)
    (stepped : generationStep database clock runtime phase choice = some move) :
    Edits database move.database := by
  unfold generationStep at stepped
  split at stepped
  · split at stepped
    · cases stepped
    · obtain ⟨claim, -, rfl⟩ := Option.map_eq_some_iff.mp stepped
      unfold claimGeneration
      split
      · exact .refl
      · next taken => exact edits_store _ (edits_transactionG1 taken)
      · next taken => exact edits_store _ (edits_transactionG1 taken)
  · cases stepped
    exact .refl
  · cases stepped
    unfold writeGeneration
    split
    · exact .refl
    · exact .refl
    · next written => exact edits_store _ (edits_transactionG2 (fits _ rfl) written)
  · cases stepped
    exact .refl
  · cases stepped

/-! ### Sweeps -/

theorem edits_recoverExpiredSends
    {now : Instant}
    {lease : Nat}
    {cutoff : Instant}
    {keys : List Nat} :
    Edits database (recoverExpiredSends services lease cutoff now database keys).2 := by
  induction keys generalizing database with
  | nil => exact .refl
  | cons key keys inductionHypothesis =>
      unfold recoverExpiredSends
      split
      · exact inductionHypothesis
      · next recovered updated resolved =>
          obtain ⟨row, -, rest⟩ := Option.bind_eq_some_iff.mp resolved
          obtain ⟨moved, guarded, equal⟩ := Option.map_eq_some_iff.mp rest
          cases equal
          refine ((edits_updateDispatchWhere guarded fun _ => ⟨rfl, rfl⟩).trans
            (edits_modifyLinkedMessage fun message => ?_)).trans inductionHypothesis
          split
          · exact ⟨rfl, rfl, rfl, rfl, rfl, rfl, rfl, rfl, fun _ => ⟨nofun, rfl⟩⟩
          · exact .refl message

theorem edits_recoverExpiredGenerationRows
    {now : Instant}
    {cutoff : Instant}
    {keys : List Nat} :
    Edits database (recoverExpiredGenerationRows cutoff now database keys).2 := by
  induction keys generalizing database with
  | nil => exact .refl
  | cons key keys inductionHypothesis =>
      unfold recoverExpiredGenerationRows
      split
      · exact inductionHypothesis
      · next resolved =>
          exact (edits_updateDispatchWhere resolved fun _ => ⟨rfl, rfl⟩).trans
            inductionHypothesis

/-! ### Requests -/

theorem edits_acceptOperation
    {request : OutreachRequest}
    {placement : Placement}
    {now : Instant}
    {replyReference publicReference : String}
    (accepted : acceptOperation services database request placement now replyReference
      publicReference = .written updated) :
    Edits database updated := by
  unfold acceptOperation at accepted
  split at accepted
  · next payload exact =>
    split at accepted
    · cases accepted
    · next inserted insertion =>
        split at accepted
        · cases accepted
        · next stored =>
            cases accepted
            have added : Edit database inserted := .message rfl rfl insertion
            obtain ⟨-, rfl⟩ := Database.insertMessage_eq_some insertion
            refine .tail (.single added) (.accept ?_ stored)
            rintro _ ⟨⟩
            refine ⟨_, Table.get_insert_size _ _, ?_⟩
            intro snapshot parent context
            rw [acceptedDispatch, exact] at context
            cases context
  · split at accepted
    · cases accepted
    · next stored =>
        cases accepted
        refine .single (.accept ?_ stored)
        intro messageKey attached
        cases attached

/-- A step of a request. -/
theorem edits_requestStep
    {clock : Instant}
    {phase : RequestPhase}
    {choice : RequestChoice}
    {move : RequestMove}
    (stepped : requestStep deployment database clock phase choice = some move) :
    Edits database move.database := by
  unfold requestStep at stepped
  split at stepped
  · cases stepped
    exact .refl
  · cases stepped
    exact .refl
  · obtain ⟨reference, -, rfl⟩ := Option.map_eq_some_iff.mp stepped
    exact .refl
  · cases stepped
    exact .refl
  · cases stepped
    exact .refl
  · split at stepped
    · cases stepped
      exact .refl
    · next inserted =>
        cases stepped
        exact edits_store _ (.single (.campaign inserted))
  · cases stepped
    exact .refl
  · cases stepped
    exact .refl
  · split at stepped
    · cases stepped
      exact .refl
    · next inserted =>
        cases stepped
        exact edits_store _ (.single (.contact inserted ⟨rfl, rfl, rfl⟩))
  · cases stepped
    exact .refl
  · split at stepped
    · cases stepped
      exact .refl
    · cases stepped
      exact .refl
    · next written =>
        cases stepped
        exact edits_store _ (edits_acceptOperation written)
  · cases stepped
    exact .refl
  · obtain ⟨request, -, rfl⟩ := Option.map_eq_some_iff.mp stepped
    exact .refl
  · cases stepped

end Transactions

end Dispatch
end MailerAgent
