import MailerAgent.Dispatch.Consistency

/-!
# The writes of the dispatch pipeline

For every transaction of the pipeline: what it found, what it left, that it keeps
the database consistent and only extends it, and how it moves the states of
dispatches. `SilentMove` are the moves that need no knowledge of the sender: a
pending dispatch may become anything but `SENT`, and `SENDING` may be given up as
`UNKNOWN`. The one other move is the recording of an observed outcome.
-/

namespace MailerAgent
namespace Dispatch

open Relational Mail

/-- The state of a dispatch; one that was not accepted yet counts as queued. -/
def dispatchState
    (database : Database)
    (key : Nat) : ExternalDispatchState :=
  ((database.dispatches.get key).map ExternalDispatch.state).getD .queued

/-- Moves between dispatch states that record no observed outcome. -/
inductive SilentMove : ExternalDispatchState → ExternalDispatchState → Prop where
  | stay (state : ExternalDispatchState) : SilentMove state state
  | leave
      {before after : ExternalDispatchState}
      (pending : before.pending = true)
      (notSent : after ≠ .sent) : SilentMove before after
  | giveUp : SilentMove .sending .unknown

theorem SilentMove.trans
    {first second third : ExternalDispatchState}
    (left : SilentMove first second)
    (right : SilentMove second third) :
    SilentMove first third := by
  cases left with
  | stay => exact right
  | leave pending notSent =>
      cases right with
      | stay => exact .leave pending notSent
      | leave _ stillNotSent => exact .leave pending stillNotSent
      | giveUp => exact .leave pending nofun
  | giveUp =>
      cases right with
      | stay => exact .giveUp
      | leave pending => cases pending

/-- Every dispatch moves silently. -/
def SilentChange (before after : Database) : Prop :=
  ∀ key, SilentMove (dispatchState before key) (dispatchState after key)

theorem SilentChange.refl (database : Database) : SilentChange database database :=
  fun _ => .stay _

theorem SilentChange.of_same
    {before after : Database}
    (same : after.dispatches = before.dispatches) :
    SilentChange before after := by
  intro key
  unfold dispatchState
  rw [same]
  exact .stay _

theorem SilentChange.trans
    {first second third : Database}
    (left : SilentChange first second)
    (right : SilentChange second third) :
    SilentChange first third :=
  fun key => (left key).trans (right key)

theorem dispatchState_of_get
    {database : Database}
    {key : Nat}
    {row : ExternalDispatch}
    (found : database.dispatches.get key = some row) :
    dispatchState database key = row.state := by
  simp [dispatchState, found]

/-! ## Guarded updates -/

theorem updateDispatchWhere_eq_some
    {database updated : Database}
    {key : Nat}
    {condition : ExternalDispatch → Bool}
    {change : ExternalDispatch → ExternalDispatch}
    (applied : database.updateDispatchWhere key condition change = some updated) :
    ∃ row, database.dispatches.get key = some row ∧ condition row = true ∧
      updated = database.modifyDispatch key change := by
  unfold Database.updateDispatchWhere at applied
  obtain ⟨dispatches, guarded, rfl⟩ := Option.map_eq_some_iff.mp applied
  obtain ⟨⟨row, found, holds⟩, rfl⟩ := Table.updateWhere_eq_some guarded
  exact ⟨row, found, holds, rfl⟩

/-- A rewrite of one dispatch, seen on the states of all of them. -/
theorem dispatchState_modifyDispatch
    {database : Database}
    {key : Nat}
    {row : ExternalDispatch}
    {change : ExternalDispatch → ExternalDispatch}
    (found : database.dispatches.get key = some row)
    (other : Nat) :
    dispatchState (database.modifyDispatch key change) other =
      if other = key then (change row).state else dispatchState database other := by
  unfold dispatchState Database.modifyDispatch
  rw [Table.get_modify]
  split
  · next here => subst here; simp [found]
  · rfl

theorem SilentChange.modifyDispatch
    {database : Database}
    {key : Nat}
    {row : ExternalDispatch}
    {change : ExternalDispatch → ExternalDispatch}
    (found : database.dispatches.get key = some row)
    (move : SilentMove row.state (change row).state) :
    SilentChange database (database.modifyDispatch key change) := by
  intro other
  rw [dispatchState_modifyDispatch found]
  split
  · next here =>
      subst here
      rw [dispatchState_of_get found]
      exact move
  · exact .stay _

theorem extends_modifyDispatch
    {database : Database}
    {key : Nat}
    {row : ExternalDispatch}
    {change : ExternalDispatch → ExternalDispatch}
    (found : database.dispatches.get key = some row)
    (kept : ExternalDispatch.Keeps row (change row)) :
    database.Extends (database.modifyDispatch key change) :=
  { Database.Extends.refl database with
    dispatches := .modify ExternalDispatch.Keeps.refl fun other foundOther => by
      obtain rfl : other = row := Option.some.inj (foundOther.symm.trans found)
      exact kept }

theorem extends_modifyMessage
    {database : Database}
    {key : Nat}
    {change : Message → Message}
    (kept : ∀ message, database.messages.get key = some message →
      Message.Keeps message (change message)) :
    database.Extends (database.modifyMessage key change) :=
  { Database.Extends.refl database with
    messages := .modify Message.Keeps.refl kept }

/-! ## Recording an outcome -/

theorem sameOperation_finishedRow
    (now : Instant)
    (outcome : SendOutcome)
    (error : Option String)
    (row : ExternalDispatch) :
    SameOperation row (finishedRow now outcome error row) :=
  ⟨rfl, rfl, rfl, rfl, rfl, rfl, rfl, rfl⟩

theorem keeps_finishedMessage
    (outcome : SendOutcome)
    (error : Option String)
    (message : Message) :
    Message.Keeps message (finishedMessage outcome error message) :=
  ⟨rfl, rfl, rfl, fun _ => rfl⟩

/-- A finished dispatch agrees with its finished message. -/
theorem agrees_finished
    {now : Instant}
    {row : ExternalDispatch}
    {message : Message}
    (header : message.messageIdHeader ≠ none)
    (outcome : SendOutcome)
    (error : Option String) :
    Agrees (finishedRow now outcome error row)
      (some (finishedMessage outcome error message)) := by
  cases outcome <;>
    constructor <;>
    simp_all [finishedRow, finishedMessage, outcomeState, outcomeStatus]

/-- A refused dispatch agrees with its message, which has no Message-ID yet. -/
theorem agrees_refused
    {now : Instant}
    {row : ExternalDispatch}
    {message : Message}
    (error : Option String) :
    Agrees (finishedRow now .failed error row)
      (some (finishedMessage .failed error message)) := by
  constructor <;> simp [finishedRow, finishedMessage, outcomeState, outcomeStatus]

theorem modifyLinkedMessage_eq
    {database : Database}
    {key message : Nat}
    {row : ExternalDispatch}
    {change : ExternalDispatch → ExternalDispatch}
    {changeMessage : Message → Message}
    (found : database.dispatches.get key = some row)
    (attached : (change row).messageId = some message) :
    modifyLinkedMessage (database.modifyDispatch key change) key changeMessage =
      (database.modifyDispatch key change).modifyMessage message changeMessage := by
  unfold modifyLinkedMessage
  have current : ((database.modifyDispatch key change).dispatches.get key).bind
      ExternalDispatch.messageId = some message := by
    simp [Database.modifyDispatch, found, attached]
  rw [current]

/-- Finishing a claimed dispatch: the fence held, and the dispatch and its
message were rewritten together. -/
theorem finishExternalDispatch_eq_some
    {now : Instant}
    {database updated : Database}
    {claim : ClaimedDispatch}
    {outcome : SendOutcome}
    {error : Option String}
    (consistent : Consistent database)
    (finished : finishExternalDispatch database now claim outcome error = some updated) :
    ∃ row message stored,
      database.dispatches.get claim.dispatchId = some row ∧
      sendFence claim row = true ∧ row.state = .sending ∧
      row.messageId = some message ∧
      database.messages.get message = some stored ∧
      stored.messageIdHeader ≠ none ∧
      updated = (database.modifyDispatch claim.dispatchId
        (finishedRow now outcome error)).modifyMessage message
          (finishedMessage outcome error) := by
  unfold finishExternalDispatch at finished
  obtain ⟨moved, guarded, rfl⟩ := Option.map_eq_some_iff.mp finished
  obtain ⟨row, found, fence, rfl⟩ := updateDispatchWhere_eq_some guarded
  have sending : row.state = .sending := by
    simp only [sendFence, Bool.and_eq_true, beq_iff_eq] at fence
    exact fence.1.1.2
  obtain ⟨stored, linked, -, header⟩ :=
    (consistent.agreement _ row found).sending sending
  obtain ⟨message, attached, foundMessage⟩ := Option.bind_eq_some_iff.mp linked
  exact ⟨row, message, stored, found, fence, sending, attached, foundMessage, header,
    modifyLinkedMessage_eq found attached⟩

/-- What a transaction of the pipeline guarantees about the whole database. -/
structure Advances (before after : Database) : Prop where
  consistent : Consistent after
  extended : before.Extends after
  inbox : before.InboxKept after

theorem Advances.refl
    {database : Database}
    (consistent : Consistent database) :
    Advances database database :=
  ⟨consistent, .refl database, .refl database⟩

theorem Advances.trans
    {first second third : Database}
    (left : Advances first second)
    (right : Advances second third) :
    Advances first third :=
  ⟨right.consistent, left.extended.trans right.extended,
    left.inbox.trans right.inbox⟩

theorem Advances.of_native
    {before after : Database}
    (consistent : Consistent before)
    (sound : after.Sound)
    (native : before.NativeExtends after)
    (inbox : before.InboxKept after) :
    Advances before after :=
  ⟨consistent.of_native sound native, native.toExtends, inbox⟩

/-- Finishing a dispatch and its message, from `SENDING` or from the queue. -/
theorem advances_finished
    {now : Instant}
    {database : Database}
    {key message : Nat}
    {row : ExternalDispatch}
    {stored : Message}
    {outcome : SendOutcome}
    {error : Option String}
    (consistent : Consistent database)
    (found : database.dispatches.get key = some row)
    (attached : row.messageId = some message)
    (foundMessage : database.messages.get message = some stored)
    (unfinished : row.state.terminal = false)
    (agrees : Agrees (finishedRow now outcome error row)
      (some (finishedMessage outcome error stored))) :
    Advances database
      ((database.modifyDispatch key (finishedRow now outcome error)).modifyMessage message
        (finishedMessage outcome error)) where
  consistent := by
    refine consistent.rewrite found attached foundMessage
      (sameOperation_finishedRow now outcome error row) rfl
      (keeps_finishedMessage outcome error stored) ?_ agrees
    exact (wellFormed_modifyDispatch consistent.toWellFormed found
      (sameOperation_finishedRow now outcome error row) rfl).modifyMessage
        (fun _ _ => ⟨rfl, rfl, rfl⟩) (fun _ _ => rfl)
  extended := by
    have dispatch : database.Extends
        (database.modifyDispatch key (finishedRow now outcome error)) := by
      refine extends_modifyDispatch found
        ((sameOperation_finishedRow now outcome error row).keeps (fun _ => rfl) ?_ ?_)
      · intro
        cases outcome <;> rfl
      · intro terminal
        rw [unfinished] at terminal
        cases terminal
    exact dispatch.trans (extends_modifyMessage fun stored _ =>
      keeps_finishedMessage outcome error stored)
  inbox := by
    obtain ⟨same, foundSame, -, outbound, -⟩ :=
      (consistent.linked key row found).message message attached
    have dispatch : database.InboxKept
        (database.modifyDispatch key (finishedRow now outcome error)) := .of_same rfl rfl
    refine dispatch.trans
      (.modifyMessage (fun row _ => ⟨rfl, keeps_finishedMessage outcome error row⟩) ?_)
    intro other foundOther
    obtain rfl : other = same := Option.some.inj (foundOther.symm.trans foundSame)
    exact outbound

theorem finishExternalDispatch_advances
    {now : Instant}
    {database updated : Database}
    {claim : ClaimedDispatch}
    {outcome : SendOutcome}
    {error : Option String}
    (consistent : Consistent database)
    (finished : finishExternalDispatch database now claim outcome error = some updated) :
    Advances database updated := by
  obtain ⟨row, message, stored, found, -, sending, attached, foundMessage, header, rfl⟩ :=
    finishExternalDispatch_eq_some consistent finished
  exact advances_finished consistent found attached foundMessage
    (by rw [sending]; rfl) (agrees_finished header outcome error)

/-- Recording an outcome moves only the claimed dispatch, out of `SENDING`. -/
theorem finishExternalDispatch_state
    {now : Instant}
    {database updated : Database}
    {claim : ClaimedDispatch}
    {outcome : SendOutcome}
    {error : Option String}
    (consistent : Consistent database)
    (finished : finishExternalDispatch database now claim outcome error = some updated) :
    dispatchState database claim.dispatchId = .sending ∧
      ∀ key, dispatchState updated key =
        if key = claim.dispatchId then outcomeState outcome
        else dispatchState database key := by
  obtain ⟨row, message, stored, found, -, sending, -, -, -, rfl⟩ :=
    finishExternalDispatch_eq_some consistent finished
  refine ⟨by rw [dispatchState_of_get found, sending], ?_⟩
  intro key
  exact dispatchState_modifyDispatch found key

theorem finishExternalDispatch_silent
    {now : Instant}
    {database updated : Database}
    {claim : ClaimedDispatch}
    {error : Option String}
    (consistent : Consistent database)
    (finished : finishExternalDispatch database now claim .unknown error = some updated) :
    SilentChange database updated := by
  obtain ⟨sending, moved⟩ := finishExternalDispatch_state consistent finished
  intro key
  rw [moved key]
  split
  · next here =>
      rw [here, sending]
      exact .giveUp
  · exact .stay _

/-! ## Transaction B -/

/-- The columns written by the send claim. -/
def sendClaimedRow
    (claim : ClaimedDispatch)
    (row : ExternalDispatch) : ExternalDispatch :=
  { row with
    state := .sending
    claimedBy := some claim.workerId
    claimedAt := some claim.claimedAt
    updatedAt := claim.claimedAt }

theorem sameOperation_sendClaimedRow
    (claim : ClaimedDispatch)
    (row : ExternalDispatch) :
    SameOperation row (sendClaimedRow claim row) :=
  ⟨rfl, rfl, rfl, rfl, rfl, rfl, rfl, rfl⟩

theorem awaitingSend_iff (row : ExternalDispatch) :
    awaitingSend row = true ↔ row.state = .queued ∧ row.messageId ≠ none := by
  simp [awaitingSend, Option.isSome_iff_ne_none]

theorem guardedSendClaim_eq_some
    {database claimed : Database}
    {claim : ClaimedDispatch}
    (taken : guardedSendClaim database claim = some claimed) :
    ∃ row, database.dispatches.get claim.dispatchId = some row ∧
      row.state = .queued ∧ row.messageId ≠ none ∧
      claimed = database.modifyDispatch claim.dispatchId (sendClaimedRow claim) := by
  obtain ⟨row, found, awaiting, rfl⟩ := updateDispatchWhere_eq_some taken
  obtain ⟨queued, attached⟩ := (awaitingSend_iff row).mp awaiting
  exact ⟨row, found, queued, attached, rfl⟩

/-- Rewriting one row twice. -/
theorem modifyDispatch_twice
    (database : Database)
    (key : Nat)
    (first second : ExternalDispatch → ExternalDispatch) :
    (database.modifyDispatch key first).modifyDispatch key second =
      database.modifyDispatch key (second ∘ first) := by
  unfold Database.modifyDispatch
  congr 1
  apply Table.ext_get
  intro position
  simp only [Table.get_modify]
  split <;> simp

/-- The committed effect of Transaction B on a dispatch that is wired to the
message the gates read. -/
theorem commitPrepared_eq_some
    {database updated : Database}
    {claim : ClaimedDispatch}
    {ready : ReadySend}
    (prepared : commitPrepared database claim ready = some updated) :
    ∃ row, database.dispatches.get claim.dispatchId = some row ∧
      row.state = .queued ∧
      (database.modifyDispatch claim.dispatchId (sendClaimedRow claim)).updateMessage
        ready.messageKey (fun message =>
          { message with messageIdHeader := some ready.messageId, status := .sending }) =
        some updated := by
  unfold commitPrepared at prepared
  obtain ⟨claimed, taken, written⟩ := Option.bind_eq_some_iff.mp prepared
  obtain ⟨row, found, queued, -, rfl⟩ := guardedSendClaim_eq_some taken
  exact ⟨row, found, queued, written⟩

theorem commitPrepared_advances
    {database updated : Database}
    {claim : ClaimedDispatch}
    {ready : ReadySend}
    (consistent : Consistent database)
    (wired : ∀ row, database.dispatches.get claim.dispatchId = some row →
      row.messageId = some ready.messageKey)
    (prepared : commitPrepared database claim ready = some updated) :
    Advances database updated := by
  obtain ⟨row, found, queued, written⟩ := commitPrepared_eq_some prepared
  have attached := wired row found
  obtain ⟨stored, foundMessage, -, outbound, -⟩ :=
    (consistent.linked _ row found).message _ attached
  have wellFormed : updated.WellFormed := by
    refine (wellFormed_modifyDispatch consistent.toWellFormed found
      (sameOperation_sendClaimedRow claim row) rfl).updateMessage ?_ written
    exact fun _ _ => ⟨rfl, rfl, rfl⟩
  obtain ⟨rfl, -⟩ := Database.updateMessage_eq_some written
  have keeps : Message.Keeps stored
      { stored with messageIdHeader := some ready.messageId, status := .sending } := by
    refine ⟨rfl, rfl, rfl, fun inbound => ?_⟩
    rw [outbound] at inbound
    cases inbound
  constructor
  · refine consistent.rewrite found attached foundMessage
      (sameOperation_sendClaimedRow claim row) rfl keeps wellFormed ?_
    constructor <;> simp [sendClaimedRow]
  · have dispatch : database.Extends
        (database.modifyDispatch claim.dispatchId (sendClaimedRow claim)) := by
      refine extends_modifyDispatch found
        ((sameOperation_sendClaimedRow claim row).keeps (fun _ => rfl) ?_ ?_)
      · intro
        rfl
      · intro terminal
        rw [queued] at terminal
        cases terminal
    refine dispatch.trans (extends_modifyMessage ?_)
    intro message foundOther
    obtain rfl : message = stored :=
      Option.some.inj (foundOther.symm.trans foundMessage)
    exact keeps
  · have only : ∀ other, database.messages.get ready.messageKey = some other →
        other = stored :=
      fun other foundOther => Option.some.inj (foundOther.symm.trans foundMessage)
    have dispatch : database.InboxKept
        (database.modifyDispatch claim.dispatchId (sendClaimedRow claim)) := .of_same rfl rfl
    refine dispatch.trans (.modifyMessage ?_ ?_)
    · intro other foundOther
      rw [only other foundOther]
      exact ⟨rfl, keeps⟩
    · intro other foundOther
      rw [only other foundOther]
      exact outbound

/-- A committed Transaction B moves only its dispatch, from the queue to
`SENDING` under its claim. -/
theorem commitPrepared_state
    {database updated : Database}
    {claim : ClaimedDispatch}
    {ready : ReadySend}
    (prepared : commitPrepared database claim ready = some updated) :
    dispatchState database claim.dispatchId = .queued ∧
      ∀ key, dispatchState updated key =
        if key = claim.dispatchId then .sending else dispatchState database key := by
  obtain ⟨row, found, queued, written⟩ := commitPrepared_eq_some prepared
  refine ⟨by rw [dispatchState_of_get found, queued], ?_⟩
  intro key
  obtain ⟨rfl, -⟩ := Database.updateMessage_eq_some written
  exact dispatchState_modifyDispatch found key

theorem commitRefusal_eq_some
    {now : Instant}
    {database updated : Database}
    {claim : ClaimedDispatch}
    {reason : String}
    (consistent : Consistent database)
    (refused : commitRefusal database now claim reason = some updated) :
    ∃ row message stored,
      database.dispatches.get claim.dispatchId = some row ∧
      row.state = .queued ∧ row.messageId = some message ∧
      database.messages.get message = some stored ∧
      updated = (database.modifyDispatch claim.dispatchId
        (finishedRow now .failed (some reason))).modifyMessage message
          (finishedMessage .failed (some reason)) := by
  unfold commitRefusal at refused
  obtain ⟨claimed, taken, finished⟩ := Option.bind_eq_some_iff.mp refused
  obtain ⟨row, found, queued, present, rfl⟩ := guardedSendClaim_eq_some taken
  obtain ⟨message, attached⟩ := Option.ne_none_iff_exists'.mp present
  obtain ⟨stored, foundMessage, -⟩ :=
    (consistent.linked _ row found).message message attached
  refine ⟨row, message, stored, found, queued, attached, foundMessage, ?_⟩
  unfold finishExternalDispatch at finished
  obtain ⟨moved, guarded, rfl⟩ := Option.map_eq_some_iff.mp finished
  obtain ⟨-, -, -, rfl⟩ := updateDispatchWhere_eq_some guarded
  rw [modifyDispatch_twice, modifyLinkedMessage_eq found (by exact attached)]
  rfl

theorem commitRefusal_advances
    {now : Instant}
    {database updated : Database}
    {claim : ClaimedDispatch}
    {reason : String}
    (consistent : Consistent database)
    (refused : commitRefusal database now claim reason = some updated) :
    Advances database updated := by
  obtain ⟨row, message, stored, found, queued, attached, foundMessage, rfl⟩ :=
    commitRefusal_eq_some consistent refused
  exact advances_finished consistent found attached foundMessage
    (by rw [queued]; rfl) (agrees_refused (some reason))

theorem commitRefusal_silent
    {now : Instant}
    {database updated : Database}
    {claim : ClaimedDispatch}
    {reason : String}
    (consistent : Consistent database)
    (refused : commitRefusal database now claim reason = some updated) :
    SilentChange database updated := by
  obtain ⟨row, message, stored, found, queued, -, -, rfl⟩ :=
    commitRefusal_eq_some consistent refused
  have move : SilentMove row.state (finishedRow now .failed (some reason) row).state := by
    rw [queued]
    exact .leave rfl nofun
  exact (SilentChange.modifyDispatch found move).trans (.of_same rfl)

/-! ## Lease recovery and annotation -/

theorem sendLeaseExpired_state
    {cutoff : Instant}
    {row : ExternalDispatch}
    (expired : sendLeaseExpired cutoff row = true) :
    row.state = .sending := by
  simp only [sendLeaseExpired, Bool.and_eq_true, beq_iff_eq] at expired
  exact expired.1

theorem recoverExpiredSend_eq_some
    {now : Instant}
    {services : Services}
    {lease : Nat}
    {cutoff : Instant}
    {database updated : Database}
    {key : Nat}
    {recovered : RecoveredDispatch}
    (consistent : Consistent database)
    (swept : recoverExpiredSend services lease cutoff now database key =
      some (recovered, updated)) :
    ∃ row message stored error,
      database.dispatches.get key = some row ∧ row.state = .sending ∧
      row.messageId = some message ∧
      database.messages.get message = some stored ∧
      stored.messageIdHeader ≠ none ∧
      updated = (database.modifyDispatch key (finishedRow now .unknown error)).modifyMessage
        message (finishedMessage .unknown error) := by
  unfold recoverExpiredSend at swept
  obtain ⟨row, found, resolved⟩ := Option.bind_eq_some_iff.mp swept
  obtain ⟨moved, guarded, equal⟩ := Option.map_eq_some_iff.mp resolved
  obtain ⟨same, foundSame, expired, rfl⟩ := updateDispatchWhere_eq_some guarded
  obtain rfl : same = row := Option.some.inj (foundSame.symm.trans found)
  have sending := sendLeaseExpired_state expired
  obtain ⟨stored, linked, status, header⟩ :=
    (consistent.agreement _ same found).sending sending
  obtain ⟨message, attached, foundMessage⟩ := Option.bind_eq_some_iff.mp linked
  refine ⟨same, message, stored, some (leaseExpiredReason services lease same), found,
    sending, attached, foundMessage, header, ?_⟩
  obtain ⟨-, rfl⟩ := Prod.mk.inj equal
  rw [modifyLinkedMessage_eq found (by exact attached)]
  -- The message of a `SENDING` dispatch is `SENDING`, so the condition holds.
  unfold Database.modifyMessage
  congr 1
  apply Table.ext_get
  intro position
  rw [Table.get_modify, Table.get_modify]
  split
  · next here =>
      rw [here, show (database.modifyDispatch key _).messages = database.messages from rfl,
        foundMessage]
      simp [status]
  · rfl

theorem recoverExpiredSend_advances
    {now : Instant}
    {services : Services}
    {lease : Nat}
    {cutoff : Instant}
    {database updated : Database}
    {key : Nat}
    {recovered : RecoveredDispatch}
    (consistent : Consistent database)
    (swept : recoverExpiredSend services lease cutoff now database key =
      some (recovered, updated)) :
    Advances database updated ∧ SilentChange database updated := by
  obtain ⟨row, message, stored, error, found, sending, attached, foundMessage, header,
    rfl⟩ := recoverExpiredSend_eq_some consistent swept
  constructor
  · exact advances_finished consistent found attached foundMessage
      (by rw [sending]; rfl) (agrees_finished header .unknown error)
  · have move : SilentMove row.state (finishedRow now .unknown error row).state := by
      rw [sending]
      exact .giveUp
    exact (SilentChange.modifyDispatch found move).trans (.of_same rfl)

theorem recoverExpiredSends_advances
    {now : Instant}
    {services : Services}
    {lease : Nat}
    {cutoff : Instant}
    {database : Database}
    (keys : List Nat)
    (consistent : Consistent database) :
    Advances database (recoverExpiredSends services lease cutoff now database keys).2 ∧
      SilentChange database
        (recoverExpiredSends services lease cutoff now database keys).2 := by
  induction keys generalizing database with
  | nil => exact ⟨.refl consistent, .refl database⟩
  | cons key keys inductionHypothesis =>
      unfold recoverExpiredSends
      cases swept : recoverExpiredSend services lease cutoff now database key with
      | none => exact inductionHypothesis consistent
      | some result =>
          obtain ⟨recovered, updated⟩ := result
          obtain ⟨first, firstSilent⟩ := recoverExpiredSend_advances consistent swept
          obtain ⟨rest, restSilent⟩ := inductionHypothesis first.consistent
          exact ⟨first.trans rest, firstSilent.trans restSilent⟩

theorem annotateUnknownDispatch_advances
    {now : Instant}
    {database updated : Database}
    {dispatchId : Nat}
    {organizationId note : String}
    (consistent : Consistent database)
    (annotated : annotateUnknownDispatch database now dispatchId organizationId note =
      some updated) :
    Advances database updated ∧ SilentChange database updated := by
  obtain ⟨row, found, -, rfl⟩ := updateDispatchWhere_eq_some annotated
  have same : SameOperation row
      { row with
        errorMessage := some (row.errorMessage.getD "" ++ " | " ++ note)
        updatedAt := now } :=
    ⟨rfl, rfl, rfl, rfl, rfl, rfl, rfl, rfl⟩
  have agrees := consistent.agreement _ row found
  constructor
  · constructor
    · refine consistent.modifyDispatch found same rfl ?_
      exact ⟨agrees.claimed, agrees.unclaimed, agrees.queued, agrees.generating,
        agrees.sending, agrees.sent, agrees.unknown, agrees.failed⟩
    · exact extends_modifyDispatch found
        (same.keeps (fun _ => rfl) id (fun _ => rfl))
    · exact .of_same rfl rfl
  · exact SilentChange.modifyDispatch found (.stay _)

/-! ## Generation -/

theorem awaitingGeneration_iff (row : ExternalDispatch) :
    awaitingGeneration row = true ↔ row.state = .queued ∧ row.messageId = none := by
  simp [awaitingGeneration]

theorem generationFence_iff
    (claim : ClaimedDispatch)
    (row : ExternalDispatch) :
    generationFence claim row = true ↔
      row.organizationId = claim.organizationId ∧ row.state = .generating ∧
      row.claimedBy = some claim.workerId ∧ row.claimedAt = some claim.claimedAt ∧
      row.messageId = none := by
  simp [generationFence, and_assoc]

/-- A move of a dispatch that has no message: between the queue and generation,
or to `FAILED`. -/
theorem advances_unattached
    {database : Database}
    {key : Nat}
    {row : ExternalDispatch}
    {change : ExternalDispatch → ExternalDispatch}
    (consistent : Consistent database)
    (found : database.dispatches.get key = some row)
    (pending : row.state.pending = true)
    (unattached : row.messageId = none)
    (same : SameOperation row (change row))
    (messageId : (change row).messageId = none)
    (notSent : (change row).state ≠ .sent)
    (agrees : Agrees (change row) none) :
    Advances database (database.modifyDispatch key change) ∧
      SilentChange database (database.modifyDispatch key change) := by
  constructor
  · constructor
    · refine consistent.modifyDispatch found same (messageId.trans unattached.symm) ?_
      unfold linkedMessage
      rw [unattached]
      exact agrees
    · refine extends_modifyDispatch found (same.keeps ?_ ?_ ?_)
      · intro attached
        exact absurd unattached attached
      · intro departed
        rw [pending] at departed
        cases departed
      · intro terminal
        cases state : row.state <;>
          simp_all [ExternalDispatchState.pending, ExternalDispatchState.terminal]
    · exact .of_same rfl rfl
  · exact SilentChange.modifyDispatch found (.leave pending notSent)

/-- The columns written by the generation claim. -/
def generationClaimedRow
    (claim : ClaimedDispatch)
    (row : ExternalDispatch) :
    ExternalDispatch :=
  { row with
    state := .generating
    claimedBy := some claim.workerId
    claimedAt := some claim.claimedAt
    updatedAt := claim.claimedAt }

/-- The columns written when generation fails. -/
def generationFailedRow
    (now : Instant)
    (error : String)
    (row : ExternalDispatch) : ExternalDispatch :=
  { row with
    state := .failed
    claimedBy := none
    claimedAt := none
    errorMessage := some error
    updatedAt := now }

/-- What G1 leaves: a refused dispatch, or one in generation under the claim. -/
theorem transactionG1_eq_some
    {database updated : Database}
    {claim : ClaimedDispatch}
    {result : Except String PreparedGeneration}
    (claimed : transactionG1 database claim = some (updated, result)) :
    ∃ row, database.dispatches.get claim.dispatchId = some row ∧
      row.state = .queued ∧ row.messageId = none ∧
      match result with
      | .ok prepared =>
          prepareGeneration database claim row = .ok prepared ∧
          updated = database.modifyDispatch claim.dispatchId (generationClaimedRow claim)
      | .error reason =>
          updated = database.modifyDispatch claim.dispatchId
            (generationFailedRow claim.claimedAt reason ∘ generationClaimedRow claim) := by
  unfold transactionG1 at claimed
  obtain ⟨moved, taken, rest⟩ := Option.bind_eq_some_iff.mp claimed
  obtain ⟨row, found, awaiting, rfl⟩ := updateDispatchWhere_eq_some taken
  obtain ⟨same, foundSame, decided⟩ := Option.bind_eq_some_iff.mp rest
  obtain rfl : same = row := Option.some.inj (foundSame.symm.trans found)
  obtain ⟨queued, unattached⟩ := (awaitingGeneration_iff same).mp awaiting
  refine ⟨same, found, queued, unattached, ?_⟩
  split at decided
  · next prepared preparation =>
      obtain ⟨rfl, rfl⟩ := Prod.mk.inj (Option.some.inj decided)
      exact ⟨preparation, rfl⟩
  · next reason preparation =>
      obtain ⟨failed, failure, equal⟩ := Option.map_eq_some_iff.mp decided
      obtain ⟨rfl, rfl⟩ := Prod.mk.inj equal
      obtain ⟨-, -, -, rfl⟩ := updateDispatchWhere_eq_some failure
      exact modifyDispatch_twice _ _ _ _

theorem transactionG1_advances
    {database updated : Database}
    {claim : ClaimedDispatch}
    {result : Except String PreparedGeneration}
    (consistent : Consistent database)
    (claimed : transactionG1 database claim = some (updated, result)) :
    Advances database updated ∧ SilentChange database updated := by
  obtain ⟨row, found, queued, unattached, effect⟩ := transactionG1_eq_some claimed
  have pending : row.state.pending = true := by rw [queued]; rfl
  cases result with
  | ok prepared =>
      obtain ⟨-, rfl⟩ := effect
      refine advances_unattached consistent found pending unattached
        ⟨rfl, rfl, rfl, rfl, rfl, rfl, rfl, rfl⟩ unattached nofun ?_
      constructor <;> simp [generationClaimedRow, unattached]
  | error reason =>
      simp only at effect
      subst effect
      refine advances_unattached consistent found pending unattached
        ⟨rfl, rfl, rfl, rfl, rfl, rfl, rfl, rfl⟩ unattached nofun ?_
      constructor <;> simp [generationFailedRow]

/-- What a successful G2 leaves under the fence: a failed dispatch, or the
generated message attached to a queued one. -/
theorem transactionG2_eq_written
    {database updated : Database}
    {prepared : PreparedGeneration}
    {result : Except String Draft}
    {createdAt : Instant}
    {replyReference : String}
    (written : transactionG2 database prepared result createdAt replyReference =
      .written updated) :
    ∃ row, database.dispatches.get prepared.claim.dispatchId = some row ∧
      generationFence prepared.claim row = true ∧
      match result with
      | .error failure =>
          updated = database.modifyDispatch prepared.claim.dispatchId
            (generationFailedRow createdAt failure)
      | .ok draft =>
          ∃ inserted,
            database.insertMessage
              (generatedMessage prepared draft createdAt replyReference) =
                some inserted ∧
            updated = inserted.modifyDispatch prepared.claim.dispatchId fun row =>
              { row with
                state := .queued
                messageId := some database.messages.size
                claimedBy := none
                claimedAt := none
                updatedAt := createdAt } := by
  unfold transactionG2 at written
  cases result with
  | error failure =>
      simp only at written
      split at written
      · cases written
      · next moved failed =>
          obtain ⟨row, found, fence, rfl⟩ := updateDispatchWhere_eq_some failed
          cases written
          exact ⟨row, found, fence, rfl⟩
  | ok draft =>
      simp only at written
      split at written
      · cases written
      · next inserted insertion =>
          split at written
          · cases written
          · next moved completed =>
              obtain ⟨row, found, fence, rfl⟩ := updateDispatchWhere_eq_some completed
              cases written
              obtain ⟨-, same⟩ := Database.insertMessage_eq_some insertion
              rw [same] at found
              exact ⟨row, found, fence, inserted, insertion, rfl⟩

theorem generatedMessage_wiring
    (prepared : PreparedGeneration)
    (draft : Draft)
    (createdAt : Instant)
    (replyReference : String) :
    (generatedMessage prepared draft createdAt replyReference).contactId =
        prepared.contactId ∧
      (generatedMessage prepared draft createdAt replyReference).direction = .outbound ∧
      (generatedMessage prepared draft createdAt replyReference).mailboxId = none ∧
      (generatedMessage prepared draft createdAt replyReference).status = .draft ∧
      (generatedMessage prepared draft createdAt replyReference).semanticAnalysis =
        none := by
  unfold generatedMessage
  cases prepared.replyParent <;> exact ⟨rfl, rfl, rfl, rfl, rfl⟩

theorem transactionG2_advances
    {database updated : Database}
    {prepared : PreparedGeneration}
    {result : Except String Draft}
    {createdAt : Instant}
    {replyReference : String}
    (consistent : Consistent database)
    (contact : ∀ row, database.dispatches.get prepared.claim.dispatchId = some row →
      prepared.contactId = row.contactId)
    (written : transactionG2 database prepared result createdAt replyReference =
      .written updated) :
    Advances database updated ∧ SilentChange database updated := by
  obtain ⟨row, found, fence, effect⟩ := transactionG2_eq_written written
  obtain ⟨-, generating, -, -, unattached⟩ := (generationFence_iff _ row).mp fence
  have pending : row.state.pending = true := by rw [generating]; rfl
  cases result with
  | error failure =>
      simp only at effect
      subst effect
      refine advances_unattached consistent found pending unattached
        ⟨rfl, rfl, rfl, rfl, rfl, rfl, rfl, rfl⟩ unattached nofun ?_
      constructor <;> simp [generationFailedRow]
  | ok draft =>
      obtain ⟨inserted, insertion, rfl⟩ := effect
      obtain ⟨wired, outbound, noMailbox, isDraft, plain⟩ :=
        generatedMessage_wiring prepared draft createdAt replyReference
      have foundInserted : inserted.dispatches.get prepared.claim.dispatchId = some row := by
        obtain ⟨-, rfl⟩ := Database.insertMessage_eq_some insertion
        exact found
      have sameRow : SameOperation row
          { row with
            state := .queued
            messageId := some database.messages.size
            claimedBy := none
            claimedAt := none
            updatedAt := createdAt } := ⟨rfl, rfl, rfl, rfl, rfl, rfl, rfl, rfl⟩
      refine ⟨⟨?_, ?_, ?_⟩, ?_⟩
      · refine consistent.attach insertion found sameRow rfl
          (wired.trans (contact row found)) outbound noMailbox ?_
        constructor <;> simp [isDraft]
      · refine (Database.NativeExtends.insertMessage insertion).toExtends.trans
          (extends_modifyDispatch foundInserted (sameRow.keeps ?_ ?_ ?_))
        · intro attached
          exact absurd unattached attached
        · intro departed
          rw [pending] at departed
          cases departed
        · intro terminal
          rw [generating] at terminal
          cases terminal
      · exact (Database.InboxKept.insertMessage plain outbound noMailbox insertion).trans
          (.of_same rfl rfl)
      · have inserting : SilentChange database inserted := by
          obtain ⟨-, rfl⟩ := Database.insertMessage_eq_some insertion
          exact .of_same rfl
        exact inserting.trans
          (SilentChange.modifyDispatch foundInserted (.leave pending nofun))

theorem recoverExpiredGeneration_eq_some
    {now : Instant}
    {cutoff : Instant}
    {database updated : Database}
    {key : Nat}
    (swept : recoverExpiredGeneration cutoff now database key = some updated) :
    ∃ row, database.dispatches.get key = some row ∧
      row.state = .generating ∧ row.messageId = none ∧
      (∀ claimedAt, row.claimedAt = some claimedAt → claimedAt < cutoff) ∧
      updated = database.modifyDispatch key fun row =>
        { row with
          state := .queued, claimedBy := none, claimedAt := none, updatedAt := now } := by
  obtain ⟨row, found, expired, rfl⟩ := updateDispatchWhere_eq_some swept
  simp only [generationLeaseExpired, Bool.and_eq_true, beq_iff_eq,
    Option.isNone_iff_eq_none, Option.all_eq_true, decide_eq_true_eq] at expired
  exact ⟨row, found, expired.1.1, expired.1.2, expired.2, rfl⟩

theorem recoverExpiredGeneration_advances
    {now : Instant}
    {cutoff : Instant}
    {database updated : Database}
    {key : Nat}
    (consistent : Consistent database)
    (swept : recoverExpiredGeneration cutoff now database key = some updated) :
    Advances database updated ∧ SilentChange database updated := by
  obtain ⟨row, found, generating, unattached, -, rfl⟩ :=
    recoverExpiredGeneration_eq_some swept
  refine advances_unattached consistent found (by rw [generating]; rfl) unattached
    ⟨rfl, rfl, rfl, rfl, rfl, rfl, rfl, rfl⟩ unattached nofun ?_
  constructor <;> simp

theorem recoverExpiredGenerationRows_advances
    {now : Instant}
    {cutoff : Instant}
    {database : Database}
    (keys : List Nat)
    (consistent : Consistent database) :
    Advances database (recoverExpiredGenerationRows cutoff now database keys).2 ∧
      SilentChange database (recoverExpiredGenerationRows cutoff now database keys).2 := by
  induction keys generalizing database with
  | nil => exact ⟨.refl consistent, .refl database⟩
  | cons key keys inductionHypothesis =>
      unfold recoverExpiredGenerationRows
      cases swept : recoverExpiredGeneration cutoff now database key with
      | none => exact inductionHypothesis consistent
      | some updated =>
          obtain ⟨first, firstSilent⟩ := recoverExpiredGeneration_advances consistent swept
          obtain ⟨rest, restSilent⟩ := inductionHypothesis first.consistent
          exact ⟨first.trans rest, firstSilent.trans restSilent⟩

end Dispatch
end MailerAgent
