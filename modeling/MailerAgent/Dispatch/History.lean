import MailerAgent.Dispatch.Steps
import MailerAgent.Dispatch.Writes

/-!
# Dispatches and the calls made for them

The state of a dispatch together with the calls of the sender that were made for
it. `HistoryMove` is everything one step of the program may do to the pair, and
`Truthful` is what such moves keep. A thread that has committed Transaction B
knows that nothing was called for its dispatch yet; one that has called knows the
only call.
-/

namespace MailerAgent
namespace Dispatch

open Concurrent Relational Mail

/-- The calls made for a dispatch. -/
def callsFor
    (calls : List SendCall)
    (key : Nat) : List SendCall :=
  calls.filter (SendCall.isFor key)

theorem callsFor_append
    (first second : List SendCall)
    (key : Nat) :
    callsFor (first ++ second) key = callsFor first key ++ callsFor second key :=
  List.filter_append ..

/-- Whether a call was made cannot be told from the state. -/
def Uncertain (state : ExternalDispatchState) : Prop :=
  state = .sending ∨ state = .unknown

/-- One step, seen on the state of one dispatch and the calls made for it. -/
inductive HistoryMove :
    ExternalDispatchState → List SendCall →
    ExternalDispatchState → List SendCall → Prop where
  | silent
      {before after : ExternalDispatchState}
      {calls : List SendCall}
      (move : SilentMove before after) : HistoryMove before calls after calls
  | called
      {state : ExternalDispatchState}
      (call : SendCall)
      (uncertain : Uncertain state) : HistoryMove state [] state [call]
  | recorded (call : SendCall) :
      HistoryMove .sending [call] (outcomeState (observedOutcome call.report)) [call]

/-- The recorded state is true to the calls that were made. -/
def Truthful : ExternalDispatchState → List SendCall → Prop
  | .queued, calls => calls = []
  | .generating, calls => calls = []
  | .sending, calls => calls.length ≤ 1
  | .unknown, calls => calls.length ≤ 1
  | .sent, calls => ∃ call result, calls = [call] ∧ call.report = .returned result ∧
      result.outcome = .sent
  | .failed, calls => calls = [] ∨
      ∃ call result, calls = [call] ∧ call.report = .returned result ∧
        result.outcome = .failed

theorem Truthful.length_le
    {state : ExternalDispatchState}
    {calls : List SendCall}
    (truthful : Truthful state calls) :
    calls.length ≤ 1 := by
  cases state with
  | queued | generating =>
      rw [show calls = [] from truthful]
      exact Nat.zero_le 1
  | sending | unknown => exact truthful
  | sent =>
      obtain ⟨call, result, rfl, -⟩ := truthful
      exact Nat.le_refl 1
  | failed =>
      rcases truthful with rfl | ⟨call, result, rfl, -⟩
      · exact Nat.zero_le 1
      · exact Nat.le_refl 1

theorem Truthful.of_nil
    {state : ExternalDispatchState}
    (notSent : state ≠ .sent) :
    Truthful state [] := by
  cases state with
  | sent => exact absurd rfl notSent
  | failed => exact .inl rfl
  | queued | generating => rfl
  | sending | unknown => exact Nat.zero_le 1

theorem truthful_recorded (call : SendCall) :
    Truthful (outcomeState (observedOutcome call.report)) [call] := by
  cases reported : call.report with
  | raised text => exact Nat.le_refl 1
  | returned result =>
      simp only [observedOutcome]
      cases outcome : result.outcome with
      | sent => exact ⟨call, result, rfl, reported, outcome⟩
      | failed => exact .inr ⟨call, result, rfl, reported, outcome⟩
      | unknown => exact Nat.le_refl 1

theorem Truthful.move
    {before after : ExternalDispatchState}
    {calls next : List SendCall}
    (truthful : Truthful before calls)
    (moved : HistoryMove before calls after next) :
    Truthful after next := by
  cases moved with
  | silent move =>
      cases move with
      | stay => exact truthful
      | leave pending notSent =>
          have uncalled : calls = [] := by
            cases before <;> first | exact truthful | cases pending
          rw [uncalled]
          exact .of_nil notSent
      | giveUp => exact truthful
  | called call uncertain =>
      rcases uncertain with rfl | rfl
      · exact Nat.le_refl 1
      · exact Nat.le_refl 1
  | recorded call => exact truthful_recorded call

/-- One step, seen on all dispatches. -/
def Moves
    (before : Database)
    (calls : List SendCall)
    (after : Database)
    (next : List SendCall) : Prop :=
  ∀ key, HistoryMove (dispatchState before key) (callsFor calls key)
    (dispatchState after key) (callsFor next key)

theorem Moves.of_silent
    {before after : Database}
    {calls : List SendCall}
    (silent : SilentChange before after) :
    Moves before calls after calls :=
  fun key => .silent (silent key)

/-- A step that calls the sender for no dispatch. -/
theorem Moves.of_native
    {before after : Database}
    {calls more : List SendCall}
    (silent : SilentChange before after)
    (unrelated : ∀ key, callsFor more key = []) :
    Moves before calls after (calls ++ more) := by
  intro key
  rw [callsFor_append, unrelated key, List.append_nil]
  exact .silent (silent key)

/-! ## What a dispatch thread knows -/

/-- The message and the contact that Transaction B read are those of the row. -/
def Wired
    (database : Database)
    (claim : ClaimedDispatch)
    (ready : ReadySend) : Prop :=
  ∃ row, database.dispatches.get claim.dispatchId = some row ∧
    row.messageId = some ready.messageKey ∧ row.contactId = ready.contactId

theorem Wired.of_extends
    {before after : Database}
    {claim : ClaimedDispatch}
    {ready : ReadySend}
    (wired : Wired before claim ready)
    (extended : before.Extends after) :
    Wired after claim ready := by
  obtain ⟨row, found, attached, contact⟩ := wired
  obtain ⟨kept, foundKept, keeps⟩ := extended.dispatches _ row found
  refine ⟨kept, foundKept, ?_, keeps.contactId.trans contact⟩
  rw [keeps.messageId (by rw [attached]; nofun), attached]

/-- What is true of the database and the calls in each phase. -/
def DispatchPhase.Holds
    (database : Database)
    (calls : List SendCall) :
    DispatchPhase → Prop
  | .decided _ claim (.ok ready) => Wired database claim ready
  | .prepared _ claim ready => Wired database claim ready ∧
      Uncertain (dispatchState database claim.dispatchId) ∧
      callsFor calls claim.dispatchId = []
  | .reporting claim _ report _ =>
      ∃ call, callsFor calls claim.dispatchId = [call] ∧ call.report = report
  | _ => True

/-- The dispatch for which a thread is about to call the sender. -/
def DispatchPhase.prepares : DispatchPhase → Option Nat
  | .prepared _ claim _ => some claim.dispatchId
  | _ => none

/-- The claim that a thread put on its dispatch with Transaction B. -/
def DispatchPhase.sendClaim : DispatchPhase → Option ClaimedDispatch
  | .prepared _ claim _ => some claim
  | .reporting claim _ _ _ => some claim
  | .annotating claim _ _ => some claim
  | _ => none

/-- A move without a new call leaves a dispatch uncertain whose call is due. -/
theorem HistoryMove.uncertain
    {before after : ExternalDispatchState}
    {calls next : List SendCall}
    (moved : HistoryMove before calls after next)
    (uncertain : Uncertain before)
    (uncalled : calls = [])
    (unchanged : next = calls) :
    Uncertain after := by
  cases moved with
  | silent move =>
      cases move with
      | stay => exact uncertain
      | leave pending =>
          rcases uncertain with rfl | rfl
          · cases pending
          · cases pending
      | giveUp => exact .inr rfl
  | called call _ => exact absurd unchanged (List.cons_ne_nil _ _)
  | recorded call => exact absurd uncalled (List.cons_ne_nil _ _)

/-- The only call stays the only one. -/
theorem HistoryMove.only_call
    {before after : ExternalDispatchState}
    {calls next : List SendCall}
    {call : SendCall}
    (moved : HistoryMove before calls after next)
    (only : calls = [call]) :
    next = [call] := by
  cases moved with
  | silent => exact only
  | called other _ => exact absurd only.symm (List.cons_ne_nil _ _)
  | recorded other => exact only

/-- The steps of other threads keep what a thread knows, unless they call the
sender for the dispatch for which it is about to. -/
theorem DispatchPhase.Holds.stable
    {before after : Database}
    {calls next : List SendCall}
    {phase : DispatchPhase}
    (holds : phase.Holds before calls)
    (extended : before.Extends after)
    (moved : Moves before calls after next)
    (uncalled : ∀ key, phase.prepares = some key → callsFor next key = callsFor calls key) :
    phase.Holds after next := by
  cases phase with
  | decided began claim decision =>
      cases decision with
      | error reason => trivial
      | ok ready => exact Wired.of_extends holds extended
  | prepared began claim ready =>
      obtain ⟨wired, uncertain, unmade⟩ := holds
      have unchanged := uncalled claim.dispatchId rfl
      exact ⟨wired.of_extends extended,
        (moved claim.dispatchId).uncertain uncertain unmade unchanged, unchanged.trans unmade⟩
  | reporting claim ready report remaining =>
      obtain ⟨call, only, reported⟩ := holds
      exact ⟨call, (moved claim.dispatchId).only_call only, reported⟩
  | idle | attempting | claimed | registered | annotating | closing | abandoning => trivial

/-! ## The gates -/

theorem bind_eq_ok
    {Error Value Result : Type}
    {first : Except Error Value}
    {rest : Value → Except Error Result}
    {result : Result}
    (ended : (first >>= rest) = .ok result) :
    ∃ value, first = .ok value ∧ rest value = .ok result := by
  cases first with
  | error failure => cases ended
  | ok value => exact ⟨value, rfl, ended⟩

theorem raiseWhen_eq_ok
    {condition : Bool}
    {exit : GateExit}
    {value : Unit}
    (passed : raiseWhen condition exit = .ok value) :
    condition = false := by
  unfold raiseWhen at passed
  cases condition with
  | true => cases passed
  | false => rfl

theorem loadTenantScoped_eq_ok
    {database : Database}
    {row : ExternalDispatch}
    {loaded : LoadedDispatch}
    (passed : loadTenantScoped database row = .ok loaded) :
    row.messageId = some loaded.messageKey ∧
      database.messages.get loaded.messageKey = some loaded.message ∧
      database.contacts.get row.contactId = some loaded.contact := by
  unfold loadTenantScoped at passed
  split at passed
  · cases passed
  split at passed
  · cases passed
  split at passed
  · cases passed
  next contact foundContact =>
  split at passed
  · cases passed
  split at passed
  · cases passed
  next key message read =>
  split at passed
  · cases passed
  obtain ⟨attached, here, found⟩ := Option.bind_eq_some_iff.mp read
  obtain ⟨stored, foundStored, equal⟩ := Option.map_eq_some_iff.mp found
  obtain ⟨rfl, rfl⟩ := Prod.mk.inj equal
  obtain rfl := Except.ok.inj passed
  exact ⟨here, foundStored, foundContact⟩

theorem wired_eq_ok
    {Value : Type}
    {result : Except String Value}
    {value : Value}
    (passed : wired result = .ok value) :
    result = .ok value := by
  cases result with
  | ok stored => cases passed; rfl
  | error text => cases passed

theorem assertWired_draft
    {messageKey : Nat}
    {message : Message}
    {contactKey : Nat}
    {contact : Contact}
    {campaignKey : Nat}
    {value : Unit}
    (passed : assertWired messageKey message contactKey contact campaignKey = .ok value) :
    message.status = .draft := by
  unfold assertWired at passed
  split at passed
  · cases passed
  split at passed
  · cases passed
  next isDraft => exact Decidable.not_not.mp isDraft

/-- What passing all gates means: the message of the row is a draft, and no
organization has suppressed the address of its contact. -/
theorem evaluateGates_eq_ok
    {settings : Settings}
    {services : Services}
    {makeMsgid : String → String}
    {stopping : Bool}
    {database : Database}
    {row : ExternalDispatch}
    {ready : ReadySend}
    (passed : evaluateGates settings services makeMsgid stopping database row = .ok ready) :
    row.messageId = some ready.messageKey ∧ row.contactId = ready.contactId ∧
      (∃ message, database.messages.get ready.messageKey = some message ∧
        message.status = .draft) ∧
      ∃ contact, database.contacts.get ready.contactId = some contact ∧
        database.isEmailSuppressed contact.email none = false := by
  unfold evaluateGates at passed
  obtain ⟨loaded, scopedOk, passed⟩ := bind_eq_ok passed
  obtain ⟨input, wiredOk, passed⟩ := bind_eq_ok passed
  obtain ⟨mailbox, -, passed⟩ := bind_eq_ok passed
  obtain ⟨_, unsuppressed, passed⟩ := bind_eq_ok passed
  obtain ⟨grounding, -, passed⟩ := bind_eq_ok passed
  obtain ⟨_, -, passed⟩ := bind_eq_ok passed
  obtain ⟨_, -, passed⟩ := bind_eq_ok passed
  obtain ⟨smtpConfig, -, passed⟩ := bind_eq_ok passed
  obtain ⟨_, -, passed⟩ := bind_eq_ok passed
  obtain rfl := Except.ok.inj passed
  obtain ⟨attached, foundMessage, foundContact⟩ := loadTenantScoped_eq_ok scopedOk
  have built := wired_eq_ok wiredOk
  unfold buildExactSendInput at built
  cases checked : assertWired loaded.messageKey loaded.message row.contactId loaded.contact
      row.campaignId with
  | error text =>
      rw [checked] at built
      cases built
  | ok _ =>
      exact ⟨attached, rfl, ⟨loaded.message, foundMessage, assertWired_draft checked⟩,
        loaded.contact, foundContact, raiseWhen_eq_ok unsuppressed⟩

/-! ## Steps of a dispatch thread -/

/-- What a step of a dispatch thread guarantees. -/
structure DispatchStepOutcome
    (before : Database)
    (calls : List SendCall)
    (phase : DispatchPhase)
    (move : DispatchMove) : Prop where
  advances : Advances before move.database
  moves : Moves before calls move.database (calls ++ move.calls)
  holds : move.phase.Holds move.database (calls ++ move.calls)
  prepares : ∀ key, move.phase.prepares = some key → dispatchState before key = .queued
  calls : ∀ call ∈ move.calls, ∃ began claim ready,
    phase = .prepared began claim ready ∧ call.origin = .dispatch claim.dispatchId ∧
      call.contactId = ready.contactId ∧ call.began = began

variable {deployment : Deployment} {database : Database} {clock : Instant}
variable {position : Nat} {runtime : DispatchRuntime} {calls : List SendCall}
variable {phase : DispatchPhase} {choice : DispatchChoice} {move : DispatchMove}

/-- A step that writes nothing and does not lead to a call. -/
theorem DispatchStepOutcome.read_only
    {next : DispatchPhase}
    (consistent : Consistent database)
    (holds : next.Holds database calls)
    (unprepared : next.prepares = none) :
    DispatchStepOutcome database calls phase { database, runtime, phase := next } where
  advances := .refl consistent
  moves := by
    rw [List.append_nil]
    exact .of_silent (.refl database)
  holds := by
    rw [List.append_nil]
    exact holds
  prepares key prepared := by
    rw [unprepared] at prepared
    cases prepared
  calls _ member := by cases member

/-- A step that commits a silent change and does not lead to a call. -/
theorem DispatchStepOutcome.silent
    {updated : Database}
    {next : DispatchPhase}
    (advances : Advances database updated)
    (silent : SilentChange database updated)
    (holds : next.Holds updated calls)
    (unprepared : next.prepares = none) :
    DispatchStepOutcome database calls phase
      { database := updated, runtime, phase := next } where
  advances := advances
  moves := by
    rw [List.append_nil]
    exact .of_silent silent
  holds := by
    rw [List.append_nil]
    exact holds
  prepares key prepared := by
    rw [unprepared] at prepared
    cases prepared
  calls _ member := by cases member

theorem commitPrepared_silent
    {updated : Database}
    {claim : ClaimedDispatch}
    {ready : ReadySend}
    (prepared : commitPrepared database claim ready = some updated) :
    SilentChange database updated := by
  obtain ⟨queued, moved⟩ := commitPrepared_state prepared
  intro key
  rw [moved key]
  split
  · next here =>
      rw [here, queued]
      exact .leave rfl nofun
  · exact .stay _

/-- The commit of Transaction B: a refusal is recorded, or `SENDING`; only a commit
that is reported leads to a call. -/
theorem commitDecision_outcome
    {now : Instant}
    {began : Nat}
    {claim : ClaimedDispatch}
    {decision : Except String ReadySend}
    (outcome : CommitOutcome)
    (consistent : Consistent database)
    (truthful : ∀ key, Truthful (dispatchState database key) (callsFor calls key))
    (holds : (DispatchPhase.decided began claim decision).Holds database calls) :
    DispatchStepOutcome database calls (.decided began claim decision)
      { database := (commitDecision database now began claim outcome decision).1
        runtime
        phase := (commitDecision database now began claim outcome decision).2 } := by
  cases decision with
  | error reason =>
      cases refused : commitRefusal database now claim reason with
      | none =>
          simp only [commitDecision, refused, Option.elim]
          exact .read_only consistent trivial rfl
      | some updated =>
          simp only [commitDecision, refused, Option.elim]
          exact .silent
            (outcome.store_cases (.refl consistent) (commitRefusal_advances consistent refused))
            (outcome.store_cases (.refl database) (commitRefusal_silent consistent refused))
            trivial rfl
  | ok ready =>
      cases written : commitPrepared database claim ready with
      | none =>
          simp only [commitDecision, written]
          exact .read_only consistent trivial rfl
      | some updated =>
          simp only [commitDecision, written]
          have wiredRow : Wired database claim ready := holds
          obtain ⟨row, found, attached, -⟩ := wiredRow
          have advances := commitPrepared_advances consistent
            (fun other foundOther => by
              obtain rfl : other = row := Option.some.inj (foundOther.symm.trans found)
              exact attached) written
          have silent := commitPrepared_silent written
          obtain ⟨queued, moved⟩ := commitPrepared_state written
          cases outcome with
          | failed => exact .read_only consistent trivial rfl
          | appliedButReportedFailed => exact .silent advances silent trivial rfl
          | committed =>
              have uncalled := truthful claim.dispatchId
              rw [queued] at uncalled
              refine ⟨advances, ?_, ?_, ?_, fun _ member => by cases member⟩
              · rw [List.append_nil]
                exact .of_silent silent
              · rw [List.append_nil]
                refine ⟨Wired.of_extends holds advances.extended, .inl ?_, uncalled⟩
                exact (moved claim.dispatchId).trans (if_pos rfl)
              · rintro key ⟨⟩
                exact queued

theorem isFor_dispatchCall
    {began : Nat}
    {claim : ClaimedDispatch}
    {ready : ReadySend}
    {behaviour : SendBehaviour}
    (settings : Settings)
    (key : Nat) :
    callsFor [dispatchCall settings began claim ready behaviour] key =
      if key = claim.dispatchId then [dispatchCall settings began claim ready behaviour]
      else [] := by
  by_cases here : key = claim.dispatchId
  · rw [if_pos here]
    simp [callsFor, SendCall.isFor, dispatchCall, here]
  · rw [if_neg here]
    have other : ¬ claim.dispatchId = key := fun same => here same.symm
    simp [callsFor, SendCall.isFor, dispatchCall, other]

/-- The call of the sender. -/
theorem send_outcome
    {began : Nat}
    {claim : ClaimedDispatch}
    {ready : ReadySend}
    {remaining : Nat}
    (settings : Settings)
    (behaviour : SendBehaviour)
    (consistent : Consistent database)
    (holds : (DispatchPhase.prepared began claim ready).Holds database calls) :
    DispatchStepOutcome database calls (.prepared began claim ready)
      { database, runtime
        phase := .reporting claim ready
          (dispatchCall settings began claim ready behaviour).report remaining
        calls := [dispatchCall settings began claim ready behaviour] } := by
  obtain ⟨wiredRow, uncertain, uncalled⟩ := holds
  refine ⟨.refl consistent, ?_, ?_, (fun _ prepared => by cases prepared), ?_⟩
  · intro key
    rw [callsFor_append, isFor_dispatchCall]
    by_cases here : key = claim.dispatchId
    · rw [if_pos here, here, uncalled]
      exact .called _ uncertain
    · rw [if_neg here, List.append_nil]
      exact .silent (.stay _)
  · refine ⟨dispatchCall settings began claim ready behaviour, ?_, rfl⟩
    rw [callsFor_append, isFor_dispatchCall, if_pos rfl, uncalled]
    rfl
  · intro call member
    obtain rfl := List.mem_singleton.mp member
    exact ⟨began, claim, ready, rfl, rfl, rfl, rfl⟩

theorem holds_retryOutcome
    {claim : ClaimedDispatch}
    {ready : ReadySend}
    {report : SendReport}
    {call : SendCall}
    (remaining : Nat)
    (only : callsFor calls claim.dispatchId = [call])
    (reported : call.report = report) :
    (retryOutcome claim ready report remaining).Holds database calls ∧
      (retryOutcome claim ready report remaining).prepares = none := by
  cases remaining with
  | zero => exact ⟨trivial, rfl⟩
  | succ remaining => exact ⟨⟨call, only, reported⟩, rfl⟩

/-- One attempt of Transaction C: the reported outcome is recorded under the fence,
or nothing is. -/
theorem recordOutcome_outcome
    {now : Instant}
    {claim : ClaimedDispatch}
    {ready : ReadySend}
    {report : SendReport}
    {remaining : Nat}
    (outcome : CommitOutcome)
    (consistent : Consistent database)
    (holds : (DispatchPhase.reporting claim ready report remaining).Holds database calls) :
    DispatchStepOutcome database calls (.reporting claim ready report remaining)
      { database := (recordOutcome database now claim ready report remaining outcome).1
        runtime
        phase := (recordOutcome database now claim ready report remaining outcome).2 } := by
  obtain ⟨call, only, reported⟩ := holds
  have retried : ∀ next : Database,
      (retryOutcome claim ready report remaining).Holds next calls ∧
        (retryOutcome claim ready report remaining).prepares = none :=
    fun _ => holds_retryOutcome remaining only reported
  cases finished : finishExternalDispatch database now claim (observedOutcome report)
      (recordedError report) with
  | none =>
      simp only [recordOutcome, finished]
      cases outcome.reported with
      | true => exact .read_only consistent trivial rfl
      | false => exact .read_only consistent (retried database).1 (retried database).2
  | some updated =>
      simp only [recordOutcome, finished]
      have advances := finishExternalDispatch_advances consistent finished
      obtain ⟨sending, moved⟩ := finishExternalDispatch_state consistent finished
      have recorded : Moves database calls updated calls := by
        intro key
        rw [moved key]
        split
        · next here =>
            rw [here, sending, only, ← reported]
            exact .recorded call
        · exact .silent (.stay _)
      have settled : ∀ next : DispatchPhase, next.Holds updated calls →
          next.prepares = none →
          DispatchStepOutcome database calls (.reporting claim ready report remaining)
            { database := updated, runtime, phase := next } := by
        intro next holdsNext unprepared
        refine ⟨advances, ?_, ?_, ?_, fun _ member => by cases member⟩
        · rw [List.append_nil]
          exact recorded
        · rw [List.append_nil]
          exact holdsNext
        · intro key prepared
          rw [unprepared] at prepared
          cases prepared
      cases outcome with
      | committed => exact settled _ trivial rfl
      | appliedButReportedFailed => exact settled _ (retried updated).1 (retried updated).2
      | failed => exact .read_only consistent (retried database).1 (retried database).2

theorem annotateLateOutcome_outcome
    {now : Instant}
    {claim : ClaimedDispatch}
    {ready : ReadySend}
    {report : SendReport}
    (outcome : CommitOutcome)
    (consistent : Consistent database) :
    DispatchStepOutcome database calls (.annotating claim ready report)
      { database := annotateLateOutcome database now claim ready report outcome
        runtime
        phase := .closing claim } := by
  cases annotated : annotateUnknownDispatch database now claim.dispatchId claim.organizationId
      (lateOutcomeNote claim ready.messageId report) with
  | none =>
      simp only [annotateLateOutcome, annotated, Option.elim]
      exact .read_only consistent trivial rfl
  | some updated =>
      simp only [annotateLateOutcome, annotated, Option.elim]
      obtain ⟨advances, silent⟩ := annotateUnknownDispatch_advances consistent annotated
      exact .silent (outcome.store_cases (.refl consistent) advances)
        (outcome.store_cases (.refl database) silent) trivial rfl

/-- What the gates leave behind is wired to the row they were evaluated on. -/
theorem holds_afterGates
    {began : Nat}
    {claim : ClaimedDispatch}
    {row : ExternalDispatch}
    {makeMsgid : String → String}
    (found : database.dispatches.get claim.dispatchId = some row) :
    (afterGates began claim (evaluateGates deployment.settings deployment.services
        makeMsgid runtime.stopping database row)).Holds database calls ∧
      (afterGates began claim (evaluateGates deployment.settings deployment.services
        makeMsgid runtime.stopping database row)).prepares = none := by
  cases evaluated : evaluateGates deployment.settings deployment.services makeMsgid
      runtime.stopping database row with
  | error exit => cases exit <;> exact ⟨trivial, rfl⟩
  | ok ready =>
      obtain ⟨attached, contact, -, -⟩ := evaluateGates_eq_ok evaluated
      exact ⟨⟨row, found, attached, contact⟩, rfl⟩

theorem dispatchStep_outcome
    (consistent : Consistent database)
    (truthful : ∀ key, Truthful (dispatchState database key) (callsFor calls key))
    (holds : phase.Holds database calls)
    (stepped : dispatchStep deployment database clock position runtime phase choice =
      some move) :
    DispatchStepOutcome database calls phase move := by
  unfold dispatchStep at stepped
  split at stepped
  · obtain ⟨admitted, -, rfl⟩ := Option.map_eq_some_iff.mp stepped
    exact .read_only consistent trivial rfl
  · split at stepped
    · obtain rfl := Option.some.inj stepped
      exact .read_only consistent trivial rfl
    · obtain rfl := Option.some.inj stepped
      exact .read_only consistent trivial rfl
  · obtain rfl := Option.some.inj stepped
    exact .read_only consistent trivial rfl
  · obtain ⟨registered, -, rfl⟩ := Option.map_eq_some_iff.mp stepped
    exact .read_only consistent trivial rfl
  · obtain ⟨row, found, rfl⟩ := Option.map_eq_some_iff.mp stepped
    obtain ⟨known, unprepared⟩ := holds_afterGates found
    exact .read_only consistent known unprepared
  · obtain rfl := Option.some.inj stepped
    exact .read_only consistent trivial rfl
  · obtain rfl := Option.some.inj stepped
    exact commitDecision_outcome _ consistent truthful holds
  · obtain rfl := Option.some.inj stepped
    exact .read_only consistent trivial rfl
  · obtain rfl := Option.some.inj stepped
    exact send_outcome _ _ consistent holds
  · obtain rfl := Option.some.inj stepped
    exact recordOutcome_outcome _ consistent holds
  · obtain rfl := Option.some.inj stepped
    obtain ⟨call, only, reported⟩ := holds
    obtain ⟨known, unprepared⟩ := holds_retryOutcome _ only reported
    exact .read_only consistent known unprepared
  · obtain rfl := Option.some.inj stepped
    exact annotateLateOutcome_outcome _ consistent
  · obtain rfl := Option.some.inj stepped
    exact .read_only consistent trivial rfl
  · obtain rfl := Option.some.inj stepped
    exact .read_only consistent trivial rfl
  · obtain ⟨released, -, rfl⟩ := Option.map_eq_some_iff.mp stepped
    exact .read_only consistent trivial rfl
  · cases stepped

/-! ## The order of the phases -/

/-- The beginning of a thread that has passed the gates, with what it will send. -/
def DispatchPhase.ready : DispatchPhase → Option (Nat × ReadySend)
  | .decided began _ (.ok send) => some (began, send)
  | .prepared began _ send => some (began, send)
  | _ => none

/-- The position at which the Transaction B of a thread began, until the call. -/
def DispatchPhase.began : DispatchPhase → Option Nat
  | .claimed position _ => some position
  | .registered position _ => some position
  | .decided position _ _ => some position
  | .prepared position _ _ => some position
  | _ => none

/-- The phases on the way to a call and how a thread passes through them; all
others only lead away from it. -/
inductive PhaseFlow
    (database : Database)
    (position : Nat) :
    DispatchPhase → DispatchPhase → Prop where
  | claims (claim : ClaimedDispatch) :
      PhaseFlow database position .attempting (.claimed position claim)
  | registers (began : Nat) (claim : ClaimedDispatch) :
      PhaseFlow database position (.claimed began claim) (.registered began claim)
  | refuses (began : Nat) (claim : ClaimedDispatch) (reason : String) :
      PhaseFlow database position (.registered began claim)
        (.decided began claim (.error reason))
  | passes
      {contact : Contact}
      (began : Nat)
      (claim : ClaimedDispatch)
      (send : ReadySend)
      (found : database.contacts.get send.contactId = some contact)
      (unsuppressed : database.isEmailSuppressed contact.email none = false) :
      PhaseFlow database position (.registered began claim) (.decided began claim (.ok send))
  | prepares (began : Nat) (claim : ClaimedDispatch) (send : ReadySend) :
      PhaseFlow database position (.decided began claim (.ok send))
        (.prepared began claim send)
  | leaves
      {before after : DispatchPhase}
      (unready : after.ready = none)
      (unbegun : after.began = none) : PhaseFlow database position before after

theorem PhaseFlow.retry
    {before : DispatchPhase}
    (claim : ClaimedDispatch)
    (send : ReadySend)
    (report : SendReport)
    (remaining : Nat) :
    PhaseFlow database position before (retryOutcome claim send report remaining) := by
  cases remaining with
  | zero => exact .leaves rfl rfl
  | succ remaining => exact .leaves rfl rfl

theorem PhaseFlow.afterGates
    {began : Nat}
    {claim : ClaimedDispatch}
    {row : ExternalDispatch}
    {makeMsgid : String → String} :
    PhaseFlow database position (.registered began claim)
      (Dispatch.afterGates began claim (evaluateGates deployment.settings
        deployment.services makeMsgid runtime.stopping database row)) := by
  cases evaluated : evaluateGates deployment.settings deployment.services makeMsgid
      runtime.stopping database row with
  | error exit =>
      cases exit with
      | refused reason => exact .refuses began claim reason
      | deferred | unavailable => exact .leaves rfl rfl
  | ok send =>
      obtain ⟨-, -, -, contact, found, unsuppressed⟩ := evaluateGates_eq_ok evaluated
      exact .passes began claim send found unsuppressed

theorem PhaseFlow.commitDecision
    {now : Instant}
    {began : Nat}
    {claim : ClaimedDispatch}
    {decision : Except String ReadySend}
    (outcome : CommitOutcome) :
    PhaseFlow database position (.decided began claim decision)
      (Dispatch.commitDecision database now began claim outcome decision).2 := by
  cases decision with
  | error reason => exact .leaves rfl rfl
  | ok send =>
      unfold Dispatch.commitDecision
      split
      · next refused => cases refused
      · next approved equal =>
          obtain rfl := Except.ok.inj equal
          split
          · exact .leaves rfl rfl
          · cases outcome with
            | committed => exact .prepares began claim send
            | appliedButReportedFailed | failed => exact .leaves rfl rfl

theorem PhaseFlow.recordOutcome
    {now : Instant}
    {claim : ClaimedDispatch}
    {send : ReadySend}
    {report : SendReport}
    {remaining : Nat}
    {before : DispatchPhase}
    (outcome : CommitOutcome) :
    PhaseFlow database position before
      (Dispatch.recordOutcome database now claim send report remaining outcome).2 := by
  unfold Dispatch.recordOutcome
  split
  · cases outcome.reported with
    | true => exact .leaves rfl rfl
    | false => exact .retry claim send report remaining
  · cases outcome.reported with
    | true => exact .leaves rfl rfl
    | false => exact .retry claim send report remaining

theorem dispatchStep_flow
    (stepped : dispatchStep deployment database clock position runtime phase choice =
      some move) :
    PhaseFlow database position phase move.phase := by
  unfold dispatchStep at stepped
  split at stepped
  · obtain ⟨admitted, -, rfl⟩ := Option.map_eq_some_iff.mp stepped
    exact .leaves rfl rfl
  · split at stepped
    · obtain rfl := Option.some.inj stepped
      exact .leaves rfl rfl
    · next claim _ =>
        obtain rfl := Option.some.inj stepped
        exact .claims claim
  · obtain rfl := Option.some.inj stepped
    exact .leaves rfl rfl
  · obtain ⟨registered, -, rfl⟩ := Option.map_eq_some_iff.mp stepped
    exact .registers _ _
  · obtain ⟨row, -, rfl⟩ := Option.map_eq_some_iff.mp stepped
    exact .afterGates
  · obtain rfl := Option.some.inj stepped
    exact .leaves rfl rfl
  · obtain rfl := Option.some.inj stepped
    exact .commitDecision _
  · obtain rfl := Option.some.inj stepped
    exact .leaves rfl rfl
  · obtain rfl := Option.some.inj stepped
    exact .leaves rfl rfl
  · obtain rfl := Option.some.inj stepped
    exact .recordOutcome _
  · obtain rfl := Option.some.inj stepped
    exact .retry _ _ _ _
  · obtain rfl := Option.some.inj stepped
    exact .leaves rfl rfl
  · obtain rfl := Option.some.inj stepped
    exact .leaves rfl rfl
  · obtain rfl := Option.some.inj stepped
    exact .leaves rfl rfl
  · obtain ⟨released, -, rfl⟩ := Option.map_eq_some_iff.mp stepped
    exact .leaves rfl rfl
  · cases stepped

/-- What a thread is ready to send was ready before, or has just passed the gates. -/
theorem PhaseFlow.ready
    {before after : DispatchPhase}
    {send : Nat × ReadySend}
    (flow : PhaseFlow database position before after)
    (found : after.ready = some send) :
    before.ready = some send ∨
      ∃ contact, database.contacts.get send.2.contactId = some contact ∧
        database.isEmailSuppressed contact.email none = false := by
  cases flow with
  | claims | registers | refuses => cases found
  | passes began claim approved foundContact unsuppressed =>
      obtain rfl := Option.some.inj found
      exact .inr ⟨_, foundContact, unsuppressed⟩
  | prepares => exact .inl found
  | leaves unready =>
      rw [unready] at found
      cases found

theorem PhaseFlow.began
    {before after : DispatchPhase}
    {start : Nat}
    (flow : PhaseFlow database position before after)
    (found : after.began = some start) :
    before.began = some start ∨ start = position := by
  cases flow with
  | claims => exact .inr (Option.some.inj found).symm
  | registers | refuses | passes | prepares => exact .inl found
  | leaves _ unbegun =>
      rw [unbegun] at found
      cases found

/-- The claim is on the row. -/
def OnRow
    (database : Database)
    (claim : ClaimedDispatch) : Prop :=
  ∃ row, database.dispatches.get claim.dispatchId = some row ∧
    row.claimedBy = some claim.workerId ∧ row.claimedAt = some claim.claimedAt

theorem finishExternalDispatch_onRow
    {now : Instant}
    {updated : Database}
    {claim : ClaimedDispatch}
    {outcome : SendOutcome}
    {error : Option String}
    (consistent : Consistent database)
    (finished : finishExternalDispatch database now claim outcome error = some updated) :
    OnRow database claim := by
  obtain ⟨row, message, stored, found, fence, -⟩ :=
    finishExternalDispatch_eq_some consistent finished
  simp only [sendFence, Bool.and_eq_true, beq_iff_eq] at fence
  exact ⟨row, found, fence.1.2, fence.2⟩

/-- A thread that has committed Transaction B and whose claim is no longer on the
row changes the state of no dispatch. -/
theorem dispatchStep_lostClaim
    {claim : ClaimedDispatch}
    (consistent : Consistent database)
    (held : phase.sendClaim = some claim)
    (lost : ¬ OnRow database claim)
    (stepped : dispatchStep deployment database clock position runtime phase choice =
      some move)
    (key : Nat) :
    dispatchState move.database key = dispatchState database key := by
  have unfinished : ∀ outcome error,
      finishExternalDispatch database clock claim outcome error = none := by
    intro outcome error
    cases finished : finishExternalDispatch database clock claim outcome error with
    | none => rfl
    | some updated => exact absurd (finishExternalDispatch_onRow consistent finished) lost
  unfold dispatchStep at stepped
  split at stepped <;> try cases held
  · obtain rfl := Option.some.inj stepped
    rfl
  · obtain rfl := Option.some.inj stepped
    simp only [recordOutcome, unfinished]
  · obtain rfl := Option.some.inj stepped
    rfl
  · -- The annotation of an unknown outcome writes no state.
    next ready report outcome =>
    obtain rfl := Option.some.inj stepped
    unfold annotateLateOutcome
    cases annotated : annotateUnknownDispatch database clock claim.dispatchId
        claim.organizationId (lateOutcomeNote claim ready.messageId report) with
    | none => rfl
    | some updated =>
        obtain ⟨row, found, -, rfl⟩ := updateDispatchWhere_eq_some annotated
        have unchanged : dispatchState (database.modifyDispatch claim.dispatchId fun row =>
            { row with
              errorMessage := some (row.errorMessage.getD "" ++ " | " ++
                lateOutcomeNote claim ready.messageId report)
              updatedAt := clock }) key =
            dispatchState database key := by
          rw [dispatchState_modifyDispatch found]
          split
          · next here => rw [here, dispatchState_of_get found]
          · rfl
        cases outcome with
        | committed | appliedButReportedFailed => exact unchanged
        | failed => rfl
  · obtain rfl := Option.some.inj stepped
    rfl
  · cases stepped

/-! ## Steps of a generation thread -/

/-- The generation that a thread works on. -/
def GenerationPhase.preparation : GenerationPhase → Option PreparedGeneration
  | .idle => none
  | .prepared generation => some generation
  | .drafted generation _ _ => some generation

/-- The generation of a thread is for the contact of its dispatch. -/
def GenerationPhase.Holds
    (database : Database)
    (phase : GenerationPhase) : Prop :=
  ∀ prepared, phase.preparation = some prepared →
    ∃ row, database.dispatches.get prepared.claim.dispatchId = some row ∧
      prepared.contactId = row.contactId

theorem GenerationPhase.Holds.of_extends
    {before after : Database}
    {phase : GenerationPhase}
    (holds : phase.Holds before)
    (extended : before.Extends after) :
    phase.Holds after := by
  intro prepared working
  obtain ⟨row, found, contact⟩ := holds prepared working
  obtain ⟨kept, foundKept, keeps⟩ := extended.dispatches _ row found
  exact ⟨kept, foundKept, contact.trans keeps.contactId.symm⟩

theorem GenerationPhase.holds_idle (database : Database) :
    GenerationPhase.idle.Holds database := by
  intro prepared working
  cases working

theorem prepareGeneration_eq_ok
    {claim : ClaimedDispatch}
    {row : ExternalDispatch}
    {prepared : PreparedGeneration}
    (preparation : prepareGeneration database claim row = .ok prepared) :
    prepared.claim = claim ∧ prepared.contactId = row.contactId := by
  unfold prepareGeneration at preparation
  split at preparation
  · cases preparation
  split at preparation
  · cases preparation
  split at preparation
  · cases preparation
  next snapshot _ _ _ _ _ _ _ =>
  cases valid : validReplyParent snapshot.replyParent with
  | error text =>
      rw [valid] at preparation
      cases preparation
  | ok parent =>
      rw [valid] at preparation
      cases preparation
      exact ⟨rfl, rfl⟩

/-- What a step of a generation thread guarantees. -/
structure GenerationStepOutcome
    (before : Database)
    (phase : GenerationPhase)
    (move : GenerationMove) : Prop where
  advances : Advances before move.database
  silent : SilentChange before move.database
  holds : move.phase.Holds move.database

theorem preparation_retryGeneration
    {prepared other : PreparedGeneration}
    {result : Except String Draft}
    {remaining : Nat}
    (working : (retryGeneration prepared result remaining).preparation = some other) :
    prepared = other := by
  cases remaining with
  | zero => cases working
  | succ remaining => exact Option.some.inj working

theorem claimGeneration_outcome
    {claim : ClaimedDispatch}
    {generation : GenerationPhase}
    (outcome : CommitOutcome)
    (consistent : Consistent database) :
    GenerationStepOutcome database generation (claimGeneration database claim outcome) := by
  unfold claimGeneration
  split
  · exact ⟨.refl consistent, .refl database, GenerationPhase.holds_idle _⟩
  · next updated reason claimed =>
      obtain ⟨advances, silent⟩ := transactionG1_advances consistent claimed
      exact ⟨outcome.store_cases (.refl consistent) advances,
        outcome.store_cases (.refl database) silent, GenerationPhase.holds_idle _⟩
  · next updated prepared claimed =>
      obtain ⟨advances, silent⟩ := transactionG1_advances consistent claimed
      refine ⟨outcome.store_cases (.refl consistent) advances,
        outcome.store_cases (.refl database) silent, ?_⟩
      obtain ⟨row, found, -, -, preparation, -⟩ := transactionG1_eq_some claimed
      obtain ⟨sameClaim, contact⟩ := prepareGeneration_eq_ok preparation
      have holds : (GenerationPhase.prepared prepared).Holds database := by
        rintro _ ⟨⟩
        exact ⟨row, by rw [sameClaim]; exact found, contact⟩
      cases outcome with
      | committed => exact holds.of_extends advances.extended
      | appliedButReportedFailed | failed => exact GenerationPhase.holds_idle _

theorem writeGeneration_outcome
    {prepared : PreparedGeneration}
    {result : Except String Draft}
    {remaining : Nat}
    {replyReference : String}
    (outcome : CommitOutcome)
    (consistent : Consistent database)
    (holds : (GenerationPhase.drafted prepared result remaining).Holds database) :
    GenerationStepOutcome database (.drafted prepared result remaining)
      (writeGeneration database prepared result remaining clock replyReference outcome) := by
  have retried : (retryGeneration prepared result remaining).Holds database := by
    intro other working
    obtain rfl := preparation_retryGeneration working
    exact holds prepared rfl
  unfold writeGeneration
  split
  · exact ⟨.refl consistent, .refl database, GenerationPhase.holds_idle _⟩
  · exact ⟨.refl consistent, .refl database, retried⟩
  · next updated written =>
      obtain ⟨advances, silent⟩ := transactionG2_advances consistent
        (fun row found => by
          obtain ⟨same, foundSame, contact⟩ := holds prepared rfl
          obtain rfl : same = row := Option.some.inj (foundSame.symm.trans found)
          exact contact) written
      have extended : database.Extends (outcome.store database updated) :=
        outcome.store_cases (.refl database) advances.extended
      refine ⟨outcome.store_cases (.refl consistent) advances,
        outcome.store_cases (.refl database) silent, ?_⟩
      cases outcome with
      | committed => exact GenerationPhase.holds_idle _
      | appliedButReportedFailed | failed => exact retried.of_extends extended

theorem generationStep_outcome
    {generation : GenerationPhase}
    {selection : GenerationChoice}
    {moved : GenerationMove}
    (consistent : Consistent database)
    (holds : generation.Holds database)
    (stepped : generationStep database clock runtime generation selection = some moved) :
    GenerationStepOutcome database generation moved := by
  unfold generationStep at stepped
  split at stepped
  · split at stepped
    · cases stepped
    · obtain ⟨claim, -, rfl⟩ := Option.map_eq_some_iff.mp stepped
      exact claimGeneration_outcome _ consistent
  · obtain rfl := Option.some.inj stepped
    refine ⟨.refl consistent, .refl database, ?_⟩
    rintro _ ⟨⟩
    exact holds _ rfl
  · obtain rfl := Option.some.inj stepped
    exact writeGeneration_outcome _ consistent holds
  · obtain rfl := Option.some.inj stepped
    refine ⟨.refl consistent, .refl database, ?_⟩
    intro other working
    obtain rfl := preparation_retryGeneration working
    exact holds _ rfl
  · cases stepped

theorem transactionG2_onRow
    {updated : Database}
    {prepared : PreparedGeneration}
    {result : Except String Draft}
    {replyReference : String}
    (written : transactionG2 database prepared result clock replyReference =
      .written updated) :
    OnRow database prepared.claim := by
  obtain ⟨row, found, fence, -⟩ := transactionG2_eq_written written
  obtain ⟨-, -, claimedBy, claimedAt, -⟩ := (generationFence_iff _ row).mp fence
  exact ⟨row, found, claimedBy, claimedAt⟩

/-- A generation thread whose claim is not on the row writes nothing. -/
theorem generationStep_lostClaim
    {generation : GenerationPhase}
    {selection : GenerationChoice}
    {moved : GenerationMove}
    {prepared : PreparedGeneration}
    (working : generation.preparation = some prepared)
    (lost : ¬ OnRow database prepared.claim)
    (stepped : generationStep database clock runtime generation selection = some moved) :
    moved.database = database ∧ moved.attached = [] := by
  unfold generationStep at stepped
  split at stepped
  · cases working
  · obtain rfl := Option.some.inj stepped
    exact ⟨rfl, rfl⟩
  · obtain rfl := Option.some.inj working
    obtain rfl := Option.some.inj stepped
    unfold writeGeneration
    split
    · exact ⟨rfl, rfl⟩
    · exact ⟨rfl, rfl⟩
    · next updated written => exact absurd (transactionG2_onRow written) lost
  · obtain rfl := Option.some.inj stepped
    exact ⟨rfl, rfl⟩
  · cases stepped

end Dispatch
end MailerAgent
