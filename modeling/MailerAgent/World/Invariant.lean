import MailerAgent.World.System

/-!
# The invariant of the program

`StepEffect` says what one step of any component can do, in the terms of the other
components: the database becomes later, the state of every dispatch moves with the
calls made for it, and whatever is new was established by the component that took
the step. `Invariant` follows from it for every reachable state.
-/

namespace MailerAgent

open Concurrent Relational Mail Dispatch Intake Native

/-! ## What the components know -/

/-- What is true of a started operation: its thread keeps the contract, and the
database has only become later since the current sending operation began. -/
structure Running.Holds
    (database : Database)
    (running : Running) : Prop where
  safe : running.thread.Holds contract (fun _ known => known.ghost.idle) database
    running.observed
  since : running.observed.since.Extends database

theorem Running.Holds.later
    {before after : Database}
    {running : Running}
    (holds : running.Holds before)
    (later : Later before after) :
    running.Holds after :=
  ⟨holds.safe.later contract_lawful later, holds.since.trans later.extended⟩

/-- A call was made for the contact of its dispatch, or for a native contact. -/
def CallHolds
    (database : Database)
    (call : SendCall) : Prop :=
  match call.origin with
  | .dispatch key => ∃ row, database.dispatches.get key = some row ∧
      row.contactId = call.contactId
  | _ => ∃ email organization, NativeContact database call.contactId email organization

theorem CallHolds.of_extends
    {before after : Database}
    {call : SendCall}
    (holds : CallHolds before call)
    (extended : before.Extends after) :
    CallHolds after call := by
  unfold CallHolds at holds ⊢
  split at holds
  · obtain ⟨row, found, contact⟩ := holds
    obtain ⟨kept, foundKept, keeps⟩ := extended.dispatches _ row found
    exact ⟨kept, foundKept, keeps.contactId.trans contact⟩
  · obtain ⟨email, organization, native⟩ := holds
    exact ⟨email, organization, native.of_extends extended⟩

/-- A message that was marked Seen is durable. -/
def MarkHolds
    (database : Database)
    (mark : SeenMark) : Prop :=
  ∃ identity, inboundIdentity mark.email.normalized = some identity ∧
    Durable database mark.mailboxId identity

/-! ## One step -/

/-- Where a new call comes from: a thread that prepared it, or a native operation
that may send. -/
inductive NewCall
    (before : World)
    (call : SendCall) : Prop where
  | dispatch
      (worker : Worker)
      (claim : ClaimedDispatch)
      (send : ReadySend)
      (phase : before.dispatchers worker = .prepared call.began claim send)
      (origin : call.origin = .dispatch claim.dispatchId)
      (contact : call.contactId = send.contactId)
  | native
      (number : Nat)
      (running : Running)
      (started : before.natives number = some running)
      (began : call.began = running.began)
      (may : MaySend running.observed before.database call.origin call.contactId
        call.arguments)

/-- When a sending operation began: at the same point as before, or now. -/
def Begun
    (before : World)
    (number : Nat)
    (running : Running) : Prop :=
  (∃ old, before.natives number = some old ∧ running.began = old.began ∧
      running.observed.since = old.observed.since) ∨
    running.began = before.position ∧ running.observed.since = before.database

/-- What one step of any component can do. -/
structure StepEffect
    (deployment : Deployment)
    (before after : World) : Prop where
  position : after.position = before.position + 1
  later : Later before.database after.database
  moves : Moves before.database before.calls after.database after.calls
  requests : ∀ number, after.requests number = before.requests number ∨
    PhaseHolds deployment.services after.database (after.requests number)
  natives : ∀ number running, after.natives number = some running →
    before.natives number = some running ∨
      running.Holds after.database ∧ Begun before number running
  dispatchers : ∀ worker, after.dispatchers worker = before.dispatchers worker ∨
    (after.dispatchers worker).Holds after.database after.calls
  uncalled : ∀ worker key, after.dispatchers worker = before.dispatchers worker →
    (before.dispatchers worker).prepares = some key →
    callsFor after.calls key = callsFor before.calls key
  prepares : ∀ worker key, (after.dispatchers worker).prepares = some key →
    (before.dispatchers worker).prepares = some key ∨
      dispatchState before.database key = .queued ∧
        ∀ other, other ≠ worker →
          after.dispatchers other = before.dispatchers other
  ready : ∀ worker send, (after.dispatchers worker).ready = some send →
    (before.dispatchers worker).ready = some send ∨
      ∃ contact, before.database.contacts.get send.2.contactId = some contact ∧
        before.database.isEmailSuppressed contact.email none = false
  began : ∀ worker began, (after.dispatchers worker).began = some began →
    (before.dispatchers worker).began = some began ∨ began = before.position
  generators : ∀ worker, after.generators worker = before.generators worker ∨
    (after.generators worker).Holds after.database
  calls : ∀ call ∈ after.calls, call ∈ before.calls ∨ NewCall before call
  seen : ∀ mark ∈ after.seen, mark ∈ before.seen ∨ MarkHolds before.database mark

/-- What is true of every reachable state. -/
structure Invariant
    (deployment : Deployment)
    (world : World) : Prop where
  current : Later world.database world.database
  requests : ∀ number, PhaseHolds deployment.services world.database (world.requests number)
  natives : ∀ number running, world.natives number = some running →
    running.Holds world.database ∧ running.began < world.position
  dispatchers : ∀ worker, (world.dispatchers worker).Holds world.database world.calls
  exclusive : ∀ first second key, (world.dispatchers first).prepares = some key →
    (world.dispatchers second).prepares = some key → first = second
  began : ∀ worker began, (world.dispatchers worker).began = some began →
    began < world.position
  generators : ∀ worker, (world.generators worker).Holds world.database
  truthful : ∀ key,
    Truthful (dispatchState world.database key) (callsFor world.calls key)
  calls : ∀ call ∈ world.calls,
    CallHolds world.database call ∧ call.began < world.position
  seen : ∀ mark ∈ world.seen, MarkHolds world.database mark

section Step

variable {deployment : Deployment} {before after : World}

theorem NewCall.holds
    {call : SendCall}
    (invariant : Invariant deployment before)
    (made : NewCall before call) :
    CallHolds before.database call ∧ call.began < before.position := by
  cases made with
  | dispatch worker claim send phase origin contact =>
      have holds := invariant.dispatchers worker
      have began := invariant.began worker call.began
      rw [phase] at holds began
      obtain ⟨⟨row, found, -, wiredContact⟩, -, -⟩ := holds
      refine ⟨?_, began rfl⟩
      unfold CallHolds
      rw [origin]
      exact ⟨row, found, wiredContact.trans contact.symm⟩
  | native number running started began may =>
      obtain ⟨onOwnPath, -, organization, native, -⟩ := may
      refine ⟨?_, began ▸ (invariant.natives number running started).2⟩
      unfold CallHolds
      split
      · next key dispatched =>
          rw [dispatched] at onOwnPath
          exact onOwnPath.elim
      · exact ⟨_, organization, native⟩

theorem Invariant.step
    (invariant : Invariant deployment before)
    (effect : StepEffect deployment before after) :
    Invariant deployment after where
  current := effect.later.refl_right
  requests number := by
    rcases effect.requests number with same | holds
    · rw [same]
      exact (invariant.requests number).of_extends effect.later.extended
    · exact holds
  natives number running started := by
    rw [effect.position]
    rcases effect.natives number running started with old | ⟨holds, begun⟩
    · obtain ⟨holds, began⟩ := invariant.natives number running old
      exact ⟨holds.later effect.later, Nat.lt_succ_of_lt began⟩
    · refine ⟨holds, ?_⟩
      rcases begun with ⟨old, startedOld, began, -⟩ | ⟨began, -⟩
      · rw [began]
        exact Nat.lt_succ_of_lt (invariant.natives number old startedOld).2
      · rw [began]
        exact Nat.lt_succ_self _
  dispatchers worker := by
    rcases effect.dispatchers worker with same | holds
    · rw [same]
      exact (invariant.dispatchers worker).stable effect.later.extended effect.moves
        fun key prepared => effect.uncalled worker key same prepared
    · exact holds
  exclusive first second key preparesFirst preparesSecond := by
    -- A thread prepares a queued dispatch, which no other thread has prepared.
    have unprepared : ∀ worker, dispatchState before.database key = .queued →
        (before.dispatchers worker).prepares ≠ some key := by
      intro worker queued prepared
      have holds := invariant.dispatchers worker
      cases phase : before.dispatchers worker with
      | prepared began claim send =>
          rw [phase] at holds prepared
          obtain rfl := Option.some.inj prepared
          obtain ⟨-, uncertain, -⟩ := holds
          rw [queued] at uncertain
          rcases uncertain with state | state <;> cases state
      | _ =>
          rw [phase] at prepared
          cases prepared
    rcases effect.prepares first key preparesFirst with old | ⟨queued, others⟩
    · rcases effect.prepares second key preparesSecond with oldSecond | ⟨queued, -⟩
      · exact invariant.exclusive first second key old oldSecond
      · exact absurd old (unprepared first queued)
    · by_contra different
      rw [others second fun same => different same.symm] at preparesSecond
      exact unprepared second queued preparesSecond
  began worker began found := by
    rw [effect.position]
    rcases effect.began worker began found with old | rfl
    · exact Nat.lt_succ_of_lt (invariant.began worker began old)
    · exact Nat.lt_succ_self _
  generators worker := by
    rcases effect.generators worker with same | holds
    · rw [same]
      exact (invariant.generators worker).of_extends effect.later.extended
    · exact holds
  truthful key := (invariant.truthful key).move (effect.moves key)
  calls call member := by
    rw [effect.position]
    rcases effect.calls call member with old | made
    · obtain ⟨holds, began⟩ := invariant.calls call old
      exact ⟨holds.of_extends effect.later.extended, Nat.lt_succ_of_lt began⟩
    · obtain ⟨holds, began⟩ := made.holds invariant
      exact ⟨holds.of_extends effect.later.extended, Nat.lt_succ_of_lt began⟩
  seen mark member := by
    have durable : MarkHolds before.database mark := by
      rcases effect.seen mark member with old | new
      · exact invariant.seen mark old
      · exact new
    obtain ⟨identity, named, stored⟩ := durable
    exact ⟨identity, named, stored.of_extends effect.later.extended⟩

/-! ## The steps of the components -/

/-- A step that changes no dispatch thread and calls no sender. -/
theorem StepEffect.of_silent
    (position : after.position = before.position + 1)
    (later : Later before.database after.database)
    (silent : SilentChange before.database after.database)
    (dispatchers : after.dispatchers = before.dispatchers)
    (calls : after.calls = before.calls)
    (seen : after.seen = before.seen)
    (requests : ∀ number, after.requests number = before.requests number ∨
      PhaseHolds deployment.services after.database (after.requests number))
    (natives : ∀ number running, after.natives number = some running →
      before.natives number = some running ∨
        running.Holds after.database ∧ Begun before number running)
    (generators : ∀ worker, after.generators worker = before.generators worker ∨
      (after.generators worker).Holds after.database) :
    StepEffect deployment before after where
  position := position
  later := later
  moves := by
    rw [calls]
    exact .of_silent silent
  requests := requests
  natives := natives
  dispatchers worker := .inl (by rw [dispatchers])
  uncalled worker key _ _ := by rw [calls]
  prepares worker key prepared := .inl (by rw [← dispatchers]; exact prepared)
  ready worker send found := .inl (by rw [← dispatchers]; exact found)
  began worker began found := .inl (by rw [← dispatchers]; exact found)
  generators := generators
  calls call member := .inl (by rw [← calls]; exact member)
  seen mark member := .inl (by rw [← seen]; exact member)

/-- A step that only changes the database. -/
theorem StepEffect.of_advances
    {database : Database}
    (current : Later before.database before.database)
    (advances : Advances before.database database)
    (silent : SilentChange before.database database)
    (position : after.position = before.position + 1)
    (same : after.database = database ∧ after.dispatchers = before.dispatchers ∧
      after.calls = before.calls ∧ after.seen = before.seen ∧
      after.requests = before.requests ∧ after.natives = before.natives ∧
      after.generators = before.generators) :
    StepEffect deployment before after := by
  obtain ⟨rfl, dispatchers, calls, seen, requests, natives, generators⟩ := same
  refine .of_silent position (.of_advances current advances) silent dispatchers calls seen
    ?_ ?_ ?_
  · intro number
    exact .inl (by rw [requests])
  · intro number running started
    exact .inl (by rw [← natives]; exact started)
  · intro worker
    exact .inl (by rw [generators])

theorem effect_dispatch
    {worker : Worker}
    {choice : DispatchChoice}
    {moved : DispatchMove}
    (invariant : Invariant deployment before)
    (stepped : dispatchStep deployment before.database before.clock before.position
      (before.runtimes worker.process) (before.dispatchers worker) choice = some moved) :
    StepEffect deployment before
      { before.dispatchMoved worker moved with position := before.position + 1 } := by
  have outcome := dispatchStep_outcome invariant.current.consistent invariant.truthful
    (invariant.dispatchers worker) stepped
  have flow := dispatchStep_flow stepped
  have others : ∀ other, other ≠ worker →
      (before.dispatchMoved worker moved).dispatchers other = before.dispatchers other :=
    fun other different => Function.update_of_ne different _ _
  have own : (before.dispatchMoved worker moved).dispatchers worker = moved.phase :=
    Function.update_self _ _ _
  refine
    { position := rfl
      later := .of_advances invariant.current outcome.advances
      moves := outcome.moves
      requests := fun number => .inl rfl
      natives := fun number running started => .inl started
      dispatchers := ?_
      uncalled := ?_
      prepares := ?_
      ready := ?_
      began := ?_
      generators := fun _ => .inl rfl
      calls := ?_
      seen := fun mark member => .inl member }
  · intro other
    by_cases same : other = worker
    · subst same
      refine .inr ?_
      change ((before.dispatchMoved other moved).dispatchers other).Holds _ _
      rw [own]
      exact outcome.holds
    · exact .inl (others other same)
  · intro other key same prepared
    change callsFor (before.calls ++ moved.calls) key = _
    rw [callsFor_append]
    cases made : callsFor moved.calls key with
    | nil => exact List.append_nil _
    | cons call rest =>
        -- A call is made by the one thread that had prepared it.
        have member : call ∈ callsFor moved.calls key := by
          rw [made]
          exact List.mem_cons_self
        obtain ⟨member, isFor⟩ := List.mem_filter.mp member
        obtain ⟨began, claim, send, phase, origin, -, -⟩ := outcome.calls call member
        have here : claim.dispatchId = key := by
          unfold SendCall.isFor at isFor
          rw [origin] at isFor
          simpa using isFor
        have preparedHere : (before.dispatchers worker).prepares = some key := by
          rw [phase, ← here]
          rfl
        obtain rfl := invariant.exclusive other worker key prepared preparedHere
        have unmoved : moved.phase = before.dispatchers other := own.symm.trans same
        have queued := outcome.prepares key (by rw [unmoved]; exact prepared)
        have holds := invariant.dispatchers other
        rw [phase] at holds
        obtain ⟨-, uncertain, -⟩ := holds
        rw [here, queued] at uncertain
        rcases uncertain with state | state <;> cases state
  · intro other key prepared
    by_cases same : other = worker
    · subst same
      change ((before.dispatchMoved other moved).dispatchers other).prepares = _ at prepared
      rw [own] at prepared
      exact .inr ⟨outcome.prepares key prepared, others⟩
    · exact .inl (by rw [← others other same]; exact prepared)
  · intro other send found
    by_cases same : other = worker
    · subst same
      change ((before.dispatchMoved other moved).dispatchers other).ready = _ at found
      rw [own] at found
      exact flow.ready found
    · exact .inl (by rw [← others other same]; exact found)
  · intro other began found
    by_cases same : other = worker
    · subst same
      change ((before.dispatchMoved other moved).dispatchers other).began = _ at found
      rw [own] at found
      exact flow.began found
    · exact .inl (by rw [← others other same]; exact found)
  · intro call member
    rcases List.mem_append.mp member with old | new
    · exact .inl old
    · obtain ⟨began, claim, send, phase, origin, contact, start⟩ := outcome.calls call new
      exact .inr (.dispatch worker claim send (by rw [start]; exact phase) origin contact)

theorem effect_generation
    {worker : Worker}
    {choice : GenerationChoice}
    {moved : GenerationMove}
    (invariant : Invariant deployment before)
    (stepped : generationStep before.database before.clock
      (before.runtimes worker.process) (before.generators worker) choice = some moved) :
    StepEffect deployment before
      { before.generationMoved worker moved with position := before.position + 1 } := by
  have outcome := generationStep_outcome invariant.current.consistent
    (invariant.generators worker) stepped
  refine .of_silent rfl (.of_advances invariant.current outcome.advances) outcome.silent rfl
    rfl rfl (fun _ => .inl rfl) (fun _ _ started => .inl started) ?_
  intro other
  by_cases same : other = worker
  · subst same
    refine .inr ?_
    change (Function.update before.generators other moved.phase other).Holds _
    rw [Function.update_self]
    exact outcome.holds
  · exact .inl (Function.update_of_ne same _ _)

theorem effect_request
    {number : Nat}
    {choice : RequestChoice}
    {moved : RequestMove}
    (invariant : Invariant deployment before)
    (stepped : requestStep deployment before.database before.clock
      (before.requests number) choice = some moved) :
    StepEffect deployment before
      { before.requestMoved number moved with position := before.position + 1 } := by
  have outcome := requestStep_outcome invariant.current.consistent
    (invariant.requests number) stepped
  refine .of_silent rfl (.of_advances invariant.current outcome.advances) outcome.silent rfl
    rfl rfl ?_ (fun _ _ started => .inl started) (fun _ => .inl rfl)
  intro other
  by_cases same : other = number
  · subst same
    refine .inr ?_
    change PhaseHolds _ _ (Function.update before.requests other moved.phase other)
    rw [Function.update_self]
    exact outcome.holds
  · exact .inl (Function.update_of_ne same _ _)

theorem effect_start
    {number : Nat}
    {operation : Operation}
    (invariant : Invariant deployment before) :
    StepEffect deployment before
      { before with
        natives := Function.update before.natives number
          (some (.start deployment before.database before.position operation))
        position := before.position + 1 } := by
  refine .of_silent rfl invariant.current (.refl _) rfl rfl rfl (fun _ => .inl rfl) ?_
    (fun _ => .inl rfl)
  intro other running started
  by_cases same : other = number
  · subst same
    change Function.update _ _ _ _ = _ at started
    rw [Function.update_self] at started
    obtain rfl := Option.some.inj started
    refine .inr ⟨⟨?_, .refl _⟩, .inr ⟨rfl, rfl⟩⟩
    exact .start invariant.current (Operation.safe deployment operation invariant.current)
  · change Function.update _ _ _ _ = _ at started
    rw [Function.update_of_ne same] at started
    exact .inl started

/-- The calls of a native operation are allowed, and none is for a dispatch. -/
theorem calls_allowed
    {running : Running}
    {stimulus : Stimulus Signal Signal.Reply}
    {asked : Option Signal}
    (settings : Settings)
    (allowed : ∀ signal, asked = some signal →
      Allowed running.observed before.database signal)
    {call : SendCall}
    (member : call ∈ running.calls settings stimulus asked) :
    call.began = running.began ∧
      MaySend running.observed before.database call.origin call.contactId
        call.arguments := by
  unfold Running.calls at member
  split at member
  · obtain rfl := List.mem_singleton.mp member
    exact ⟨rfl, allowed _ rfl⟩
  · cases member

theorem seenMarks_allowed
    {running : Running}
    {asked : Option Signal}
    (allowed : ∀ signal, asked = some signal →
      Allowed running.observed before.database signal)
    {mark : SeenMark}
    (member : mark ∈ seenMarks asked) :
    MarkHolds before.database mark := by
  unfold seenMarks at member
  split at member
  · obtain rfl := List.mem_singleton.mp member
    obtain ⟨-, -, durable⟩ := allowed _ rfl
    exact durable
  · cases member

/-- A step of a native operation either goes on with the same beginning, or begins
a sending operation on the current database. -/
theorem begun_after
    {number : Nat}
    {running : Running}
    {stimulus : Stimulus Signal Signal.Reply}
    {thread : NativeThread}
    {asked : Option Signal}
    (started : before.natives number = some running) :
    Begun before number
      (running.after before.database before.position stimulus thread asked) := by
  cases asked with
  | none => exact .inl ⟨running, started, rfl, rfl⟩
  | some signal =>
      cases signal with
      | begin => exact .inr ⟨rfl, rfl⟩
      | search =>
          refine .inl ⟨running, started, rfl, ?_⟩
          change (observe running.observed before.database .search
            (stimulus.answer .search)).since = running.observed.since
          simp only [observe]
          split <;> rfl
      | _ => exact .inl ⟨running, started, rfl, rfl⟩

theorem effect_native
    {number : Nat}
    {running : Running}
    {stimulus : Stimulus Signal Signal.Reply}
    {database : Database}
    {thread : NativeThread}
    {asked : Option Signal}
    (invariant : Invariant deployment before)
    (started : before.natives number = some running)
    (stepped : running.thread.step Change.apply before.database stimulus =
      some (database, thread, asked)) :
    StepEffect deployment before
      { before.nativeMoved deployment number running stimulus database thread asked with
        position := before.position + 1 } := by
  obtain ⟨holds, -⟩ := invariant.natives number running started
  obtain ⟨later, allowed, safe⟩ :=
    Thread.step_safe contract_lawful invariant.current holds.safe stepped
  have silent : SilentChange before.database database := by
    rcases Thread.step_store stepped with rfl | committed
    · exact .refl _
    · exact .of_same (applyAll_dispatches committed)
  have begun : Begun before number
      (running.after before.database before.position stimulus thread asked) :=
    begun_after started
  have unrelated : ∀ key,
      callsFor (running.calls deployment.settings stimulus asked) key = [] := by
    intro key
    apply List.filter_eq_nil_iff.mpr
    intro call member isFor
    obtain ⟨-, onOwnPath, -⟩ := calls_allowed deployment.settings allowed member
    unfold SendCall.isFor at isFor
    rw [beq_iff_eq.mp isFor] at onOwnPath
    exact onOwnPath
  refine
    { position := rfl
      later := later
      moves := .of_native silent unrelated
      requests := fun _ => .inl rfl
      natives := ?_
      dispatchers := fun _ => .inl rfl
      uncalled := ?_
      prepares := fun _ _ prepared => .inl prepared
      ready := fun _ _ found => .inl found
      began := fun _ _ found => .inl found
      generators := fun _ => .inl rfl
      calls := ?_
      seen := ?_ }
  · intro other next startedNext
    by_cases same : other = number
    · subst same
      change Function.update _ _ _ _ = _ at startedNext
      rw [Function.update_self] at startedNext
      obtain rfl := Option.some.inj startedNext
      refine .inr ⟨⟨safe, ?_⟩, begun⟩
      rcases begun with ⟨old, startedOld, -, since⟩ | ⟨-, since⟩
      · obtain rfl : old = running := Option.some.inj (startedOld.symm.trans started)
        rw [since]
        exact holds.since.trans later.extended
      · rw [since]
        exact later.extended
    · change Function.update _ _ _ _ = _ at startedNext
      rw [Function.update_of_ne same] at startedNext
      exact .inl startedNext
  · intro worker key _ _
    change callsFor (before.calls ++ _) key = _
    rw [callsFor_append, unrelated key, List.append_nil]
  · intro call member
    rcases List.mem_append.mp member with old | new
    · exact .inl old
    · obtain ⟨began, may⟩ := calls_allowed deployment.settings allowed new
      exact .inr (.native number running started began may)
  · intro mark member
    rcases List.mem_append.mp member with old | new
    · exact .inl old
    · exact .inr (seenMarks_allowed allowed new)

theorem effect_crash
    {process : Nat}
    (invariant : Invariant deployment before) :
    StepEffect deployment before
      { before.crashed process with position := before.position + 1 } := by
  have dead : ∀ worker, worker.process = process →
      (before.crashed process).dispatchers worker = .idle := fun _ here => if_pos here
  have alive : ∀ worker, worker.process ≠ process →
      (before.crashed process).dispatchers worker = before.dispatchers worker :=
    fun _ elsewhere => if_neg elsewhere
  have inherited : ∀ {Value : Type} (read : DispatchPhase → Option Value),
      read .idle = none → ∀ worker value,
      read ((before.crashed process).dispatchers worker) = some value →
      read (before.dispatchers worker) = some value := by
    intro Value read idle worker value found
    by_cases here : worker.process = process
    · rw [dead worker here, idle] at found
      cases found
    · rw [← alive worker here]
      exact found
  refine
    { position := rfl
      later := invariant.current
      moves := .of_silent (.refl _)
      requests := fun _ => .inl rfl
      natives := fun _ _ started => .inl started
      dispatchers := ?_
      uncalled := fun _ _ _ _ => rfl
      prepares := fun worker key found => .inl (inherited _ rfl worker key found)
      ready := fun worker send found => .inl (inherited _ rfl worker send found)
      began := fun worker began found => .inl (inherited _ rfl worker began found)
      generators := ?_
      calls := fun _ member => .inl member
      seen := fun _ member => .inl member }
  · intro worker
    by_cases here : worker.process = process
    · refine .inr ?_
      change ((before.crashed process).dispatchers worker).Holds _ _
      rw [dead worker here]
      trivial
    · exact .inl (alive worker here)
  · intro worker
    by_cases here : worker.process = process
    · refine .inr ?_
      change (if worker.process = process then GenerationPhase.idle
        else before.generators worker).Holds _
      rw [if_pos here]
      exact GenerationPhase.holds_idle _
    · exact .inl (if_neg here)

theorem resolveOnShutdown_advances
    {now : Instant}
    {database : Database}
    {claim : ClaimedDispatch}
    {outcome : CommitOutcome}
    (consistent : Consistent database) :
    Advances database (resolveOnShutdown database now claim outcome) ∧
      SilentChange database (resolveOnShutdown database now claim outcome) := by
  unfold resolveOnShutdown
  cases finished : finishExternalDispatch database now claim .unknown (some shutdownReason) with
  | none => exact ⟨.refl consistent, .refl database⟩
  | some updated =>
      exact ⟨outcome.store_cases (.refl consistent)
          (finishExternalDispatch_advances consistent finished),
        outcome.store_cases (.refl database)
          (finishExternalDispatch_silent consistent finished)⟩

/-- Every step has such an effect. -/
theorem step_effect
    {action : Action}
    (invariant : Invariant deployment before)
    (stepped : before.step deployment action = some after) :
    StepEffect deployment before after := by
  obtain ⟨next, moved, rfl⟩ := Option.map_eq_some_iff.mp stepped
  have current := invariant.current
  have consistent := current.consistent
  cases action with
  | dispatch worker choice =>
      obtain ⟨move, taken, rfl⟩ := Option.map_eq_some_iff.mp moved
      exact effect_dispatch invariant taken
  | generation worker choice =>
      obtain ⟨move, taken, rfl⟩ := Option.map_eq_some_iff.mp moved
      exact effect_generation invariant taken
  | sweepSends locked limit outcome =>
      obtain rfl := Option.some.inj moved
      obtain ⟨advances, silent⟩ := recoverExpiredSends_advances _ consistent
      exact .of_advances current (outcome.store_cases (.refl consistent) advances)
        (outcome.store_cases (.refl _) silent) rfl ⟨rfl, rfl, rfl, rfl, rfl, rfl, rfl⟩
  | sweepGenerations locked limit outcome =>
      obtain rfl := Option.some.inj moved
      obtain ⟨advances, silent⟩ := recoverExpiredGenerationRows_advances _ consistent
      exact .of_advances current (outcome.store_cases (.refl consistent) advances)
        (outcome.store_cases (.refl _) silent) rfl ⟨rfl, rfl, rfl, rfl, rfl, rfl, rfl⟩
  | requestShutdown process | resume process | drain process | setClock instant =>
      obtain rfl := Option.some.inj moved
      exact .of_advances current (.refl consistent) (.refl _) rfl
        ⟨rfl, rfl, rfl, rfl, rfl, rfl, rfl⟩
  | resolve process outcome =>
      simp only [World.move] at moved
      split at moved
      · cases moved
      · next claim rest _ =>
          obtain rfl := Option.some.inj moved
          obtain ⟨advances, silent⟩ := resolveOnShutdown_advances consistent
          exact .of_advances current advances silent rfl
            ⟨rfl, rfl, rfl, rfl, rfl, rfl, rfl⟩
  | crash process =>
      obtain rfl := Option.some.inj moved
      exact effect_crash invariant
  | request number choice =>
      obtain ⟨move, taken, rfl⟩ := Option.map_eq_some_iff.mp moved
      exact effect_request invariant taken
  | start number operation =>
      simp only [World.move] at moved
      split at moved
      · cases moved
      · obtain rfl := Option.some.inj moved
        exact effect_start invariant
  | native number stimulus =>
      obtain ⟨running, started, rest⟩ := Option.bind_eq_some_iff.mp moved
      obtain ⟨⟨database, thread, asked⟩, taken, rfl⟩ := Option.map_eq_some_iff.mp rest
      exact effect_native invariant started taken
  | stop number =>
      obtain rfl := Option.some.inj moved
      refine .of_silent rfl current (.refl _) rfl rfl rfl (fun _ => .inl rfl) ?_
        (fun _ => .inl rfl)
      intro other running started
      by_cases same : other = number
      · subst same
        change Function.update _ _ _ _ = _ at started
        rw [Function.update_self] at started
        cases started
      · change Function.update _ _ _ _ = _ at started
        rw [Function.update_of_ne same] at started
        exact .inl started

end Step

/-! ## Reachable states -/

theorem Later.empty : Later {} {} where
  extended := .refl {}
  consistent :=
    { Database.wellFormed_empty with
      knownSource := fun _ _ found => by cases found
      managedUnscheduled := fun _ _ found => by cases found
      linked := fun _ _ found => by cases found
      agreement := fun _ _ found => by cases found
      ownMessage := Table.UniqueBy.empty }
  inbox :=
    { received := fun _ _ found => by cases found
      unsubscribed := fun _ _ _ found => by cases found
      delivered := fun _ _ _ found => by cases found
      retained := fun _ _ found => by cases found }

theorem Invariant.initial
    (deployment : Deployment)
    (clock : Instant) :
    Invariant deployment { clock := clock } where
  current := Later.empty
  requests _ := trivial
  natives _ _ started := by cases started
  dispatchers _ := trivial
  exclusive _ _ _ prepared := by cases prepared
  began _ _ found := by cases found
  generators _ := GenerationPhase.holds_idle _
  truthful _ := rfl
  calls _ member := by cases member
  seen _ member := by cases member

theorem Invariant.of_reachable
    {deployment : Deployment}
    {world : World}
    (reachable : (system deployment).Reachable world) :
    Invariant deployment world := by
  refine reachable.invariant ?_ ?_
  · rintro _ ⟨clock, rfl⟩
    exact .initial deployment clock
  · intro before action after _ invariant stepped
    exact invariant.step (step_effect invariant stepped)

/-- The effect of a step from a reachable state. -/
theorem effect_of_reachable
    {deployment : Deployment}
    {before after : World}
    {action : Action}
    (reachable : (system deployment).Reachable before)
    (stepped : (system deployment).step before action = some after) :
    StepEffect deployment before after :=
  step_effect (.of_reachable reachable) stepped

/-- Along a run the database only becomes later. -/
theorem extends_of_reaches
    {deployment : Deployment}
    {before after : World}
    (reachable : (system deployment).Reachable before)
    (reaches : (system deployment).Reaches before after) :
    before.database.Extends after.database := by
  refine reaches.invariant (fun world => before.database.Extends world.database) reachable
    (.refl before.database) ?_
  intro _ _ _ reached extended stepped
  exact extended.trans (effect_of_reachable reached stepped).later.extended

/-! ## Concrete runs -/

/-- A state with a decidable property that a list of actions leads to. -/
theorem reachable_of_any
    (deployment : Deployment)
    (actions : List Action)
    (property : World → Bool)
    (ran : ((system deployment).run {} actions).any property = true) :
    ∃ world, (system deployment).Reachable world ∧ property world = true := by
  have initial : (system deployment).initial {} := ⟨0, rfl⟩
  exact Transition.System.exists_reachable_of_run initial actions property ran

namespace Sample

/-- Services of a small installation. -/
def services : Services where
  validateGrounding _ _ := { isGrounded := true }
  decryptSecret := .plaintext
  encryptSecret := some
  sha256Hex := id
  lower := id
  sqlLower := id
  validateEmail := some
  showInstant _ := "at"
  showList _ := "[]"
  showMembers _ := "[]"
  loadsTimeZone := true
  buildConversationContext _ _ := ""

/-- An installation that sends. -/
def deployment : Deployment where
  settings :=
    { liveSendingEnabled := true, leadboostIntegrationSenderEmail := "out@leadboost.test" }
  services := services

/-- A mail server that accepts everything. -/
def accepts : SendBehaviour :=
  .runs (fun domain => "<id@" ++ domain ++ ">") fun _ => {}

/-- Answers of an environment in which everything works. -/
def answer : (signal : Signal) → signal.Reply
  | .begin => ()
  | .utcnow => (0 : Instant)
  | .newReference => "reference"
  | .sendEmail _ _ _ => accepts
  | .draftMessage _ _ =>
      .drafted { subject := some "subject", body := "body", grounding := none }
  | .classify _ _ _ => .error "unavailable"
  | .planReply _ _ => .error "unavailable"
  | .summarize _ _ => .unavailable
  | .login _ => .ok ()
  | .select => .ok ()
  | .search => .ok []
  | .fetch _ => .refused
  | .leftUnseen _ => ()
  | .storeSeen _ _ _ => .ok ()
  | .fetchUnseenReplies => ([] : List InboundEmail)

/-- A step of a native operation in which everything works. -/
def proceed (number : Nat) : Action := .native number { answer := answer }

end Sample

end MailerAgent
