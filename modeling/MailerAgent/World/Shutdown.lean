import Mathlib.Data.Finset.Card
import MailerAgent.World.Delivery

/-!
# Shutdown of the dispatch workers

The in-memory record of one process: the attempts to claim that are open, and the claims
that are in flight. A claim is registered and unregistered under the key of its dispatch,
so a thread that is late to unregister removes the claim of the thread that claimed the
same dispatch after it.
-/

namespace MailerAgent

open Concurrent Relational Mail Dispatch Intake Native

/-! ## The bookkeeping of one thread -/

/-- The claim that a thread has registered and has yet to unregister. -/
def Dispatch.DispatchPhase.held : DispatchPhase → Option ClaimedDispatch
  | .registered _ claim => some claim
  | .decided _ claim _ => some claim
  | .prepared _ claim _ => some claim
  | .reporting claim _ _ _ => some claim
  | .annotating claim _ _ => some claim
  | .closing claim => some claim
  | _ => none

/-- The thread has an open attempt to claim. -/
def Dispatch.DispatchPhase.attempts : DispatchPhase → Bool
  | .attempting => true
  | .claimed _ _ => true
  | .abandoning => true
  | _ => false

/-- What a step of a thread does to the runtime of its process. -/
inductive Booked (runtime : DispatchRuntime) :
    DispatchPhase → DispatchRuntime → DispatchPhase → Prop where
  | begins (serving : runtime.stopping = false) :
      Booked runtime .idle { runtime with claimAttempts := runtime.claimAttempts + 1 }
        .attempting
  | attempts
      {phase next : DispatchPhase}
      (before : phase.attempts = true)
      (after : next.attempts = true) :
      Booked runtime phase runtime next
  | registers
      {began : Nat}
      {claim : ClaimedDispatch}
      (admitted : runtime.claimAttempts ≠ 0) :
      Booked runtime (.claimed began claim)
        { runtime.register claim with claimAttempts := runtime.claimAttempts - 1 }
        (.registered began claim)
  | holds
      {phase next : DispatchPhase}
      (claim : ClaimedDispatch)
      (before : phase.held = some claim)
      (after : next.held = some claim) :
      Booked runtime phase runtime next
  | closes {claim : ClaimedDispatch} :
      Booked runtime (.closing claim) (runtime.unregister claim.dispatchId) .idle
  | abandons (admitted : runtime.claimAttempts ≠ 0) :
      Booked runtime .abandoning
        { runtime with claimAttempts := runtime.claimAttempts - 1 } .idle

section Thread

variable {deployment : Deployment} {database : Database} {clock : Instant} {position : Nat}
variable {runtime : DispatchRuntime}

theorem held_afterGates
    (began : Nat)
    (claim : ClaimedDispatch)
    (result : Except GateExit ReadySend) :
    (afterGates began claim result).held = some claim := by
  cases result with
  | ok ready => rfl
  | error exit => cases exit <;> rfl

theorem held_retryOutcome
    (claim : ClaimedDispatch)
    (ready : ReadySend)
    (report : SendReport)
    (remaining : Nat) :
    (retryOutcome claim ready report remaining).held = some claim := by
  cases remaining <;> rfl

theorem held_commitDecision
    {now : Instant}
    (began : Nat)
    (claim : ClaimedDispatch)
    (outcome : CommitOutcome)
    (decision : Except String ReadySend) :
    (commitDecision database now began claim outcome decision).2.held = some claim := by
  cases decision with
  | error reason => rfl
  | ok ready =>
      unfold commitDecision
      dsimp only
      split
      · rfl
      · dsimp only
        split <;> rfl

theorem held_recordOutcome
    {now : Instant}
    (claim : ClaimedDispatch)
    (ready : ReadySend)
    (report : SendReport)
    (remaining : Nat)
    (outcome : CommitOutcome) :
    (recordOutcome database now claim ready report remaining outcome).2.held = some claim := by
  unfold recordOutcome
  split <;> dsimp only <;> split
  · rfl
  · exact held_retryOutcome claim ready report remaining
  · rfl
  · exact held_retryOutcome claim ready report remaining

/-- Every step of a thread is one of those. -/
theorem booked_of_dispatchStep
    {phase : DispatchPhase}
    {choice : DispatchChoice}
    {move : DispatchMove}
    (stepped : dispatchStep deployment database clock position runtime phase choice =
      some move) :
    Booked runtime phase move.runtime move.phase := by
  unfold dispatchStep at stepped
  split at stepped
  · obtain ⟨admitted, begun, rfl⟩ := Option.map_eq_some_iff.mp stepped
    unfold DispatchRuntime.beginClaimAttempt at begun
    split at begun
    · cases begun
    · next serving =>
        cases begun
        exact .begins (Bool.eq_false_iff.mpr serving)
  · split at stepped <;> cases stepped <;> exact .attempts rfl rfl
  · cases stepped
    exact .attempts rfl rfl
  · obtain ⟨registered, done, rfl⟩ := Option.map_eq_some_iff.mp stepped
    unfold DispatchRuntime.registerClaimAttempt at done
    split at done
    · cases done
    · next admitted =>
        cases done
        exact .registers admitted
  · next began claim makeMsgid =>
      obtain ⟨row, -, rfl⟩ := Option.map_eq_some_iff.mp stepped
      exact .holds claim rfl (held_afterGates began claim _)
  · next claim =>
      cases stepped
      exact .holds claim rfl rfl
  · next began claim decision outcome =>
      cases stepped
      exact .holds claim rfl (held_commitDecision began claim outcome decision)
  · next claim _ =>
      cases stepped
      exact .holds claim rfl rfl
  · next claim ready behaviour =>
      cases stepped
      exact .holds claim rfl rfl
  · next claim ready report remaining outcome =>
      cases stepped
      exact .holds claim rfl (held_recordOutcome claim ready report remaining outcome)
  · next claim ready report remaining =>
      cases stepped
      exact .holds claim rfl (held_retryOutcome claim ready report remaining)
  · next claim ready report outcome =>
      cases stepped
      exact .holds claim rfl rfl
  · next claim _ _ =>
      cases stepped
      exact .holds claim rfl rfl
  · cases stepped
    exact .closes
  · obtain ⟨released, ended, rfl⟩ := Option.map_eq_some_iff.mp stepped
    unfold DispatchRuntime.endClaimAttempt at ended
    split at ended
    · cases ended
    · next admitted =>
        cases ended
        exact .abandons admitted
  · cases stepped

theorem attempts_of_held
    {phase : DispatchPhase}
    {claim : ClaimedDispatch}
    (held : phase.held = some claim) :
    phase.attempts = false := by
  cases phase <;> first | rfl | cases held

theorem held_of_attempts
    {phase : DispatchPhase}
    (attempts : phase.attempts = true) :
    phase.held = none := by
  cases phase <;> first | rfl | cases attempts

theorem eq_idle_of_not_held
    {phase : DispatchPhase}
    (held : phase.held = none)
    (attempts : phase.attempts = false) :
    phase = .idle := by
  cases phase <;> first | rfl | (cases held; done) | cases attempts

/-- The counter follows the attempts of the thread. -/
theorem Booked.counts
    {after : DispatchRuntime}
    {phase next : DispatchPhase}
    (booked : Booked runtime phase after next) :
    (next.attempts = phase.attempts ∧ after.claimAttempts = runtime.claimAttempts) ∨
    (phase.attempts = false ∧ next.attempts = true ∧
      after.claimAttempts = runtime.claimAttempts + 1) ∨
    (phase.attempts = true ∧ next.attempts = false ∧
      after.claimAttempts = runtime.claimAttempts - 1) := by
  cases booked with
  | begins serving => exact .inr (.inl ⟨rfl, rfl, rfl⟩)
  | attempts before after => exact .inl ⟨after.trans before.symm, rfl⟩
  | registers admitted => exact .inr (.inr ⟨rfl, rfl, rfl⟩)
  | holds claim before after =>
      exact .inl ⟨(attempts_of_held after).trans (attempts_of_held before).symm, rfl⟩
  | closes => exact .inl ⟨rfl, rfl⟩
  | abandons admitted => exact .inr (.inr ⟨rfl, rfl, rfl⟩)

end Thread

/-! ## The bookkeeping of all threads -/

/-- What a step of the program does to the runtimes and to the dispatch threads. -/
inductive Bookkept (before after : World) : Action → Prop where
  | dispatch
      {worker : Worker}
      {choice : DispatchChoice}
      {runtime : DispatchRuntime}
      {phase : DispatchPhase}
      (booked : Booked (before.runtimes worker.process) (before.dispatchers worker) runtime
        phase)
      (runtimes : after.runtimes = Function.update before.runtimes worker.process runtime)
      (dispatchers : after.dispatchers = Function.update before.dispatchers worker phase) :
      Bookkept before after (.dispatch worker choice)
  | crash
      {process : Nat}
      (runtimes : after.runtimes = Function.update before.runtimes process {})
      (dispatchers : after.dispatchers = fun worker =>
        if worker.process = process then .idle else before.dispatchers worker) :
      Bookkept before after (.crash process)
  | other
      {action : Action}
      (inflight : ∀ process,
        (after.runtimes process).inflight = (before.runtimes process).inflight)
      (attempts : ∀ process,
        (after.runtimes process).claimAttempts = (before.runtimes process).claimAttempts)
      (stopping : ∀ process, action ≠ .resume process →
        (before.runtimes process).stopping = true → (after.runtimes process).stopping = true)
      (dispatchers : after.dispatchers = before.dispatchers) :
      Bookkept before after action

/-- A step that touches neither runtimes nor dispatch threads. -/
theorem Bookkept.of_same
    {before after : World}
    {action : Action}
    (runtimes : after.runtimes = before.runtimes)
    (dispatchers : after.dispatchers = before.dispatchers) :
    Bookkept before after action := by
  refine .other ?_ ?_ ?_ dispatchers
  · intro process
    rw [runtimes]
  · intro process
    rw [runtimes]
  · intro process _ stopping
    rw [runtimes]
    exact stopping

theorem update_cases
    {Key Value Result : Type}
    [DecidableEq Key]
    {function : Key → Value}
    {key : Key}
    {value : Value}
    (read : Value → Result)
    (same : read value = read (function key))
    (other : Key) :
    read (Function.update function key value other) = read (function other) := by
  by_cases equal : other = key
  · subst equal
    rw [Function.update_self]
    exact same
  · rw [Function.update_of_ne equal]

theorem bookkept_of_step
    {deployment : Deployment}
    {before after : World}
    {action : Action}
    (stepped : before.step deployment action = some after) :
    Bookkept before after action := by
  obtain ⟨next, moved, rfl⟩ := Option.map_eq_some_iff.mp stepped
  cases action with
  | dispatch worker choice =>
      obtain ⟨move, taken, rfl⟩ := Option.map_eq_some_iff.mp moved
      exact .dispatch (booked_of_dispatchStep taken) rfl rfl
  | crash process =>
      obtain rfl := Option.some.inj moved
      exact .crash rfl rfl
  | generation | request =>
      obtain ⟨move, taken, rfl⟩ := Option.map_eq_some_iff.mp moved
      exact .of_same rfl rfl
  | sweepSends | sweepGenerations | drain | stop | setClock =>
      obtain rfl := Option.some.inj moved
      exact .of_same rfl rfl
  | requestShutdown process =>
      obtain rfl := Option.some.inj moved
      refine .other (update_cases _ rfl) (update_cases _ rfl) ?_ rfl
      intro other _ stopping
      change (Function.update before.runtimes process _ other).stopping = true
      by_cases equal : other = process
      · subst equal
        rw [Function.update_self]
        rfl
      · rw [Function.update_of_ne equal]
        exact stopping
  | resume process =>
      obtain rfl := Option.some.inj moved
      refine .other (update_cases _ ?_) (update_cases _ ?_) ?_ rfl
      · unfold DispatchRuntime.resumeIfIdle
        split <;> rfl
      · unfold DispatchRuntime.resumeIfIdle
        split <;> rfl
      · intro other unequal stopping
        have differs : other ≠ process := fun same => unequal (same ▸ rfl)
        change (Function.update before.runtimes process _ other).stopping = true
        rw [Function.update_of_ne differs]
        exact stopping
  | resolve process outcome =>
      simp only [World.move] at moved
      split at moved
      · cases moved
      · obtain rfl := Option.some.inj moved
        exact .of_same rfl rfl
  | start number operation =>
      simp only [World.move] at moved
      split at moved
      · cases moved
      · obtain rfl := Option.some.inj moved
        exact .of_same rfl rfl
  | native number stimulus =>
      obtain ⟨running, -, rest⟩ := Option.bind_eq_some_iff.mp moved
      obtain ⟨_, -, rfl⟩ := Option.map_eq_some_iff.mp rest
      exact .of_same rfl rfl

/-! ## The counter of attempts -/

/-- The open attempts of a process are as many as its runtime counts. -/
def Counted (world : World) : Prop :=
  ∀ process, ∃ threads : Finset Nat,
    (∀ thread, thread ∈ threads ↔
      (world.dispatchers ⟨process, thread⟩).attempts = true) ∧
    threads.card = (world.runtimes process).claimAttempts

section Counter

variable {deployment : Deployment} {before after world : World} {action : Action}

theorem Counted.initial (clock : Instant) : Counted { clock := clock } :=
  fun _ => ⟨∅, fun _ => by simp [DispatchPhase.attempts], rfl⟩

/-- The attempts of a process of which one thread took a step. -/
theorem Counted.booked
    {worker : Worker}
    {runtime : DispatchRuntime}
    {phase : DispatchPhase}
    (counted : Counted before)
    (booked : Booked (before.runtimes worker.process) (before.dispatchers worker) runtime
      phase) :
    ∃ threads : Finset Nat,
      (∀ thread, thread ∈ threads ↔
        (Function.update before.dispatchers worker phase
          ⟨worker.process, thread⟩).attempts = true) ∧
      threads.card = runtime.claimAttempts := by
  obtain ⟨threads, members, card⟩ := counted worker.process
  -- Only the membership of the thread itself may change.
  have elsewhere : ∀ thread, thread ≠ worker.thread →
      (thread ∈ threads ↔ (Function.update before.dispatchers worker phase
        ⟨worker.process, thread⟩).attempts = true) := by
    intro thread differs
    have unequal : (⟨worker.process, thread⟩ : Worker) ≠ worker :=
      fun same => differs (congrArg Worker.thread same)
    rw [Function.update_of_ne unequal]
    exact members thread
  have here : Function.update before.dispatchers worker phase
      ⟨worker.process, worker.thread⟩ = phase :=
    Function.update_self ..
  have member : worker.thread ∈ threads ↔ (before.dispatchers worker).attempts = true :=
    members worker.thread
  rcases booked.counts with ⟨same, kept⟩ | ⟨started, ended, counts⟩ | ⟨started, ended, counts⟩
  · refine ⟨threads, fun thread => ?_, card.trans kept.symm⟩
    by_cases itself : thread = worker.thread
    · subst itself
      rw [here, same]
      exact member
    · exact elsewhere thread itself
  · have new : worker.thread ∉ threads := fun old => by
      rw [member.mp old] at started
      cases started
    refine ⟨insert worker.thread threads, fun thread => ?_, ?_⟩
    · by_cases itself : thread = worker.thread
      · subst itself
        rw [here]
        exact ⟨fun _ => ended, fun _ => Finset.mem_insert_self ..⟩
      · rw [Finset.mem_insert, or_iff_right itself]
        exact elsewhere thread itself
    · rw [Finset.card_insert_of_notMem new, card, counts]
  · refine ⟨threads.erase worker.thread, fun thread => ?_, ?_⟩
    · by_cases itself : thread = worker.thread
      · subst itself
        rw [here, ended]
        exact ⟨fun old => (Finset.notMem_erase _ _ old).elim, nofun⟩
      · rw [Finset.mem_erase, and_iff_right itself]
        exact elsewhere thread itself
    · rw [Finset.card_erase_of_mem (member.mpr started), card, counts]

theorem Counted.step
    (counted : Counted before)
    (stepped : before.step deployment action = some after) :
    Counted after := by
  intro process
  cases bookkept_of_step stepped with
  | @dispatch worker choice runtime phase booked runtimes dispatchers =>
      rw [runtimes, dispatchers]
      by_cases own : process = worker.process
      · subst own
        rw [Function.update_self]
        exact counted.booked booked
      · obtain ⟨threads, members, card⟩ := counted process
        rw [Function.update_of_ne own]
        refine ⟨threads, fun thread => ?_, card⟩
        have unequal : (⟨process, thread⟩ : Worker) ≠ worker :=
          fun same => own (congrArg Worker.process same)
        rw [Function.update_of_ne unequal]
        exact members thread
  | @crash dead runtimes dispatchers =>
      rw [runtimes, dispatchers]
      by_cases own : process = dead
      · subst own
        rw [Function.update_self]
        exact ⟨∅, fun thread => by simp [DispatchPhase.attempts], rfl⟩
      · obtain ⟨threads, members, card⟩ := counted process
        rw [Function.update_of_ne own]
        refine ⟨threads, fun thread => ?_, card⟩
        dsimp only
        rw [if_neg own]
        exact members thread
  | other inflight attempts stopping dispatchers =>
      obtain ⟨threads, members, card⟩ := counted process
      rw [dispatchers]
      exact ⟨threads, members, card.trans (attempts process).symm⟩

theorem Counted.of_reachable (reachable : (system deployment).Reachable world) :
    Counted world :=
  reachable.invariant (fun _ ⟨clock, start⟩ => start ▸ Counted.initial clock)
    fun _ _ _ _ counted stepped => counted.step stepped

/-- While a thread has an open attempt the counter is not zero. -/
theorem Counted.admitted
    {worker : Worker}
    (counted : Counted world)
    (attempts : (world.dispatchers worker).attempts = true) :
    (world.runtimes worker.process).claimAttempts ≠ 0 := by
  obtain ⟨threads, members, card⟩ := counted worker.process
  have member : worker.thread ∈ threads := (members worker.thread).mpr attempts
  rw [← card]
  exact Finset.card_ne_zero_of_mem member

end Counter

/-! ## The claims in flight -/

/-- The other threads of the process. -/
def Beside (worker other : Worker) : Prop :=
  other ≠ worker ∧ other.process = worker.process

/-- When a thread registers its claim, no other thread of the process has yet to
unregister a claim of the same dispatch. -/
def Undisturbed (world : World) : Action → Prop
  | .dispatch worker _ =>
      ∀ began claim, world.dispatchers worker = .claimed began claim →
        ∀ other held, Beside worker other → (world.dispatchers other).held = some held →
          held.dispatchId ≠ claim.dispatchId
  | _ => True

/-- The claims that the threads hold are in flight, and no two threads of a process hold
claims of one dispatch. -/
structure InFlight (world : World) : Prop where
  separate : ∀ worker other claim same, worker.process = other.process →
    (world.dispatchers worker).held = some claim →
    (world.dispatchers other).held = some same →
    claim.dispatchId = same.dispatchId → worker = other
  tracked : ∀ worker claim, (world.dispatchers worker).held = some claim →
    claim ∈ (world.runtimes worker.process).inflight

section Claims

variable {deployment : Deployment} {before after world : World} {action : Action}

theorem InFlight.initial (clock : Instant) : InFlight { clock := clock } :=
  ⟨nofun, nofun⟩

/-- A thread took a step after which its claim and those of the other threads of its
process are in flight. -/
theorem InFlight.moved
    {worker : Worker}
    {runtime : DispatchRuntime}
    {phase : DispatchPhase}
    (inFlight : InFlight before)
    (runtimes : after.runtimes = Function.update before.runtimes worker.process runtime)
    (dispatchers : after.dispatchers = Function.update before.dispatchers worker phase)
    (own : ∀ claim, phase.held = some claim → claim ∈ runtime.inflight ∧
      ∀ other held, Beside worker other → (before.dispatchers other).held = some held →
        held.dispatchId ≠ claim.dispatchId)
    (others : ∀ other held, Beside worker other →
      (before.dispatchers other).held = some held → held ∈ runtime.inflight) :
    InFlight after := by
  have itself : after.dispatchers worker = phase := by
    rw [dispatchers, Function.update_self]
  have elsewhere : ∀ other, other ≠ worker →
      after.dispatchers other = before.dispatchers other := by
    intro other differs
    rw [dispatchers, Function.update_of_ne differs]
  constructor
  · intro first second claim same together held heldSame dispatch
    by_cases firstMoved : first = worker <;> by_cases secondMoved : second = worker
    · exact firstMoved.trans secondMoved.symm
    · subst firstMoved
      rw [itself] at held
      rw [elsewhere second secondMoved] at heldSame
      exact absurd dispatch.symm
        ((own claim held).2 second same ⟨secondMoved, together.symm⟩ heldSame)
    · subst secondMoved
      rw [itself] at heldSame
      rw [elsewhere first firstMoved] at held
      exact absurd dispatch ((own same heldSame).2 first claim ⟨firstMoved, together⟩ held)
    · rw [elsewhere first firstMoved] at held
      rw [elsewhere second secondMoved] at heldSame
      exact inFlight.separate first second claim same together held heldSame dispatch
  · intro other claim held
    by_cases moved : other = worker
    · subst moved
      rw [itself] at held
      rw [runtimes, Function.update_self]
      exact (own claim held).1
    · rw [elsewhere other moved] at held
      rw [runtimes]
      by_cases together : other.process = worker.process
      · rw [together, Function.update_self]
        exact others other claim ⟨moved, together⟩ held
      · rw [Function.update_of_ne together]
        exact inFlight.tracked other claim held

theorem InFlight.beside
    {worker other : Worker}
    {held : ClaimedDispatch}
    (inFlight : InFlight before)
    (beside : Beside worker other)
    (holds : (before.dispatchers other).held = some held) :
    held ∈ (before.runtimes worker.process).inflight := by
  rw [← beside.2]
  exact inFlight.tracked other held holds

theorem InFlight.step
    (inFlight : InFlight before)
    (undisturbed : Undisturbed before action)
    (stepped : before.step deployment action = some after) :
    InFlight after := by
  cases bookkept_of_step stepped with
  | @dispatch worker choice runtime phase booked runtimes dispatchers =>
      generalize stood : before.dispatchers worker = earlier at booked
      cases booked with
      | begins serving =>
          refine inFlight.moved runtimes dispatchers nofun ?_
          intro other held beside holds
          exact inFlight.beside beside holds
      | attempts attempted attempts =>
          refine inFlight.moved runtimes dispatchers ?_ ?_
          · intro claim held
            rw [held_of_attempts attempts] at held
            cases held
          · intro other held beside holds
            exact inFlight.beside beside holds
      | @registers began claim admitted =>
          have others := undisturbed began claim stood
          refine inFlight.moved runtimes dispatchers ?_ ?_
          · rintro same ⟨⟩
            exact ⟨List.mem_append_right _ (List.mem_singleton_self claim), others⟩
          · intro other held beside holds
            refine List.mem_append_left _ (List.mem_filter.mpr
              ⟨inFlight.beside beside holds, ?_⟩)
            exact bne_iff_ne.mpr (others other held beside holds)
      | holds claim heldBefore heldAfter =>
          refine inFlight.moved runtimes dispatchers ?_ ?_
          · intro same held
            cases heldAfter.symm.trans held
            rw [← stood] at heldBefore
            refine ⟨inFlight.tracked worker claim heldBefore, ?_⟩
            intro other held beside holds same
            exact beside.1 (inFlight.separate other worker held claim beside.2 holds
              heldBefore same)
          · intro other held beside holds
            exact inFlight.beside beside holds
      | @closes claim =>
          refine inFlight.moved runtimes dispatchers nofun ?_
          intro other held beside holds
          refine List.mem_filter.mpr ⟨inFlight.beside beside holds, ?_⟩
          have closing : (before.dispatchers worker).held = some claim := by
            rw [stood]
            rfl
          refine bne_iff_ne.mpr fun same => ?_
          exact beside.1 (inFlight.separate other worker held claim beside.2 holds closing same)
      | abandons admitted =>
          refine inFlight.moved runtimes dispatchers nofun ?_
          intro other held beside holds
          exact inFlight.beside beside holds
  | @crash dead runtimes dispatchers =>
      -- The threads that still hold a claim belong to other processes.
      have alive : ∀ worker claim, (after.dispatchers worker).held = some claim →
          worker.process ≠ dead ∧ (before.dispatchers worker).held = some claim := by
        intro worker claim held
        rw [dispatchers] at held
        dsimp only at held
        split at held
        · cases held
        · next other => exact ⟨other, held⟩
      constructor
      · intro first second claim same together held heldSame
        exact inFlight.separate first second claim same together (alive first claim held).2
          (alive second same heldSame).2
      · intro worker claim held
        obtain ⟨other, heldBefore⟩ := alive worker claim held
        rw [runtimes, Function.update_of_ne other]
        exact inFlight.tracked worker claim heldBefore
  | other inflight attempts stopping dispatchers =>
      constructor
      · rw [dispatchers]
        exact inFlight.separate
      · intro worker claim held
        rw [dispatchers] at held
        rw [inflight]
        exact inFlight.tracked worker claim held

theorem InFlight.of_reachableWhen
    (reachable : (system deployment).ReachableWhen Undisturbed world) :
    InFlight world :=
  reachable.invariant (fun _ ⟨clock, start⟩ => start ▸ InFlight.initial clock)
    fun _ _ _ inFlight undisturbed stepped => inFlight.step undisturbed stepped

end Claims

/-! ## After the drain -/

/-- Shutdown was requested, and `drain` returns true. -/
structure Drained
    (world : World)
    (process : Nat) : Prop where
  stopping : (world.runtimes process).stopping = true
  finished : (world.runtimes process).inflight = []
  unattempted : (world.runtimes process).claimAttempts = 0

/-- The process is stopped, and its threads are idle. -/
structure Stopped
    (world : World)
    (process : Nat) : Prop extends Drained world process where
  idle : ∀ worker, worker.process = process → world.dispatchers worker = .idle

section Drain

variable {deployment : Deployment} {before after world : World} {action : Action}
variable {process : Nat}

/-- What drained has no thread at work. -/
theorem Drained.stopped
    (drained : Drained world process)
    (counted : Counted world)
    (inFlight : InFlight world) :
    Stopped world process := by
  refine ⟨drained, ?_⟩
  rintro worker rfl
  apply eq_idle_of_not_held
  · cases held : (world.dispatchers worker).held with
    | none => rfl
    | some claim =>
        have tracked := inFlight.tracked worker claim held
        rw [drained.finished] at tracked
        exact (List.not_mem_nil tracked).elim
  · cases attempts : (world.dispatchers worker).attempts with
    | false => rfl
    | true => exact absurd drained.unattempted (counted.admitted attempts)

/-- No thread of a stopped process takes a step. -/
theorem Stopped.refuses
    {worker : Worker}
    (stopped : Stopped world process)
    (own : worker.process = process)
    (choice : DispatchChoice) :
    world.step deployment (.dispatch worker choice) = none := by
  have refused : dispatchStep deployment world.database world.clock world.position
      (world.runtimes worker.process) (world.dispatchers worker) choice = none := by
    rw [stopped.idle worker own]
    cases choice with
    | begin =>
        simp only [dispatchStep, DispatchRuntime.beginClaimAttempt, own, stopped.stopping]
        rfl
    | _ => rfl
  simp only [World.step, World.move, refused, Option.map_none]

theorem Stopped.step
    (stopped : Stopped before process)
    (unresumed : action ≠ .resume process)
    (alive : action ≠ .crash process)
    (stepped : before.step deployment action = some after) :
    Stopped after process := by
  cases bookkept_of_step stepped with
  | @dispatch worker choice runtime phase booked runtimes dispatchers =>
      by_cases own : process = worker.process
      · rw [stopped.refuses own.symm choice] at stepped
        cases stepped
      · refine ⟨⟨?_, ?_, ?_⟩, ?_⟩
        · rw [runtimes, Function.update_of_ne own]
          exact stopped.stopping
        · rw [runtimes, Function.update_of_ne own]
          exact stopped.finished
        · rw [runtimes, Function.update_of_ne own]
          exact stopped.unattempted
        · intro other same
          have differs : other ≠ worker := fun equal => own (equal ▸ same.symm)
          rw [dispatchers, Function.update_of_ne differs]
          exact stopped.idle other same
  | @crash dead runtimes dispatchers =>
      have own : process ≠ dead := fun same => alive (same ▸ rfl)
      refine ⟨⟨?_, ?_, ?_⟩, ?_⟩
      · rw [runtimes, Function.update_of_ne own]
        exact stopped.stopping
      · rw [runtimes, Function.update_of_ne own]
        exact stopped.finished
      · rw [runtimes, Function.update_of_ne own]
        exact stopped.unattempted
      · intro other same
        rw [dispatchers]
        dsimp only
        split
        · rfl
        · exact stopped.idle other same
  | other inflight attempts stopping dispatchers =>
      refine ⟨⟨stopping process unresumed stopped.stopping,
        (inflight process).trans stopped.finished,
        (attempts process).trans stopped.unattempted⟩, ?_⟩
      rw [dispatchers]
      exact stopped.idle

end Drain

/-- The process neither resumes nor dies. -/
def StaysDown
    (process : Nat)
    (_ : World)
    (action : Action) : Prop :=
  action ≠ .resume process ∧ action ≠ .crash process

/-- In every run the counter of a process is the number of its open attempts, and neither
`RuntimeError` is raised. In every run in which no thread registers a claim of a dispatch
before the other threads of its process unregistered theirs, the claim of each thread from
its registration until it is unregistered is in flight; and after a shutdown was requested
and the drain returned true, until the process resumes or dies, its threads stay idle and
none takes a step. -/
theorem shutdown_bookkeeping (deployment : Deployment) :
    (∀ world, (system deployment).Reachable world → Counted world ∧
      ∀ worker,
        (∀ began claim, world.dispatchers worker = .claimed began claim →
          (world.runtimes worker.process).registerClaimAttempt claim ≠ none) ∧
        (world.dispatchers worker = .abandoning →
          (world.runtimes worker.process).endClaimAttempt ≠ none)) ∧
    ∀ world, (system deployment).ReachableWhen Undisturbed world →
      (∀ worker claim, (world.dispatchers worker).held = some claim →
        claim ∈ (world.runtimes worker.process).inflight) ∧
      ∀ process, Drained world process →
        ∀ later, (system deployment).ReachesWhen (StaysDown process) world later →
          ∀ worker, worker.process = process → later.dispatchers worker = .idle ∧
            ∀ choice, later.step deployment (.dispatch worker choice) = none := by
  constructor
  · intro world reachable
    have counted := Counted.of_reachable reachable
    refine ⟨counted, fun worker => ⟨?_, ?_⟩⟩
    · intro began claim claimed refused
      have admitted := @Counted.admitted world worker counted (by rw [claimed]; rfl)
      unfold DispatchRuntime.registerClaimAttempt at refused
      rw [if_neg admitted] at refused
      cases refused
    · intro abandoning refused
      have admitted := @Counted.admitted world worker counted (by rw [abandoning]; rfl)
      unfold DispatchRuntime.endClaimAttempt at refused
      rw [if_neg admitted] at refused
      cases refused
  · intro world reachable
    have inFlight := InFlight.of_reachableWhen reachable
    refine ⟨inFlight.tracked, ?_⟩
    intro process drained later reaches worker own
    have stopped := reaches.invariant (fun world => Stopped world process)
      (drained.stopped (Counted.of_reachable reachable.reachable) inFlight)
      fun _ _ _ stopped down stepped => stopped.step down.1 down.2 stepped
    exact ⟨stopped.idle worker own, stopped.refuses own⟩

/-! ## One thread and two threads -/

/-- The action is not one of another dispatch thread. -/
def onlyBy (worker : Worker) : Action → Bool
  | .dispatch other _ => other == worker
  | _ => true

/-- A run with one dispatch thread is undisturbed. -/
theorem reachableWhen_of_single
    {deployment : Deployment}
    {world : World}
    {worker : Worker}
    {actions : List Action}
    (single : actions.all (onlyBy worker) = true)
    (ran : (system deployment).run {} actions = some world) :
    (system deployment).ReachableWhen Undisturbed world := by
  have only : ∀ other choice, .dispatch other choice ∈ actions → other = worker :=
    fun other choice member => beq_iff_eq.mp (List.all_eq_true.mp single _ member)
  refine ⟨{}, ⟨0, rfl⟩, ?_⟩
  refine Transition.System.reachesWhen_of_run
    (fun state => ∀ other, other ≠ worker → state.dispatchers other = .idle)
    (fun _ _ => rfl) ?_ ?_ ran
  · intro state action member idle
    cases action with
    | dispatch moving choice =>
        obtain rfl := only moving choice member
        intro began claim claimed other held beside holds
        rw [idle other beside.1] at holds
        cases holds
    | _ => trivial
  · intro state action next member idle stepped other differs
    cases bookkept_of_step stepped with
    | @dispatch moving choice runtime phase booked runtimes dispatchers =>
        obtain rfl := only moving choice member
        rw [dispatchers, Function.update_of_ne differs]
        exact idle other differs
    | crash runtimes dispatchers =>
        rw [dispatchers]
        dsimp only
        split
        · rfl
        · exact idle other differs
    | other inflight attempts stopping dispatchers =>
        rw [dispatchers]
        exact idle other differs

namespace Sample

/-- The accepted dispatch is sent, and its process shuts down. -/
def deliveryAndShutdown : List Action :=
  acceptance ++
    [.dispatch worker .begin, .dispatch worker (.claim "w" []), .dispatch worker .register,
      .dispatch worker (.evaluate fun domain => "<1@" ++ domain ++ ">"),
      .dispatch worker (.commit .committed), .dispatch worker (.send accepts),
      .dispatch worker (.commit .committed), .dispatch worker .close, .requestShutdown 0]

/-- A second thread of the process. -/
def secondWorker : Worker := ⟨0, 1⟩

/-- A database error ends the first thread's Transaction B. Before it unregisters its claim,
the second thread claims the dispatch and commits its own Transaction B. Then the process
shuts down. -/
def overtakenShutdown : List Action :=
  acceptance ++
    [.dispatch worker .begin, .dispatch worker (.claim "w" []), .dispatch worker .register,
      .dispatch worker .databaseError, .dispatch secondWorker .begin,
      .dispatch secondWorker (.claim "v" []), .dispatch secondWorker .register,
      .dispatch secondWorker (.evaluate fun domain => "<1@" ++ domain ++ ">"),
      .dispatch secondWorker (.commit .committed), .dispatch worker .close,
      .requestShutdown 0]

/-- `drain` returns true after a shutdown was requested. -/
def drained (runtime : DispatchRuntime) : Bool :=
  runtime.stopping && runtime.inflight.isEmpty && runtime.claimAttempts == 0

theorem drained_of_runtime
    {world : World}
    {process : Nat}
    (holds : drained (world.runtimes process) = true) :
    Drained world process := by
  simp only [drained, Bool.and_eq_true, List.isEmpty_iff, beq_iff_eq] at holds
  exact ⟨holds.1.1, holds.1.2, holds.2⟩

end Sample

/-- The threads of the process are idle after the shutdown. -/
theorem idle_after_shutdown :
    ∃ world, (system Sample.deployment).Reachable world ∧ Drained world 0 ∧
      world.dispatchers Sample.worker = .idle := by
  obtain ⟨world, ran, holds⟩ := (Option.any_eq_true _ _).mp
    (show ((system Sample.deployment).run {} Sample.deliveryAndShutdown).any
      (fun world => Sample.drained (world.runtimes 0)) = true by decide +kernel)
  have drained := Sample.drained_of_runtime holds
  have reachable := @reachableWhen_of_single _ _ Sample.worker _ (by decide) ran
  exact ⟨world, reachable.reachable, drained,
    (((shutdown_bookkeeping Sample.deployment).2 world reachable).2 0 drained world .refl
      Sample.worker rfl).1⟩

/-- The second thread is about to send after the drain returned true, and its claim is not
in flight. -/
theorem send_after_drain :
    ∃ world after claim, (system Sample.deployment).Reachable world ∧ Drained world 0 ∧
      (world.dispatchers Sample.secondWorker).held = some claim ∧
      claim ∉ (world.runtimes 0).inflight ∧
      world.step Sample.deployment (.dispatch Sample.secondWorker (.send Sample.accepts)) =
        some after ∧
      after.calls.length = world.calls.length + 1 := by
  obtain ⟨world, reachable, holds⟩ := reachable_of_any Sample.deployment
    Sample.overtakenShutdown
    (fun world => Sample.drained (world.runtimes 0) &&
      (world.dispatchers Sample.secondWorker).held.isSome &&
      (world.step Sample.deployment
        (.dispatch Sample.secondWorker (.send Sample.accepts))).any fun after =>
          after.calls.length == world.calls.length + 1) (by decide +kernel)
  simp only [Bool.and_eq_true] at holds
  obtain ⟨⟨drained, held⟩, sent⟩ := holds
  obtain ⟨claim, held⟩ := Option.isSome_iff_exists.mp held
  obtain ⟨after, stepped, counted⟩ := (Option.any_eq_true _ _).mp sent
  have drained := Sample.drained_of_runtime drained
  refine ⟨world, after, claim, reachable, drained, held, ?_, stepped, beq_iff_eq.mp counted⟩
  rw [drained.finished]
  exact List.not_mem_nil

end MailerAgent
