import MailerAgent.Status.Jobs
import MailerAgent.Status.Journal

/-!
# What a clean-up leaves alone

Each recorder among the others is a recorder alone, whose row may be purged. A process whose
heartbeat, or, before its registration, whose latest cycle is never older than the cut-off
of another process's clean-up loses nothing: its row stays, and its cycle rows summarize
everything that it has recorded.
-/

namespace MailerAgent
namespace Status

open Concurrent Relational Transition

/-! ## Rows under their recorder -/

/-- What the calls of a recorder make of its row. -/
inductive RowChange
    (recorder : Recorder)
    (before : Option RuntimeRow) :
    Option RuntimeRow → Prop where
  | kept : RowChange recorder before before
  | inserted (now : Instant) (absent : before = none) :
      RowChange recorder before (some (insertedRow recorder now))
  | refreshed (now : Instant) (row : RuntimeRow) (found : before = some row) :
      RowChange recorder before (some { row with heartbeatAt := now })
  | stopped (now : Instant) (row : RuntimeRow) (found : before = some row) :
      RowChange recorder before (some { row with stoppedAt := some now })

section Rows

variable {recorder : Recorder} {state next : State} {number : Nat} {choice : Choice}

/-- What a commit makes of an updated row. -/
theorem committedRow_cases
    (outcome : CommitOutcome)
    (row changed : Option RuntimeRow) :
    committedRow outcome row changed = row ∨ committedRow outcome row changed = changed := by
  cases outcome with
  | failed => exact .inl rfl
  | committed => exact .inr rfl
  | appliedButReportedFailed => exact .inr rfl

theorem heartbeatStep_row (stepped : heartbeatStep recorder state number choice = some next) :
    RowChange recorder state.row next.row := by
  cases heartbeatStep_moves stepped with
  | quiet phase before after => exact .kept
  | acquires phase released found => exact .kept
  | inserts now phase before absent accepted after => exact .inserted now absent
  | commits row phase before same after =>
      unfold heartbeatStep at stepped
      cases running : state.heartbeats number with
      | updating now =>
          simp only [running, Option.some.injEq] at stepped
          have written : committedRow choice.outcome state.row
              (state.row.map fun row => { row with heartbeatAt := now }) = row :=
            congrArg State.row stepped
          change RowChange recorder state.row row
          rw [← written]
          rcases committedRow_cases choice.outcome state.row
            (state.row.map fun row => { row with heartbeatAt := now }) with kept | changed
          · rw [kept]
            exact .kept
          · rw [changed]
            cases found : state.row with
            | none => exact .kept
            | some present => exact .refreshed now present rfl
      | _ => simp [running, HeartbeatPhase.holds] at before

theorem stopStep_row (stepped : stopStep state number choice = some next) :
    RowChange recorder state.row next.row := by
  cases stopStep_moves stepped with
  | quiet stopped phase kept before after settled begun => exact .kept
  | misses begun missed => exact .kept
  | acquires phase begun released found unsettled => exact .kept
  | commits row phase begun before changed after =>
      unfold stopStep at stepped
      cases running : state.stops number with
      | updating now =>
          simp only [running, Option.some.injEq] at stepped
          have written : committedRow choice.outcome state.row
              (state.row.map fun row => { row with stoppedAt := some now }) = row :=
            congrArg State.row stepped
          change RowChange recorder state.row row
          rw [← written]
          rcases committedRow_cases choice.outcome state.row
            (state.row.map fun row => { row with stoppedAt := some now }) with kept | changed
          · rw [kept]
            exact .kept
          · rw [changed]
            cases found : state.row with
            | none => exact .kept
            | some present => exact .stopped now present rfl
      | _ => simp [running, StopPhase.holds] at before

/-- The calls of a recorder never remove its row, and they keep when the process started. -/
theorem RowChange.present
    {before after : Option RuntimeRow}
    {row : RuntimeRow}
    (change : RowChange recorder before after)
    (found : before = some row) :
    ∃ later, after = some later ∧ later.startedAt = row.startedAt ∧ later.role = row.role := by
  cases change with
  | kept => exact ⟨row, found, rfl, rfl⟩
  | inserted now absent => cases absent.symm.trans found
  | refreshed now same foundSame =>
      obtain rfl := Option.some.inj (foundSame.symm.trans found)
      exact ⟨_, rfl, rfl, rfl⟩
  | stopped now same foundSame =>
      obtain rfl := Option.some.inj (foundSame.symm.trans found)
      exact ⟨_, rfl, rfl, rfl⟩

end Rows

namespace Fleet

variable {roster : Roster} {fleet next : Fleet} {process other : String}

/-! ## A recorder among the others -/

theorem view_recorderMoved_of_ne
    {state : State}
    (different : other ≠ process) :
    (fleet.recorderMoved process state).view other = fleet.view other := by
  have row : (fleet.recorderMoved process state).runtimes.get other =
      fleet.runtimes.get other := by
    unfold recorderMoved
    cases state.row with
    | none => rfl
    | some row => exact Keyed.get_put_of_ne different
  unfold view
  rw [row]
  simp [recorderMoved, different]

theorem view_recorderMoved
    {state : State}
    (present : ∀ row, fleet.runtimes.get process = some row → state.row.isSome = true) :
    (fleet.recorderMoved process state).view process = state := by
  have row : (fleet.recorderMoved process state).runtimes.get process = state.row := by
    unfold recorderMoved
    cases held : state.row with
    | none =>
        cases found : fleet.runtimes.get process with
        | none => exact found
        | some row => simpa [held] using present row found
    | some row => exact Keyed.get_put_self
  unfold view
  rw [row]
  simp [recorderMoved]

theorem view_recorderMoved_of_change
    {recorder : Recorder}
    {state : State}
    (change : RowChange recorder (fleet.view process).row state.row) :
    (fleet.recorderMoved process state).view process = state := by
  refine view_recorderMoved fun row found => ?_
  obtain ⟨later, present, -⟩ := change.present found
  rw [present]
  rfl

/-- A row that a clean-up has deleted is kept by no call of its recorder. -/
def Apart (fleet : Fleet) : Prop :=
  ∀ process, fleet.runtimeLocks process ≠ none → (fleet.calls process).holder = none

/-- What a step is to one recorder: nothing, its own step, or the purge of its row. -/
inductive Seen
    (recorder : Recorder)
    (before after : State) : Prop where
  | same (equal : after = before)
  | own (action : Action) (stepped : Status.step recorder before action = some after)

theorem Seen.of_purge
    {recorder : Recorder}
    {before : State}
    (released : before.holder = none) :
    Seen recorder before { before with row := none } :=
  .own .purge (by simp [Status.step, released])

/-! ## What a step does to the rows of a process -/

section Steps

variable {action : FleetAction} {number : Nat} {sweep : Sweep} {choice : Choice}

theorem deleteCycles_locks (deleted : fleet.deleteCycles number sweep = some next) :
    next.runtimeLocks = fleet.runtimeLocks ∧
      ∀ key, next.cycleLocks key =
        if fleet.doomedCycle number sweep key then some number else fleet.cycleLocks key := by
  unfold deleteCycles at deleted
  split at deleted
  · cases deleted
  · cases deleted
    exact ⟨rfl, fun _ => rfl⟩

/-- A clean-up deletes the rows of dead processes that no call keeps. -/
theorem deleteRuntimes_locks (deleted : fleet.deleteRuntimes number sweep = some next) :
    next.cycleLocks = fleet.cycleLocks ∧
      ∀ process, next.runtimeLocks process =
          (if fleet.dead sweep process then some number else fleet.runtimeLocks process) ∧
        (fleet.dead sweep process = true → (fleet.calls process).holder = none) := by
  unfold deleteRuntimes at deleted
  split at deleted
  · cases deleted
  · next free =>
      cases deleted
      refine ⟨rfl, fun process => ⟨rfl, fun dead => ?_⟩⟩
      obtain ⟨row, found, -⟩ := (Option.any_eq_true _ _).mp (Bool.and_eq_true_iff.mp dead).2
      by_contra held
      refine free (List.any_eq_true.mpr ⟨(process, row), Keyed.get_eq_some_iff.mp found, ?_⟩)
      simp [dead, Option.isSome_iff_ne_none.mpr held]

theorem view_purged
    (number : Nat)
    (process : String) :
    ((fleet.purged number).released number).view process =
      if fleet.runtimeLocks process = some number then
        { fleet.view process with row := none }
      else fleet.view process := by
  have row : (fleet.purged number).runtimes.get process =
      if fleet.runtimeLocks process = some number then none
      else fleet.runtimes.get process := by
    split
    · next held => exact Keyed.get_removeWhere_of fun _ _ => by simp [held]
    · next free => exact Keyed.get_removeWhere_of_not fun _ _ => by simp [free]
  have seen : ((fleet.purged number).released number).view process =
      { fleet.view process with row := (fleet.purged number).runtimes.get process } := rfl
  rw [seen, row]
  split <;> rfl

theorem view_of_same
    (runtimes : next.runtimes = fleet.runtimes)
    (calls : next.calls = fleet.calls)
    (process : String) :
    next.view process = fleet.view process := by
  unfold view
  rw [runtimes, calls]

/-- The tables of processes and the locks are the same. -/
structure Aside (fleet next : Fleet) : Prop where
  runtimes : next.runtimes = fleet.runtimes
  calls : next.calls = fleet.calls
  runtimeLocks : next.runtimeLocks = fleet.runtimeLocks
  cycleLocks : next.cycleLocks = fleet.cycleLocks

/-- What a step is to the processes: a step of one recorder, a statement of a clean-up, or
none of their business. -/
inductive ProcessMove
    (roster : Roster)
    (fleet next : Fleet) : FleetAction → Prop where
  | heartbeat
      (process : String)
      (number : Nat)
      (choice : Choice)
      (state : State)
      (free : fleet.runtimeLocks process ≠ none →
        ((fleet.calls process).heartbeats number).touches = false)
      (taken : heartbeatStep (roster.recorder process) (fleet.view process) number choice =
        some state)
      (moved : next = fleet.recorderMoved process state) :
      ProcessMove roster fleet next (.heartbeat process number choice)
  | stop
      (process : String)
      (number : Nat)
      (choice : Choice)
      (state : State)
      (free : fleet.runtimeLocks process ≠ none →
        ((fleet.calls process).stops number).touches = false)
      (taken : stopStep (fleet.view process) number choice = some state)
      (moved : next = fleet.recorderMoved process state) :
      ProcessMove roster fleet next (.stop process number choice)
  | aside (action : FleetAction) (same : Aside fleet next) :
      ProcessMove roster fleet next action
  | sweepOn
      (number : Nat)
      (choice : Choice)
      (sweep : Sweep)
      (running : fleet.sweeps number = some sweep)
      (taken : fleet.sweepStep number sweep choice = some next) :
      ProcessMove roster fleet next (.sweepOn number choice)

theorem processMove_of_step (stepped : fleet.step roster action = some next) :
    ProcessMove roster fleet next action := by
  cases action with
  | heartbeat caller number choice =>
      simp only [step] at stepped
      split at stepped
      · cases stepped
      · next free =>
          obtain ⟨state, taken, rfl⟩ := Option.map_eq_some_iff.mp stepped
          refine .heartbeat caller number choice state (fun locked => ?_) taken rfl
          simpa [Option.isSome_iff_ne_none.mpr locked] using free
  | stop caller number choice =>
      simp only [step] at stepped
      split at stepped
      · cases stepped
      · next free =>
          obtain ⟨state, taken, rfl⟩ := Option.map_eq_some_iff.mp stepped
          refine .stop caller number choice state (fun locked => ?_) taken rfl
          simpa [Option.isSome_iff_ne_none.mpr locked] using free
  | record caller request choice =>
      refine .aside _ ?_
      simp only [step] at stepped
      split at stepped
      · split at stepped
        · cases stepped
          exact ⟨rfl, rfl, rfl, rfl⟩
        · cases stepped
      · cases stepped
        exact ⟨rfl, rfl, rfl, rfl⟩
  | recordOn caller kind choice =>
      refine .aside _ ?_
      simp only [step, recordStep] at stepped
      split at stepped
      · cases stepped
      · cases stepped
        exact ⟨rfl, rfl, rfl, rfl⟩
      · split at stepped
        · cases stepped
        · split at stepped <;>
          · cases stepped
            exact ⟨rfl, rfl, rfl, rfl⟩
  | sweep number owner now =>
      refine .aside _ ?_
      simp only [step] at stepped
      split at stepped
      · cases stepped
      · cases stepped
        exact ⟨rfl, rfl, rfl, rfl⟩
  | sweepOn number choice =>
      obtain ⟨sweep, running, taken⟩ := Option.bind_eq_some_iff.mp stepped
      exact .sweepOn number choice sweep running taken

/-- Every step is one that each recorder could see alone. -/
theorem seen_of_step
    (apart : fleet.Apart)
    (stepped : fleet.step roster action = some next)
    (process : String) :
    Seen (roster.recorder process) (fleet.view process) (next.view process) := by
  cases processMove_of_step stepped with
  | heartbeat caller number choice state free taken moved =>
      subst moved
      by_cases same : process = caller
      · subst same
        rw [view_recorderMoved_of_change (heartbeatStep_row taken)]
        exact .own (.heartbeat number choice) taken
      · exact .same (view_recorderMoved_of_ne same)
  | stop caller number choice state free taken moved =>
      subst moved
      by_cases same : process = caller
      · subst same
        have change : RowChange (roster.recorder process) (fleet.view process).row state.row :=
          stopStep_row taken
        rw [view_recorderMoved_of_change change]
        exact .own (.stop number choice) taken
      · exact .same (view_recorderMoved_of_ne same)
  | aside action same => exact .same (view_of_same same.runtimes same.calls process)
  | sweepOn number choice sweep running taken =>
      rcases sweepStep_cases taken with
        ⟨runtimes, -, -, calls, -⟩ | ⟨-, -, -, rfl⟩
      · exact .same (view_of_same runtimes calls process)
      · rw [view_purged]
        split
        · next held => exact .of_purge (apart process (by rw [held]; nofun))
        · exact .same rfl

/-- What a statement of a clean-up deletes is dead, and it gives back what it ends. -/
theorem sweepStep_locks (stepped : fleet.sweepStep number sweep choice = some next) :
    (∀ process, next.runtimeLocks process = fleet.runtimeLocks process ∨
      next.runtimeLocks process = none ∨
      fleet.dead sweep process = true ∧ (fleet.calls process).holder = none) ∧
    ∀ key, next.cycleLocks key = fleet.cycleLocks key ∨ next.cycleLocks key = none ∨
      fleet.doomedCycle number sweep key = true := by
  have ended : ∀ other : Fleet, other.runtimeLocks = fleet.runtimeLocks →
      other.cycleLocks = fleet.cycleLocks →
      (∀ process, (other.released number).runtimeLocks process = fleet.runtimeLocks process ∨
        (other.released number).runtimeLocks process = none ∨
        fleet.dead sweep process = true ∧ (fleet.calls process).holder = none) ∧
      ∀ key, (other.released number).cycleLocks key = fleet.cycleLocks key ∨
        (other.released number).cycleLocks key = none ∨
        fleet.doomedCycle number sweep key = true := by
    intro other runtimes cycles
    simp only [released, sweepMoved, runtimes, cycles]
    constructor
    · intro process
      split
      · exact .inr (.inl rfl)
      · exact .inl rfl
    · intro key
      split
      · exact .inr (.inl rfl)
      · exact .inl rfl
  have cycles : ∀ {middle : Fleet}, fleet.deleteCycles number sweep = some middle →
      (∀ process, middle.runtimeLocks process = fleet.runtimeLocks process ∨
        middle.runtimeLocks process = none ∨
        fleet.dead sweep process = true ∧ (fleet.calls process).holder = none) ∧
      ∀ key, middle.cycleLocks key = fleet.cycleLocks key ∨ middle.cycleLocks key = none ∨
        fleet.doomedCycle number sweep key = true := by
    intro middle deleted
    obtain ⟨runtimes, locks⟩ := deleteCycles_locks deleted
    refine ⟨fun process => .inl (by rw [runtimes]), fun key => ?_⟩
    rw [locks key]
    split
    · next doomed => exact .inr (.inr doomed)
    · exact .inl rfl
  unfold sweepStep at stepped
  split at stepped
  · cases stepped
    exact ended fleet rfl rfl
  · split at stepped
    · obtain ⟨middle, deleted, rfl⟩ := Option.map_eq_some_iff.mp stepped
      have locks := cycles deleted
      exact locks
    · obtain ⟨middle, deleted, rfl⟩ := Option.map_eq_some_iff.mp stepped
      obtain ⟨cycles, locks⟩ := deleteRuntimes_locks deleted
      refine ⟨fun process => ?_, fun key => .inl (by rw [← cycles]; rfl)⟩
      change middle.runtimeLocks process = _ ∨ middle.runtimeLocks process = none ∨ _
      rw [(locks process).1]
      split
      · next dead => exact .inr (.inr ⟨dead, (locks process).2 dead⟩)
      · exact .inl rfl
    · obtain ⟨middle, deleted, rfl⟩ := Option.map_eq_some_iff.mp stepped
      have locks := cycles deleted
      exact locks
    · cases stepped
      split
      · exact ended fleet rfl rfl
      · exact ended (fleet.purged number) rfl rfl

/-- The calls of a recorder keep its row only where no clean-up has deleted it. -/
theorem heartbeatStep_holder
    {recorder : Recorder}
    {state after : State}
    (untouched : (state.heartbeats number).touches = false)
    (released : state.holder = none)
    (stepped : heartbeatStep recorder state number choice = some after) :
    after.holder = none := by
  unfold heartbeatStep at stepped
  cases phase : state.heartbeats number with
  | opened now => simp [phase, HeartbeatPhase.touches] at untouched
  | inserting now => simp [phase, HeartbeatPhase.touches] at untouched
  | verified now => simp [phase, HeartbeatPhase.touches] at untouched
  | returned result => simp [phase] at stepped
  | updating now =>
      simp only [phase, Option.some.injEq] at stepped
      subst stepped
      rfl
  | _ =>
      simp only [phase, Option.some.injEq] at stepped
      subst stepped
      exact released

theorem stopStep_holder
    {state after : State}
    (untouched : (state.stops number).touches = false)
    (released : state.holder = none)
    (stepped : stopStep state number choice = some after) :
    after.holder = none := by
  unfold stopStep at stepped
  cases phase : state.stops number with
  | opened now => simp [phase, StopPhase.touches] at untouched
  | returned result => simp [phase] at stepped
  | updating now =>
      simp only [phase, Option.some.injEq] at stepped
      subst stepped
      rfl
  | _ =>
      simp only [phase, Option.some.injEq] at stepped
      subst stepped
      exact released

theorem Apart.recorderMoved
    {state : State}
    (apart : fleet.Apart)
    (free : fleet.runtimeLocks process ≠ none → state.holder = none) :
    (fleet.recorderMoved process state).Apart := by
  intro other locked
  change (Function.update fleet.calls process _ other).holder = none
  by_cases same : other = process
  · subst same
    rw [Function.update_self]
    exact free locked
  · rw [Function.update_of_ne same]
    exact apart other locked

theorem Apart.step
    (apart : fleet.Apart)
    (stepped : fleet.step roster action = some next) :
    next.Apart := by
  cases processMove_of_step stepped with
  | heartbeat caller number choice state free taken moved =>
      subst moved
      exact apart.recorderMoved fun locked =>
        heartbeatStep_holder (free locked) (apart caller locked) taken
  | stop caller number choice state free taken moved =>
      subst moved
      exact apart.recorderMoved fun locked =>
        stopStep_holder (free locked) (apart caller locked) taken
  | aside action same =>
      intro other locked
      rw [same.calls]
      exact apart other (same.runtimeLocks ▸ locked)
  | sweepOn number choice sweep running taken =>
      intro other locked
      have calls : next.calls = fleet.calls := by
        rcases sweepStep_cases taken with ⟨-, -, -, calls, -⟩ | ⟨-, -, -, rfl⟩
        · exact calls
        · rfl
      rw [calls]
      rcases (sweepStep_locks taken).1 other with kept | ended | ⟨-, released⟩
      · exact apart other (kept ▸ locked)
      · exact absurd ended locked
      · exact released

theorem apart_of_reachable (reachable : (Fleet.system roster).Reachable fleet) :
    fleet.Apart := by
  refine reachable.invariant ?_ fun _ _ _ _ apart => apart.step
  rintro _ rfl process locked
  exact absurd rfl locked

end Steps

end Fleet

/-- Each of any number of recorders over the same tables is in a state that it could reach
alone, with a row that may be purged. -/
theorem recorders_step_alone
    (roster : Roster)
    (fleet : Fleet)
    (reachable : (Fleet.system roster).Reachable fleet)
    (process : String) :
    (system (roster.recorder process)).Reachable (fleet.view process) := by
  refine @System.Reachable.invariant _ _ _
    (fun fleet => (system (roster.recorder process)).Reachable (fleet.view process))
    ?_ ?_ _ reachable
  · rintro _ rfl
    exact .of_initial rfl
  · intro before action after reached alone stepped
    cases Fleet.seen_of_step (Fleet.apart_of_reachable reached) stepped process with
    | same equal => exact equal ▸ alone
    | own action taken => exact alone.step taken

/-- The row of a silent process is deleted by the clean-up of another one. -/
theorem recorders_step_alone_when_purged :
    ∃ fleet, (Fleet.system Sample.roster).Reachable fleet ∧
      (fleet.view "a").row = none ∧ (fleet.calls "a").heartbeats 0 = .returned true ∧
      (system (Sample.roster.recorder "a")).Reachable (fleet.view "a") := by
  obtain ⟨fleet, reachable, holds⟩ := System.exists_reachable_of_run
    (show (Fleet.system Sample.roster).initial {} from rfl)
    (Sample.registers "a" 0 0 ++ Sample.cleansUp "b" (73 * 3600 * second))
    (fun fleet => (fleet.view "a").row.isNone &&
      (fleet.calls "a").heartbeats 0 == .returned true)
    (by decide +kernel)
  obtain ⟨purged, returned⟩ := Bool.and_eq_true_iff.mp holds
  exact ⟨fleet, reachable, Option.isNone_iff_eq_none.mp purged, beq_iff_eq.mp returned,
    recorders_step_alone Sample.roster fleet reachable "a"⟩

namespace Fleet

/-! ## Processes that are never dead -/

variable {roster : Roster} {fleet next : Fleet} {process : String}

/-- No statement of another process's clean-up finds the process dead. -/
def Spares
    (process : String)
    (fleet : Fleet) : FleetAction → Prop
  | .sweepOn number _ => ∀ sweep, fleet.sweeps number = some sweep → sweep.owner ≠ process →
      (∀ row, fleet.runtimes.get process = some row → sweep.cutoff ≤ row.heartbeatAt) ∧
      (fleet.runtimes.get process = none → ∀ kind row,
        fleet.cycles.get (process, kind) = some row → sweep.cutoff ≤ row.lastCycleAt)
  | _ => True

/-- No clean-up has deleted a row of the process. -/
structure Untouched
    (fleet : Fleet)
    (process : String) : Prop where
  runtime : fleet.runtimeLocks process = none
  cycles : ∀ kind, fleet.cycleLocks (process, kind) = none

namespace Untouched

variable {action : FleetAction} {kind : CycleKind}

/-- A dead process is not spared. -/
theorem not_dead
    {number : Nat}
    {sweep : Sweep}
    {choice : Choice}
    (spares : Spares process fleet (.sweepOn number choice))
    (running : fleet.sweeps number = some sweep) :
    fleet.dead sweep process = false := by
  rw [Bool.eq_false_iff]
  intro dead
  obtain ⟨foreign, expired⟩ := Bool.and_eq_true_iff.mp dead
  obtain ⟨row, found, old⟩ := (Option.any_eq_true _ _).mp expired
  have recent := (spares sweep running (bne_iff_ne.mp foreign).symm).1 row found
  exact absurd (of_decide_eq_true old) (Int.not_lt.mpr recent)

/-- A cycle row of a spared process is not deleted. -/
theorem not_doomed
    {number : Nat}
    {sweep : Sweep}
    {choice : Choice}
    (untouched : fleet.Untouched process)
    (spares : Spares process fleet (.sweepOn number choice))
    (running : fleet.sweeps number = some sweep) :
    fleet.doomedCycle number sweep (process, kind) = false := by
  rw [Bool.eq_false_iff]
  intro doomed
  have condition := (Bool.and_eq_true_iff.mp doomed).2
  split at condition
  · exact Bool.eq_false_iff.mp (not_dead spares running) (Bool.and_eq_true_iff.mp condition).2
  · obtain ⟨foreign, expired⟩ := Bool.and_eq_true_iff.mp condition
    obtain ⟨foreign, absent⟩ := Bool.and_eq_true_iff.mp foreign
    obtain ⟨row, found, old⟩ := (Option.any_eq_true _ _).mp expired
    have unregistered : fleet.runtimes.get process = none := by
      simpa [known, untouched.runtime] using absent
    have recent := (spares sweep running (bne_iff_ne.mp foreign).symm).2 unregistered
      kind row found
    exact absurd (of_decide_eq_true old) (Int.not_lt.mpr recent)
  · cases condition

theorem step
    (untouched : fleet.Untouched process)
    (spares : Spares process fleet action)
    (stepped : fleet.step roster action = some next) :
    next.Untouched process := by
  cases processMove_of_step stepped with
  | heartbeat caller number choice state free taken moved =>
      subst moved
      exact ⟨untouched.runtime, untouched.cycles⟩
  | stop caller number choice state free taken moved =>
      subst moved
      exact ⟨untouched.runtime, untouched.cycles⟩
  | aside action same =>
      exact ⟨by rw [same.runtimeLocks]; exact untouched.runtime, fun kind => by
        rw [same.cycleLocks]
        exact untouched.cycles kind⟩
  | sweepOn number choice sweep running taken =>
      obtain ⟨runtimes, cycles⟩ := sweepStep_locks taken
      constructor
      · rcases runtimes process with kept | ended | ⟨dead, -⟩
        · exact kept.trans untouched.runtime
        · exact ended
        · exact absurd dead (Bool.eq_false_iff.mp (not_dead spares running))
      · intro kind
        rcases cycles (process, kind) with kept | ended | doomed
        · exact kept.trans (untouched.cycles kind)
        · exact ended
        · exact absurd doomed (Bool.eq_false_iff.mp (not_doomed untouched spares running))

/-- The row of an untouched process stays. -/
theorem present
    {row : RuntimeRow}
    (untouched : fleet.Untouched process)
    (stepped : fleet.step roster action = some next)
    (found : fleet.runtimes.get process = some row) :
    ∃ later, next.runtimes.get process = some later ∧ later.startedAt = row.startedAt ∧
      later.role = row.role := by
  have moved : ∀ caller state,
      RowChange (roster.recorder caller) (fleet.view caller).row state.row →
      ∃ later, (fleet.recorderMoved caller state).runtimes.get process = some later ∧
        later.startedAt = row.startedAt ∧ later.role = row.role := by
    intro caller state change
    by_cases same : process = caller
    · subst same
      have after := congrArg State.row (view_recorderMoved_of_change change)
      obtain ⟨later, present, start, role⟩ := change.present found
      exact ⟨later, after.trans present, start, role⟩
    · have unseen : (fleet.recorderMoved caller state).view process = fleet.view process :=
        view_recorderMoved_of_ne same
      exact ⟨row, (congrArg State.row unseen).trans found, rfl, rfl⟩
  have kept : next.runtimes.get process = fleet.runtimes.get process →
      ∃ later, next.runtimes.get process = some later ∧
        later.startedAt = row.startedAt ∧ later.role = row.role :=
    fun same => ⟨row, same.trans found, rfl, rfl⟩
  cases processMove_of_step stepped with
  | heartbeat caller number choice state free taken rewritten =>
      subst rewritten
      exact moved caller state (heartbeatStep_row taken)
  | stop caller number choice state free taken rewritten =>
      subst rewritten
      exact moved caller state (stopStep_row taken)
  | aside action same => exact kept (by rw [same.runtimes])
  | sweepOn number choice sweep running taken =>
      rcases sweepStep_cases taken with ⟨runtimes, -⟩ | ⟨-, -, -, rfl⟩
      · exact kept (by rw [runtimes])
      · exact kept (Keyed.get_removeWhere_of_not fun _ _ => by simp [untouched.runtime])

end Untouched

/-- In a run whose clean-ups spare the process, it is untouched at any time. -/
theorem untouched_of_run
    {past : List (Fleet × FleetAction)}
    (run : (Fleet.system roster).Run past fleet)
    (spared : ∀ entry ∈ past, Spares process entry.1 entry.2) :
    fleet.Untouched process ∧ ∀ entry ∈ past, entry.1.Untouched process := by
  induction run with
  | start initial =>
      cases initial
      exact ⟨⟨rfl, fun _ => rfl⟩, fun _ member => nomatch member⟩
  | step _ stepped inductionHypothesis =>
      obtain ⟨untouched, earlier⟩ := inductionHypothesis fun entry member =>
        spared entry (List.mem_append_left _ member)
      have spares := spared _ (List.mem_append_right _ (List.mem_singleton.mpr rfl))
      refine ⟨untouched.step spares stepped, fun entry member => ?_⟩
      rcases List.mem_append.mp member with before | last
      · exact earlier entry before
      · rw [List.mem_singleton.mp last]
        exact untouched

/-- A journal that no clean-up has ended. -/
theorem journal_of_untouched
    {past : List (Fleet × FleetAction)}
    {kind : CycleKind}
    (untouched : ∀ entry ∈ past, entry.1.Untouched process) :
    journal past (process, kind) =
      past.flatMap fun entry => (entry.1.stores (process, kind) entry.2).toList := by
  induction past using List.reverseRecOn with
  | nil => rfl
  | append_singleton past entry inductionHypothesis =>
      have kept : entry.1.clears (process, kind) entry.2 = false := by
        have free := (untouched entry
          (List.mem_append_right _ (List.mem_singleton.mpr rfl))).cycles kind
        unfold clears
        split <;> simp [free]
      rw [journal_concat, inductionHypothesis fun other member =>
        untouched other (List.mem_append_left _ member), noted, kept, List.flatMap_append]
      simp

end Fleet

/-- In a run in which no clean-up of another process finds a process dead, the row of the
process stays once it is there, and each of its cycle rows is the summary of everything that
the process has ever recorded for the kind. -/
theorem live_process_retained
    (roster : Roster)
    (past : List (Fleet × FleetAction))
    (fleet : Fleet)
    (run : (Fleet.system roster).Run past fleet)
    (process : String)
    (spared : ∀ entry ∈ past, Fleet.Spares process entry.1 entry.2) :
    (∀ entry ∈ past, ∀ row, entry.1.runtimes.get process = some row →
      ∃ later, fleet.runtimes.get process = some later ∧
        later.startedAt = row.startedAt ∧ later.role = row.role) ∧
    ∀ kind, fleet.cycles.get (process, kind) =
      summary kind (past.flatMap fun entry =>
        (entry.1.stores (process, kind) entry.2).toList) := by
  constructor
  · induction run with
    | start initial => exact fun _ member => nomatch member
    | step earlier stepped inductionHypothesis =>
        have before := fun entry member => spared entry (List.mem_append_left _ member)
        have untouched := (Fleet.untouched_of_run earlier before).1
        intro entry member row found
        rcases List.mem_append.mp member with old | last
        · obtain ⟨middle, present, start, role⟩ :=
            inductionHypothesis before entry old row found
          obtain ⟨later, found, laterStart, laterRole⟩ := untouched.present stepped present
          exact ⟨later, found, laterStart.trans start, laterRole.trans role⟩
        · rw [List.mem_singleton.mp last] at found
          exact untouched.present stepped found
  · intro kind
    rw [← Fleet.journal_of_untouched (Fleet.untouched_of_run run spared).2]
    exact Fleet.cycles_of_run run process kind

namespace Sample

/-- A process records twice, and another one cleans up in between. -/
def vigilance : List FleetAction :=
  registers "a" 0 0 ++ records "a" 0 lossyCycle ++ cleansUp "b" (3600 * second) ++
    records "a" (7200 * second) lossyCycle

/-- The clean-up finds the process alive. -/
def findsAlive
    (process : String)
    (fleet : Fleet) : FleetAction → Bool
  | .sweepOn number _ => (fleet.sweeps number).all fun sweep =>
      (fleet.runtimes.get process).any fun row => sweep.cutoff ≤ row.heartbeatAt
  | _ => true

theorem spares_of_findsAlive
    {process : String}
    {fleet : Fleet}
    {action : FleetAction}
    (alive : findsAlive process fleet action = true) :
    Fleet.Spares process fleet action := by
  cases action with
  | sweepOn number choice =>
      intro sweep running _
      simp only [findsAlive, running, Option.all_some] at alive
      obtain ⟨row, found, recent⟩ := (Option.any_eq_true _ _).mp alive
      constructor
      · intro other foundOther
        obtain rfl : row = other := Option.some.inj (found.symm.trans foundOther)
        exact of_decide_eq_true recent
      · intro absent
        cases absent.symm.trans found
  | _ => trivial

end Sample

/-- Both recordings of the vigilant process are summarized. -/
theorem live_process_retained_across_clean_up :
    ∃ past fleet recordings, (Fleet.system Sample.roster).Run past fleet ∧
      recordings = past.flatMap (fun entry =>
        (entry.1.stores ("a", .externalDispatch) entry.2).toList) ∧
      recordings.length = 2 ∧
      fleet.cycles.get ("a", .externalDispatch) = summary .externalDispatch recordings := by
  obtain ⟨past, fleet, run, holds⟩ := System.exists_run_of_record
    (show (Fleet.system Sample.roster).initial {} from rfl) Sample.vigilance
    (fun ran => ran.1.all (fun entry => Sample.findsAlive "a" entry.1 entry.2) &&
      (ran.1.flatMap fun entry =>
        (entry.1.stores ("a", .externalDispatch) entry.2).toList).length == 2)
    (by decide +kernel)
  obtain ⟨alive, both⟩ := Bool.and_eq_true_iff.mp holds
  have retained := live_process_retained Sample.roster past fleet run "a" fun entry member =>
    Sample.spares_of_findsAlive (List.all_eq_true.mp alive entry member)
  exact ⟨past, fleet, _, run, rfl, beq_iff_eq.mp both, retained.2 .externalDispatch⟩

end Status
end MailerAgent
