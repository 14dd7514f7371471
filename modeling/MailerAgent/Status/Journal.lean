import Mathlib.Algebra.GroupWithZero.Nat
import Mathlib.Data.List.Induction
import MailerAgent.Foundation.Register
import MailerAgent.Status.Fleet

/-!
# Cycle rows are summaries

What a row of `worker_cycle_status` says at any time of any run: its columns are the last
recording, the streak of unhealthy ones, and the sums of all recordings that were committed
since the last clean-up that deleted the row.
-/

namespace MailerAgent
namespace Status

open Concurrent Relational Transition

/-! ## Summaries -/

/-- The recording of a completed cycle. -/
def Recording.completes (recording : Recording) : Bool :=
  recording.outcome == .completed

/-- The sum of a counter over recordings. -/
def totalCount
    (journal : List Recording)
    (key : String) : Nat :=
  (journal.map fun recording => counted recording.counts key).sum

/-- The row that says what was recorded. -/
def summary
    (kind : CycleKind)
    (journal : List Recording) : Option CycleRow :=
  journal.getLast?.map fun last =>
    { lastCycleAt := last.now
      lastOutcome := last.outcome
      lastCompletedAt := (journal.filter Recording.completes).getLast?.map Recording.now
      consecutiveUnhealthyCycles :=
        (journal.reverse.takeWhile fun recording => !recording.completes).length
      cyclesRecorded := journal.length
      lastErrorType := if last.completes then none else safeErrorType last.errorType
      lastCounts := some (storedCounts (cleanCounts kind last.counts))
      totalCounts := some (storedCounts (counters kind (totalCount journal))) }

theorem totalCount_concat
    (journal : List Recording)
    (recording : Recording)
    (key : String) :
    totalCount (journal ++ [recording]) key =
      totalCount journal key + counted recording.counts key := by
  simp [totalCount]

/-- The totals after one more recording. -/
theorem addCounts_totals
    (kind : CycleKind)
    (journal : List Recording)
    (recording : Recording) :
    addCounts (counters kind (totalCount journal)) (cleanCounts kind recording.counts) =
      counters kind (totalCount (journal ++ [recording])) := by
  rw [cleanCounts, addCounts_counters]
  exact counters_congr fun key _ => (totalCount_concat journal recording key).symm

/-- A row that is written once is the summary of one recording. -/
theorem recordedRow_none
    (kind : CycleKind)
    (recording : Recording) :
    some (recordedRow kind none recording) = summary kind [recording] := by
  have totals : addCounts (cleanCounts kind (some (storedCounts (cleanCounts kind none))))
      (cleanCounts kind recording.counts) = counters kind (totalCount [recording]) := by
    have clean : cleanCounts kind (some (storedCounts (cleanCounts kind none))) =
        counters kind (totalCount []) := cleanCounts_storedCounts kind _
    rw [clean]
    exact addCounts_totals kind [] recording
  obtain ⟨now, outcome, counts, errorType⟩ := recording
  cases outcome <;>
    simp [recordedRow, freshCycleRow, summary, Recording.completes, totals]

/-- A row that is written over a summary is the next summary. -/
theorem recordedRow_summary
    {kind : CycleKind}
    {journal : List Recording}
    {row : CycleRow}
    (recording : Recording)
    (summarized : summary kind journal = some row) :
    some (recordedRow kind (some row) recording) = summary kind (journal ++ [recording]) := by
  obtain ⟨last, ended, rfl⟩ := Option.map_eq_some_iff.mp summarized
  obtain ⟨now, outcome, counts, errorType⟩ := recording
  have totals : addCounts (counters kind (totalCount journal)) (cleanCounts kind counts) =
      counters kind (totalCount (journal ++ [⟨now, outcome, counts, errorType⟩])) :=
    addCounts_totals kind journal ⟨now, outcome, counts, errorType⟩
  cases outcome <;>
    simp [recordedRow, summary, Recording.completes, totals]

/-- Writing one recording after another over nothing makes their summary. -/
theorem replay_recordedRow
    (kind : CycleKind)
    (journal : List Recording) :
    replay (recordedRow kind) journal = summary kind journal := by
  induction journal using List.reverseRecOn with
  | nil => rfl
  | append_singleton journal recording inductionHypothesis =>
      rw [replay_concat, inductionHypothesis]
      cases summarized : summary kind journal with
      | some row => exact recordedRow_summary recording summarized
      | none =>
          obtain rfl : journal = [] := by simpa [summary] using summarized
          exact recordedRow_none kind recording

/-! ## Journals -/

namespace Fleet

/-- The recording that an action stores under a key. -/
def stores
    (fleet : Fleet)
    (key : String × CycleKind) : FleetAction → Option Recording
  | .recordOn process kind choice =>
      match fleet.records key with
      | .read recording seen =>
          if (process, kind) = key ∧ fleet.accepts key seen choice then some recording
          else none
      | _ => none
  | _ => none

/-- The action deletes the cycle row under a key. -/
def clears
    (fleet : Fleet)
    (key : String × CycleKind) : FleetAction → Bool
  | .sweepOn number choice =>
      choice.succeeds && choice.outcome != .failed && fleet.cycleLocks key == some number &&
        (fleet.sweeps number).any fun sweep => sweep.stage == .orphansDeleted
  | _ => false

/-- The journal of a key after an action. -/
def noted
    (key : String × CycleKind)
    (journal : List Recording)
    (entry : Fleet × FleetAction) : List Recording :=
  if entry.1.clears key entry.2 then []
  else journal ++ (entry.1.stores key entry.2).toList

/-- The recordings of a run that were committed since the row was last deleted. -/
def journal
    (past : List (Fleet × FleetAction))
    (key : String × CycleKind) :
    List Recording :=
  past.foldl (noted key) []

theorem journal_concat
    (past : List (Fleet × FleetAction))
    (entry : Fleet × FleetAction)
    (key : String × CycleKind) :
    journal (past ++ [entry]) key = noted key (journal past key) entry := by
  simp [journal]

/-! ## A cycle row as a register -/

/-- What the recording of a kind of cycle has read. -/
def reading
    (fleet : Fleet)
    (key : String × CycleKind) : Option (Option CycleRow) :=
  match fleet.records key with
  | .read _ seen => some seen
  | _ => none

/-- The cycle row under a key, with its writer. -/
def register
    (fleet : Fleet)
    (key : String × CycleKind)
    (journal : List Recording) : Register CycleRow Recording :=
  ⟨fleet.cycles.get key, fleet.reading key, journal⟩

section Moves

variable {roster : Roster} {fleet next : Fleet} {key other : String × CycleKind}
variable {journal : List Recording} {choice : Choice} {number : Nat} {sweep : Sweep}

theorem reading_recordMoved {phase : RecordPhase} :
    (fleet.recordMoved other phase).reading key =
      if key = other then
        match phase with
        | .read _ seen => some seen
        | _ => none
      else fleet.reading key := by
  unfold reading recordMoved
  by_cases same : key = other
  · simp [same]
  · simp [same]

/-- Nothing about the key changes. -/
theorem moves_of_same
    {after : List Recording}
    (cycles : next.cycles.get key = fleet.cycles.get key)
    (reads : next.reading key = fleet.reading key)
    (same : after = journal) :
    Register.Moves (recordedRow key.2) (fleet.register key journal)
      (next.register key after) := by
  subst same
  have equal : next.register key after = fleet.register key after := by
    unfold register
    rw [cycles, reads]
  rw [equal]
  exact .stays

/-- The statements of `record_cycle`. -/
theorem moves_recordStep
    {process : String}
    {kind : CycleKind}
    (stepped : fleet.recordStep (process, kind) choice = some next) :
    Register.Moves (recordedRow key.2) (fleet.register key journal)
      (next.register key (noted key journal (fleet, .recordOn process kind choice))) := by
  have elsewhere : key ≠ (process, kind) →
      noted key journal (fleet, .recordOn process kind choice) = journal := by
    intro different
    unfold noted stores
    cases fleet.records key <;> simp [clears, different.symm]
  unfold recordStep at stepped
  split at stepped
  · cases stepped
  · next recording phase =>
      cases stepped
      by_cases same : key = (process, kind)
      · subst same
        have unread : fleet.reading (process, kind) = none := by simp [reading, phase]
        have kept : noted (process, kind) journal
            (fleet, .recordOn process kind choice) = journal := by
          simp [noted, stores, clears, phase]
        rw [kept]
        cases succeeds : choice.succeeds with
        | false =>
            refine moves_of_same rfl ?_ rfl
            simp [reading_recordMoved, unread]
        | true =>
            have moved : (fleet.recordMoved (process, kind)
                (.read recording (fleet.cycles.get (process, kind)))).register
                  (process, kind) journal =
                { fleet.register (process, kind) journal with
                  reading := some (fleet.register (process, kind) journal).stored } := by
              simp [register, reading_recordMoved]
              rfl
            simp only [if_true, moved]
            exact .reads
      · refine moves_of_same rfl ?_ (elsewhere same)
        rw [reading_recordMoved, if_neg same]
  · next recording seen phase =>
      split at stepped
      · cases stepped
      split at stepped
      · next accepted =>
          cases stepped
          by_cases same : key = (process, kind)
          · subst same
            have read : (fleet.register (process, kind) journal).reading = some seen := by
              simp [register, reading, phase]
            have met := (Bool.and_eq_true_iff.mp accepted).1
            have stored : noted (process, kind) journal
                (fleet, .recordOn process kind choice) = journal ++ [recording] := by
              simp [noted, stores, clears, phase, accepted]
            have moved : (({ fleet with
                cycles := fleet.cycles.put (process, kind)
                  (recordedRow kind seen recording) }).recordMoved
                    (process, kind) .idle).register (process, kind)
                      (journal ++ [recording]) =
                ⟨some (recordedRow kind seen recording), none, journal ++ [recording]⟩ := by
              simp [register, reading, recordMoved]
            rw [stored, moved]
            exact .writes recording seen read (beq_iff_eq.mp met)
          · refine moves_of_same (Keyed.get_put_of_ne same) ?_ (elsewhere same)
            rw [reading_recordMoved, if_neg same]
            rfl
      · next refused =>
          cases stepped
          by_cases same : key = (process, kind)
          · subst same
            have kept : noted (process, kind) journal
                (fleet, .recordOn process kind choice) = journal := by
              simp [noted, stores, clears, phase, refused]
            have moved : (fleet.recordMoved (process, kind) .idle).register
                (process, kind) journal =
                { fleet.register (process, kind) journal with reading := none } := by
              simp [register, reading, recordMoved]
            rw [kept, moved]
            exact .forgets
          · refine moves_of_same rfl ?_ (elsewhere same)
            rw [reading_recordMoved, if_neg same]

/-- A statement of a clean-up before its commit leaves the tables alone. -/
theorem same_deleteCycles (deleted : fleet.deleteCycles number sweep = some next) :
    next.runtimes = fleet.runtimes ∧ next.cycles = fleet.cycles ∧
      next.records = fleet.records ∧ next.calls = fleet.calls := by
  unfold deleteCycles at deleted
  split at deleted
  · cases deleted
  · cases deleted
    exact ⟨rfl, rfl, rfl, rfl⟩

theorem same_deleteRuntimes (deleted : fleet.deleteRuntimes number sweep = some next) :
    next.runtimes = fleet.runtimes ∧ next.cycles = fleet.cycles ∧
      next.records = fleet.records ∧ next.calls = fleet.calls := by
  unfold deleteRuntimes at deleted
  split at deleted
  · cases deleted
  · cases deleted
    exact ⟨rfl, rfl, rfl, rfl⟩

/-- The statements of a clean-up: only its commit changes a table. -/
theorem sweepStep_cases (stepped : fleet.sweepStep number sweep choice = some next) :
    (next.runtimes = fleet.runtimes ∧ next.cycles = fleet.cycles ∧
      next.records = fleet.records ∧ next.calls = fleet.calls ∧
      (choice.succeeds = false ∨ sweep.stage ≠ .orphansDeleted ∨ choice.outcome = .failed)) ∨
    (choice.succeeds = true ∧ sweep.stage = .orphansDeleted ∧ choice.outcome ≠ .failed ∧
      next = (fleet.purged number).released number) := by
  unfold sweepStep at stepped
  split at stepped
  · next fails =>
      cases stepped
      exact .inl ⟨rfl, rfl, rfl, rfl, .inl fails⟩
  · next succeeds =>
      split at stepped
      · next stage =>
          obtain ⟨middle, deleted, rfl⟩ := Option.map_eq_some_iff.mp stepped
          obtain ⟨runtimes, cycles, records, calls⟩ := same_deleteCycles deleted
          exact .inl ⟨runtimes, cycles, records, calls, .inr (.inl (by rw [stage]; nofun))⟩
      · next stage =>
          obtain ⟨middle, deleted, rfl⟩ := Option.map_eq_some_iff.mp stepped
          obtain ⟨runtimes, cycles, records, calls⟩ := same_deleteRuntimes deleted
          exact .inl ⟨runtimes, cycles, records, calls, .inr (.inl (by rw [stage]; nofun))⟩
      · next stage =>
          obtain ⟨middle, deleted, rfl⟩ := Option.map_eq_some_iff.mp stepped
          obtain ⟨runtimes, cycles, records, calls⟩ := same_deleteCycles deleted
          exact .inl ⟨runtimes, cycles, records, calls, .inr (.inl (by rw [stage]; nofun))⟩
      · next stage =>
          cases stepped
          split
          · next lost => exact .inl ⟨rfl, rfl, rfl, rfl, .inr (.inr lost)⟩
          · next applied =>
              exact .inr ⟨by simpa using succeeds, stage, applied, rfl⟩

theorem reading_of_records (same : next.records = fleet.records) :
    next.reading key = fleet.reading key := by
  unfold reading
  rw [same]

/-- The statements of a clean-up, for one cycle row. -/
theorem moves_sweepStep
    (running : fleet.sweeps number = some sweep)
    (stepped : fleet.sweepStep number sweep choice = some next) :
    Register.Moves (recordedRow key.2) (fleet.register key journal)
      (next.register key (noted key journal (fleet, .sweepOn number choice))) := by
  rcases sweepStep_cases stepped with
    ⟨-, cycles, records, -, early⟩ | ⟨succeeds, stage, applied, rfl⟩
  · refine moves_of_same (by rw [cycles]) (reading_of_records records) ?_
    have kept : fleet.clears key (.sweepOn number choice) = false := by
      rcases early with fails | unfinished | lost
      · simp [clears, fails]
      · simp [clears, running, unfinished]
      · simp [clears, lost]
    simp [noted, kept, stores]
  · by_cases held : fleet.cycleLocks key = some number
    · have cleared : noted key journal (fleet, .sweepOn number choice) = [] := by
        simp [noted, clears, running, succeeds, stage, applied, held]
      have moved : ((fleet.purged number).released number).register key [] =
          ⟨none, (fleet.register key journal).reading, []⟩ := by
        have gone : (fleet.purged number).cycles.get key = none :=
          Keyed.get_removeWhere_of fun _ _ => by simp [held]
        change Register.mk ((fleet.purged number).cycles.get key) (fleet.reading key) [] = _
        rw [gone]
        rfl
      rw [cleared, moved]
      exact .clears
    · refine moves_of_same ?_ (reading_of_records rfl) (by simp [noted, clears, stores, held])
      exact Keyed.get_removeWhere_of_not fun _ _ => by simp [held]

/-- Every step is a move of the register of every cycle row. -/
theorem moves_of_step
    {action : FleetAction}
    (stepped : fleet.step roster action = some next) :
    Register.Moves (recordedRow key.2) (fleet.register key journal)
      (next.register key (noted key journal (fleet, action))) := by
  cases action with
  | heartbeat process number choice =>
      simp only [step] at stepped
      split at stepped
      · cases stepped
      · obtain ⟨state, -, rfl⟩ := Option.map_eq_some_iff.mp stepped
        exact moves_of_same rfl rfl (by simp [noted, clears, stores])
  | stop process number choice =>
      simp only [step] at stepped
      split at stepped
      · cases stepped
      · obtain ⟨state, -, rfl⟩ := Option.map_eq_some_iff.mp stepped
        exact moves_of_same rfl rfl (by simp [noted, clears, stores])
  | record process request choice =>
      have kept : noted key journal (fleet, .record process request choice) = journal := by
        simp [noted, clears, stores]
      simp only [step] at stepped
      split at stepped
      · next kind outcome guarded allowed =>
          split at stepped
          · next idle =>
              cases stepped
              refine moves_of_same rfl ?_ kept
              rw [reading_recordMoved]
              split
              · next same =>
                  have unread : fleet.reading key = none := by simp [reading, same, idle]
                  rw [unread]
                  cases choice.succeeds <;> rfl
              · rfl
          · cases stepped
      · cases stepped
        exact moves_of_same rfl rfl kept
  | recordOn process kind choice => exact moves_recordStep stepped
  | sweep number owner now =>
      simp only [step] at stepped
      split at stepped
      · cases stepped
      · cases stepped
        exact moves_of_same rfl rfl (by simp [noted, clears, stores])
  | sweepOn number choice =>
      obtain ⟨sweep, running, taken⟩ := Option.bind_eq_some_iff.mp stepped
      exact moves_sweepStep running taken

end Moves

/-! ## Runs -/

theorem sound_of_run
    {roster : Roster}
    {past : List (Fleet × FleetAction)}
    {fleet : Fleet}
    (run : (system roster).Run past fleet)
    (key : String × CycleKind) :
    Register.Sound (recordedRow key.2) (fleet.register key (journal past key)) := by
  induction run with
  | start initial =>
      cases initial
      exact Register.sound_initial
  | step _ stepped inductionHypothesis =>
      rw [journal_concat]
      exact inductionHypothesis.moves (moves_of_step stepped)

/-- At any time of any run, the cycle row of a process and a kind is the summary of what the
process has recorded for the kind since a clean-up last deleted the row. -/
theorem cycles_of_run
    {roster : Roster}
    {past : List (Fleet × FleetAction)}
    {fleet : Fleet}
    (run : (system roster).Run past fleet)
    (process : String)
    (kind : CycleKind) :
    fleet.cycles.get (process, kind) = summary kind (journal past (process, kind)) := by
  rw [← replay_recordedRow]
  exact (sound_of_run run (process, kind)).stored

/-! ## Where recordings come from -/

/-- What every request to record a cycle has, every recording in progress and every stored
one has. -/
structure Sourced
    (process : String)
    (kind : CycleKind)
    (property : CycleOutcome → Option CountMapping → Option String → Prop)
    (fleet : Fleet)
    (journal : List Recording) : Prop where
  opened : ∀ recording, fleet.records (process, kind) = .opened recording →
    property recording.outcome recording.counts recording.errorType
  read : ∀ recording seen, fleet.records (process, kind) = .read recording seen →
    property recording.outcome recording.counts recording.errorType
  stored : ∀ recording ∈ journal,
    property recording.outcome recording.counts recording.errorType

/-- The requests of a process to record a kind of cycle have the property. -/
def Requests
    (process : String)
    (kind : CycleKind)
    (property : CycleOutcome → Option CountMapping → Option String → Prop) :
    FleetAction → Prop
  | .record caller request _ => caller = process →
      CycleKind.ofValue request.kind = some kind →
      ∀ outcome, CycleOutcome.ofValue request.outcome = some outcome →
        property outcome request.counts request.errorType
  | _ => True

section Sourced

variable {roster : Roster} {fleet next : Fleet} {process : String} {kind : CycleKind}
variable {property : CycleOutcome → Option CountMapping → Option String → Prop}
variable {journal : List Recording} {action : FleetAction}

/-- An action that stores nothing and leaves the recordings in progress alone. -/
theorem Sourced.of_same
    (sourced : Sourced process kind property fleet journal)
    (records : next.records (process, kind) = fleet.records (process, kind))
    (unstored : fleet.stores (process, kind) action = none) :
    Sourced process kind property next (noted (process, kind) journal (fleet, action)) := by
  refine ⟨fun recording phase => sourced.opened recording (records ▸ phase),
    fun recording seen phase => sourced.read recording seen (records ▸ phase), ?_⟩
  intro recording member
  unfold noted at member
  split at member
  · cases member
  · rw [unstored] at member
    exact sourced.stored recording (by simpa using member)

theorem Sourced.recordStep
    {caller : String}
    {recorded : CycleKind}
    {choice : Choice}
    (sourced : Sourced process kind property fleet journal)
    (stepped : fleet.recordStep (caller, recorded) choice = some next) :
    Sourced process kind property next
      (noted (process, kind) journal (fleet, .recordOn caller recorded choice)) := by
  by_cases same : (caller, recorded) = (process, kind)
  · rw [same] at stepped
    obtain ⟨rfl, rfl⟩ := Prod.mk.inj same
    have uncleared : fleet.clears (caller, recorded) (.recordOn caller recorded choice) = false :=
      rfl
    unfold Fleet.recordStep at stepped
    split at stepped
    · cases stepped
    · next recording phase =>
        cases stepped
        refine ⟨?_, ?_, ?_⟩
        · intro other opened
          cases succeeds : choice.succeeds <;> simp [recordMoved, succeeds] at opened
        · intro other seen read
          cases succeeds : choice.succeeds <;> simp [recordMoved, succeeds] at read
          exact read.1 ▸ sourced.opened recording phase
        · intro other member
          refine sourced.stored other ?_
          simpa [noted, uncleared, stores, phase] using member
    · next recording seen phase =>
        have held := sourced.read recording seen phase
        have entered : ∀ other ∈ noted (caller, recorded) journal
            (fleet, .recordOn caller recorded choice),
            property other.outcome other.counts other.errorType := by
          intro other member
          rw [noted, uncleared] at member
          rcases List.mem_append.mp member with old | fresh
          · exact sourced.stored other old
          · have stored := Option.mem_toList.mp fresh
            simp only [stores, phase, Option.ite_none_right_eq_some] at stored
            exact Option.some.inj stored.2 ▸ held
        split at stepped
        · cases stepped
        · split at stepped <;>
          · cases stepped
            refine ⟨?_, ?_, entered⟩
            · intro other opened
              simp [recordMoved] at opened
            · intro other found read
              simp [recordMoved] at read
  · have records : next.records (process, kind) = fleet.records (process, kind) := by
      have different : (process, kind) ≠ (caller, recorded) := fun equal => same equal.symm
      unfold Fleet.recordStep at stepped
      split at stepped
      · cases stepped
      · cases stepped
        exact Function.update_of_ne different _ _
      · split at stepped
        · cases stepped
        · split at stepped <;>
          · cases stepped
            exact Function.update_of_ne different _ _
    refine sourced.of_same records ?_
    cases phase : fleet.records (process, kind) with
    | idle => simp only [stores, phase]
    | opened recording => simp only [stores, phase]
    | read recording seen =>
        simp only [stores, phase]
        exact if_neg fun both => same both.1

theorem Sourced.step
    (sourced : Sourced process kind property fleet journal)
    (requests : Requests process kind property action)
    (stepped : fleet.step roster action = some next) :
    Sourced process kind property next (noted (process, kind) journal (fleet, action)) := by
  cases action with
  | heartbeat caller number choice =>
      simp only [Fleet.step] at stepped
      split at stepped
      · cases stepped
      · obtain ⟨state, -, rfl⟩ := Option.map_eq_some_iff.mp stepped
        exact sourced.of_same rfl rfl
  | stop caller number choice =>
      simp only [Fleet.step] at stepped
      split at stepped
      · cases stepped
      · obtain ⟨state, -, rfl⟩ := Option.map_eq_some_iff.mp stepped
        exact sourced.of_same rfl rfl
  | record caller request choice =>
      simp only [Fleet.step] at stepped
      split at stepped
      · next recorded outcome guarded allowed =>
          split at stepped
          · cases stepped
            by_cases same : (process, kind) = (caller, recorded)
            · obtain ⟨rfl, rfl⟩ := Prod.mk.inj same
              refine ⟨?_, ?_, ?_⟩
              · intro recording opened
                cases succeeds : choice.succeeds <;> simp [recordMoved, succeeds] at opened
                rw [← opened]
                exact requests rfl guarded outcome allowed
              · intro recording seen read
                cases succeeds : choice.succeeds <;> simp [recordMoved, succeeds] at read
              · intro recording member
                exact sourced.stored recording (by simpa [noted, clears, stores] using member)
            · exact sourced.of_same (Function.update_of_ne same _ _) rfl
          · cases stepped
      · cases stepped
        exact sourced.of_same rfl rfl
  | recordOn caller recorded choice => exact sourced.recordStep stepped
  | sweep number owner now =>
      simp only [Fleet.step] at stepped
      split at stepped
      · cases stepped
      · cases stepped
        exact sourced.of_same rfl rfl
  | sweepOn number choice =>
      obtain ⟨sweep, running, taken⟩ := Option.bind_eq_some_iff.mp stepped
      refine sourced.of_same ?_ rfl
      rcases sweepStep_cases taken with ⟨-, -, records, -⟩ | ⟨-, -, -, rfl⟩
      · rw [records]
      · rfl

theorem journal_sourced
    {past : List (Fleet × FleetAction)}
    (run : (system roster).Run past fleet)
    (requests : ∀ entry ∈ past, Requests process kind property entry.2) :
    ∀ recording ∈ Fleet.journal past (process, kind),
      property recording.outcome recording.counts recording.errorType := by
  suffices sourced : Sourced process kind property fleet
      (Fleet.journal past (process, kind)) from sourced.stored
  induction run with
  | start initial =>
      cases initial
      refine ⟨?_, ?_, ?_⟩
      · intro recording opened
        cases opened
      · intro recording seen read
        cases read
      · intro recording member
        cases member
  | step _ stepped inductionHypothesis =>
      have earlier := inductionHypothesis fun entry member =>
        requests entry (List.mem_append_left _ member)
      rw [journal_concat]
      exact earlier.step
        (requests _ (List.mem_append_right _ (List.mem_singleton.mpr rfl))) stepped

end Sourced

end Fleet
end Status
end MailerAgent
