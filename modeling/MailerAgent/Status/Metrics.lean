import MailerAgent.Foundation.Window
import MailerAgent.Status.Retention

/-!
# Worker metrics

`worker_metrics` of `operator_metrics.py`: the most recent processes with their heartbeats
and their cycles, and a verdict over them. What is reported of a cycle is what its process
has recorded; the verdict is about the listed processes, and it says what that means for all
of them.
-/

namespace MailerAgent
namespace Status

open Concurrent Relational Transition

/-! ## Heartbeats -/

/-- `MAX_INSTANCES_LISTED`. -/
def maxInstancesListed : Nat := 20

/-- `_age_seconds`. -/
def ageSeconds
    (since : Option Instant)
    (now : Instant) : Option Nat :=
  since.map fun instant => ((now - instant) / second).toNat

/-- The states of a heartbeat. -/
inductive HeartbeatStatus where
  | fresh
  | stale
  | stopped
  deriving DecidableEq, Repr

/-- `heartbeat_status`. -/
def heartbeatStatus
    (stoppedAt heartbeatAt : Option Instant)
    (now : Instant)
    (staleAfterSeconds : Nat) : HeartbeatStatus :=
  if stoppedAt.isSome then .stopped
  else
    match ageSeconds heartbeatAt now with
    | none => .stale
    | some age => if staleAfterSeconds < age then .stale else .fresh

/-- The heartbeat of a process. -/
def RuntimeRow.status
    (row : RuntimeRow)
    (now : Instant)
    (staleAfterSeconds : Nat) :
    HeartbeatStatus :=
  heartbeatStatus row.stoppedAt (some row.heartbeatAt) now staleAfterSeconds

/-! ## Views -/

/-- What is reported of a cycle row. -/
structure CycleView where
  lastCycleAt : Instant
  lastCycleAgeSeconds : Option Nat
  lastOutcome : CycleOutcome
  lastCompletedAt : Option Instant
  consecutiveUnhealthyCycles : Nat
  cyclesRecordedSinceInstanceStart : Nat
  lastErrorType : Option String
  lastCycleCounts : List (String × Nat)
  countsSinceInstanceStart : List (String × Nat)
  deriving DecidableEq, Repr

/-- `_cycle_view`. -/
def cycleView
    (kind : CycleKind)
    (row : CycleRow)
    (now : Instant) : CycleView where
  lastCycleAt := row.lastCycleAt
  lastCycleAgeSeconds := ageSeconds (some row.lastCycleAt) now
  lastOutcome := row.lastOutcome
  lastCompletedAt := row.lastCompletedAt
  consecutiveUnhealthyCycles := row.consecutiveUnhealthyCycles
  cyclesRecordedSinceInstanceStart := row.cyclesRecorded
  lastErrorType := safeErrorType row.lastErrorType
  lastCycleCounts := cleanCounts kind row.lastCounts
  countsSinceInstanceStart := cleanCounts kind row.totalCounts

/-- What is reported of a process. -/
structure InstanceView where
  instanceId : String
  role : String
  heartbeatStatus : HeartbeatStatus
  startedAt : Instant
  uptimeSeconds : Option Nat
  lastHeartbeatAt : Instant
  heartbeatAgeSeconds : Option Nat
  stoppedAt : Option Instant
  cycles : List (CycleKind × CycleView)
  deriving DecidableEq, Repr

/-- The verdict over the processes. -/
inductive Verdict where
  | noInstancesRecorded
  | fresh
  | stale
  | stopped
  deriving DecidableEq, Repr

/-- What `worker_metrics` returns, without its explanations. -/
structure WorkerMetrics where
  generatedAt : Instant
  heartbeatIntervalSeconds : Nat
  staleAfterSeconds : Nat
  retentionHours : Nat
  heartbeatStatus : Verdict
  fresh : Nat
  stale : Nat
  stopped : Nat
  rolesWithMultipleFreshInstances : List String
  instances : List InstanceView
  instancesTruncated : Bool
  deriving DecidableEq, Repr

/-- The process rows, by heartbeat and then by id, the latest first. -/
def byHeartbeat (runtimes : Keyed String RuntimeRow) : List (String × RuntimeRow) :=
  runtimes.entries.reverse.mergeSort fun first second =>
    second.2.heartbeatAt ≤ first.2.heartbeatAt

/-- The cycles of a process that are reported. -/
def cyclesOf
    (cycles : Keyed (String × CycleKind) CycleRow)
    (now : Instant)
    (process : String) : List (CycleKind × CycleView) :=
  cycleKinds.filterMap fun kind =>
    (cycles.get (process, kind)).map fun row => (kind, cycleView kind row now)

/-- One entry of `instances`. -/
def instanceView
    (cycles : Keyed (String × CycleKind) CycleRow)
    (now : Instant)
    (staleAfterSeconds : Nat)
    (process : String)
    (row : RuntimeRow) : InstanceView :=
  let status := row.status now staleAfterSeconds
  { instanceId := process
    role := row.role
    heartbeatStatus := status
    startedAt := row.startedAt
    uptimeSeconds := if status = .stopped then none else ageSeconds (some row.startedAt) now
    lastHeartbeatAt := row.heartbeatAt
    heartbeatAgeSeconds := ageSeconds (some row.heartbeatAt) now
    stoppedAt := row.stoppedAt
    cycles := cyclesOf cycles now process }

/-- How many listed processes have a status. -/
def tally
    (instances : List InstanceView)
    (status : HeartbeatStatus) : Nat :=
  instances.countP fun listed => listed.heartbeatStatus == status

/-- The verdict over what was fetched. -/
def verdict (instances : List InstanceView) : Verdict :=
  if instances.isEmpty then .noInstancesRecorded
  else if tally instances .fresh ≠ 0 then .fresh
  else if tally instances .stale ≠ 0 then .stale
  else .stopped

/-- The roles of more than one fresh process. -/
def rolesWithMultipleFresh (instances : List InstanceView) : List String :=
  let roles := (instances.filter fun listed => listed.heartbeatStatus == .fresh).map (·.role)
  (roles.dedup.filter fun role => 1 < roles.count role).mergeSort (· ≤ ·)

/-- `worker_metrics`, with the tables that its two queries see. -/
def workerMetrics
    (runtimes : Keyed String RuntimeRow)
    (cycles : Keyed (String × CycleKind) CycleRow)
    (now : Instant)
    (staleAfterSeconds heartbeatIntervalSeconds retentionHours : Nat) : WorkerMetrics :=
  let fetched := (byHeartbeat runtimes).take (maxInstancesListed + 1)
  let instances := (fetched.take maxInstancesListed).map fun (process, row) =>
    instanceView cycles now staleAfterSeconds process row
  { generatedAt := now
    heartbeatIntervalSeconds := heartbeatIntervalSeconds
    staleAfterSeconds := staleAfterSeconds
    retentionHours := retentionHours
    heartbeatStatus := verdict instances
    fresh := tally instances .fresh
    stale := tally instances .stale
    stopped := tally instances .stopped
    rolesWithMultipleFreshInstances := rolesWithMultipleFresh instances
    instances := instances
    instancesTruncated := maxInstancesListed < fetched.length }

/-! ## What is reported of a cycle -/

/-- What is to be reported of the recordings of one kind. -/
def reportedCycle
    (kind : CycleKind)
    (journal : List Recording)
    (now : Instant) : Option CycleView :=
  journal.getLast?.map fun last =>
    { lastCycleAt := last.now
      lastCycleAgeSeconds := ageSeconds (some last.now) now
      lastOutcome := last.outcome
      lastCompletedAt := (journal.filter Recording.completes).getLast?.map Recording.now
      consecutiveUnhealthyCycles :=
        (journal.reverse.takeWhile fun recording => !recording.completes).length
      cyclesRecordedSinceInstanceStart := journal.length
      lastErrorType := if last.completes then none else safeErrorType last.errorType
      lastCycleCounts := cleanCounts kind last.counts
      countsSinceInstanceStart := counters kind (totalCount journal) }

/-- Cleaning an error type again changes nothing. -/
theorem safeErrorType_safeErrorType (name : Option String) :
    safeErrorType (safeErrorType name) = safeErrorType name := by
  cases name with
  | none => rfl
  | some text =>
      simp only [safeErrorType, Option.bind_some]
      generalize cleaned : (text.toList.filter errorTypeCharacter).take 64 = characters
      by_cases empty : characters.isEmpty = true
      · rw [if_pos empty]
        rfl
      · have clean : (characters.filter errorTypeCharacter).take 64 = characters := by
          have kept : characters.filter errorTypeCharacter = characters := by
            refine List.filter_eq_self.mpr fun character member => ?_
            rw [← cleaned] at member
            exact List.of_mem_filter (List.mem_of_mem_take member)
          rw [kept, ← cleaned, List.take_take, Nat.min_self]
        rw [if_neg empty, Option.bind_some, String.toList_ofList, clean, if_neg empty]

theorem cycleView_summary
    (kind : CycleKind)
    (journal : List Recording)
    (now : Instant) :
    ((summary kind journal).map fun row => cycleView kind row now) =
      reportedCycle kind journal now := by
  unfold summary reportedCycle
  rw [Option.map_map]
  congr 1
  funext last
  have errorType : safeErrorType (if last.completes then none else
      safeErrorType last.errorType) =
        if last.completes then none else safeErrorType last.errorType := by
    split
    · rfl
    · exact safeErrorType_safeErrorType last.errorType
  have counts : cleanCounts kind (some (storedCounts (cleanCounts kind last.counts))) =
      cleanCounts kind last.counts := cleanCounts_storedCounts kind _
  simp only [Function.comp_apply, cycleView, errorType, counts, cleanCounts_storedCounts]

/-- The cycles that are reported of a process at any time of a run. -/
theorem cyclesOf_run
    {roster : Roster}
    {past : List (Fleet × FleetAction)}
    {fleet : Fleet}
    (run : (Fleet.system roster).Run past fleet)
    (now : Instant)
    (process : String) :
    cyclesOf fleet.cycles now process = cycleKinds.filterMap fun kind =>
      (reportedCycle kind (Fleet.journal past (process, kind)) now).map fun view =>
        (kind, view) := by
  unfold cyclesOf
  congr 1
  funext kind
  rw [Fleet.cycles_of_run run, ← cycleView_summary, Option.map_map]
  rfl

/-! ## Which processes are listed -/

section Listing

variable {runtimes : Keyed String RuntimeRow} {cycles : Keyed (String × CycleKind) CycleRow}
variable {now : Instant} {staleAfterSeconds heartbeatIntervalSeconds retentionHours : Nat}

theorem mem_byHeartbeat {entry : String × RuntimeRow} :
    entry ∈ byHeartbeat runtimes ↔ entry ∈ runtimes.entries := by
  unfold byHeartbeat
  rw [List.mem_mergeSort, List.mem_reverse]

theorem length_byHeartbeat :
    (byHeartbeat runtimes).length = runtimes.entries.length := by
  unfold byHeartbeat
  rw [List.length_mergeSort, List.length_reverse]

/-- The latest heartbeats come first. -/
theorem byHeartbeat_sorted :
    (byHeartbeat runtimes).Pairwise fun first second =>
      second.2.heartbeatAt ≤ first.2.heartbeatAt := by
  have sorted : (byHeartbeat runtimes).Pairwise fun first second =>
      decide (second.2.heartbeatAt ≤ first.2.heartbeatAt) = true := by
    refine List.pairwise_mergeSort ?_ ?_ _
    · intro first second third newer older
      exact decide_eq_true
        (Int.le_trans (of_decide_eq_true older) (of_decide_eq_true newer))
    · intro first second
      simpa using Int.le_total second.2.heartbeatAt first.2.heartbeatAt
  exact sorted.imp of_decide_eq_true

theorem nodup_byHeartbeat : (byHeartbeat runtimes).Nodup := by
  unfold byHeartbeat
  rw [(List.mergeSort_perm _ _).nodup_iff, List.nodup_reverse]
  exact List.Nodup.of_map _ runtimes.distinct

/-- The listed processes are the most recent ones. -/
theorem byHeartbeat_recent :
    Window.Recent (fun entry => entry ∈ runtimes.entries)
      (fun first second => first.2.heartbeatAt ≤ second.2.heartbeatAt) maxInstancesListed
      ((byHeartbeat runtimes).take maxInstancesListed).reverse
      (decide (maxInstancesListed < runtimes.entries.length)) := by
  rw [← length_byHeartbeat]
  exact .of_sorted (fun _ => mem_byHeartbeat) byHeartbeat_sorted nodup_byHeartbeat _

theorem instances_eq :
    (workerMetrics runtimes cycles now staleAfterSeconds heartbeatIntervalSeconds
      retentionHours).instances =
      ((byHeartbeat runtimes).take maxInstancesListed).map fun (process, row) =>
        instanceView cycles now staleAfterSeconds process row := by
  simp only [workerMetrics, List.take_take]
  rfl

theorem mem_instances {listed : InstanceView} :
    listed ∈ (workerMetrics runtimes cycles now staleAfterSeconds heartbeatIntervalSeconds
      retentionHours).instances ↔
      ∃ process row, (process, row) ∈ (byHeartbeat runtimes).take maxInstancesListed ∧
        listed = instanceView cycles now staleAfterSeconds process row := by
  rw [instances_eq, List.mem_map]
  constructor
  · rintro ⟨⟨process, row⟩, member, rfl⟩
    exact ⟨process, row, member, rfl⟩
  · rintro ⟨process, row, member, rfl⟩
    exact ⟨(process, row), member, rfl⟩

/-- An older heartbeat is not fresher. -/
theorem status_of_older
    {older newer : RuntimeRow}
    (order : older.heartbeatAt ≤ newer.heartbeatAt)
    (stale : newer.status now staleAfterSeconds = .stale) :
    older.status now staleAfterSeconds ≠ .fresh := by
  unfold RuntimeRow.status heartbeatStatus ageSeconds at stale ⊢
  split at stale
  · cases stale
  · dsimp only [Option.map_some] at stale ⊢
    have aged : ((now - newer.heartbeatAt) / second).toNat ≤
        ((now - older.heartbeatAt) / second).toNat := by
      refine Int.toNat_le_toNat (Int.ediv_le_ediv ?_ (Int.sub_le_sub_left order now))
      exact Int.natCast_pos.mpr (by decide)
    split at stale
    · next old =>
        split
        · nofun
        · rw [if_pos (Nat.lt_of_lt_of_le old aged)]
          nofun
    · cases stale

theorem tally_ne_zero
    {instances : List InstanceView}
    {status : HeartbeatStatus} :
    tally instances status ≠ 0 ↔ ∃ listed ∈ instances, listed.heartbeatStatus = status := by
  unfold tally
  rw [← Nat.pos_iff_ne_zero, List.countP_pos_iff]
  simp

/-- Every listed process has one of the three statuses. -/
theorem tally_sum (instances : List InstanceView) :
    tally instances .fresh + tally instances .stale + tally instances .stopped =
      instances.length := by
  unfold tally
  induction instances with
  | nil => rfl
  | cons listed instances inductionHypothesis =>
      rw [List.length_cons, List.countP_cons, List.countP_cons, List.countP_cons,
        ← inductionHypothesis]
      cases listed.heartbeatStatus <;> simp <;> omega

/-! ## Verdicts -/

theorem verdict_eq_noInstancesRecorded {instances : List InstanceView} :
    verdict instances = .noInstancesRecorded ↔ instances = [] := by
  unfold verdict
  constructor
  · intro judged
    split at judged
    · next empty => exact List.isEmpty_iff.mp empty
    · split at judged
      · cases judged
      · split at judged <;> cases judged
  · rintro rfl
    rfl

theorem verdict_eq_fresh {instances : List InstanceView} :
    verdict instances = .fresh ↔
      ∃ listed ∈ instances, listed.heartbeatStatus = .fresh := by
  rw [← tally_ne_zero]
  unfold verdict
  constructor
  · intro fresh
    split at fresh
    · cases fresh
    · split at fresh
      · next counted => exact counted
      · split at fresh <;> cases fresh
  · intro counted
    have nonempty : ¬ instances.isEmpty = true := by
      intro empty
      rw [List.isEmpty_iff.mp empty] at counted
      exact counted rfl
    rw [if_neg nonempty, if_pos counted]

theorem exists_stale_of_verdict
    {instances : List InstanceView}
    (stale : verdict instances = .stale) :
    ∃ listed ∈ instances, listed.heartbeatStatus = .stale := by
  rw [← tally_ne_zero]
  unfold verdict at stale
  split at stale
  · cases stale
  · split at stale
    · cases stale
    · split at stale
      · next counted => exact counted
      · cases stale

/-- What the verdict says about a live process. -/
theorem verdict_of_fresh
    {process : String}
    {row : RuntimeRow}
    (found : runtimes.get process = some row)
    (fresh : row.status now staleAfterSeconds = .fresh) :
    let metrics := workerMetrics runtimes cycles now staleAfterSeconds
      heartbeatIntervalSeconds retentionHours
    metrics.heartbeatStatus = .fresh ∨
      metrics.heartbeatStatus = .stopped ∧ metrics.instances.length = maxInstancesListed ∧
        ∀ listed ∈ metrics.instances, row.heartbeatAt ≤ listed.lastHeartbeatAt := by
  intro metrics
  have stored := Keyed.get_eq_some_iff.mp found
  by_cases chosen : (process, row) ∈ (byHeartbeat runtimes).take maxInstancesListed
  · have listed : instanceView cycles now staleAfterSeconds process row ∈ metrics.instances :=
      mem_instances.mpr ⟨process, row, chosen, rfl⟩
    exact .inl (verdict_eq_fresh.mpr ⟨_, listed, fresh⟩)
  · -- The list is full of processes whose heartbeats are no older.
    have hidden : (process, row) ∉ ((byHeartbeat runtimes).take maxInstancesListed).reverse :=
      fun member => chosen (List.mem_reverse.mp member)
    have full : metrics.instances.length = maxInstancesListed := by
      have exactly := byHeartbeat_recent.full _ stored hidden
      rw [List.length_reverse] at exactly
      rw [instances_eq, List.length_map, exactly]
    have later : ∀ listed ∈ metrics.instances, row.heartbeatAt ≤ listed.lastHeartbeatAt := by
      intro listed member
      obtain ⟨other, newer, taken, rfl⟩ := mem_instances.mp member
      exact byHeartbeat_recent.recent _ stored hidden _ (List.mem_reverse.mpr taken)
    cases judged : metrics.heartbeatStatus with
    | fresh => exact .inl rfl
    | stopped => exact .inr ⟨rfl, full, later⟩
    | noInstancesRecorded =>
        have empty : metrics.instances = [] := verdict_eq_noInstancesRecorded.mp judged
        rw [empty] at full
        cases full
    | stale =>
        obtain ⟨listed, member, stale⟩ := exists_stale_of_verdict judged
        have order := later listed member
        have member : listed ∈ metrics.instances := member
        obtain ⟨other, newer, taken, rfl⟩ := mem_instances.mp member
        exact absurd fresh (status_of_older order stale)

end Listing

namespace Sample

/-- A process is silent for longer than the retention, and then records again. -/
def silence : List FleetAction :=
  registers "a" 0 0 ++ records "a" 0 lossyCycle ++ cleansUp "b" (73 * 3600 * second) ++
    registers "a" 1 (73 * 3600 * second) ++ records "a" (73 * 3600 * second) lossyCycle

end Sample

/-- In every run, what the metrics report of each listed process is the heartbeat that the
query for the processes saw, in whichever state, and, for each kind of cycle, what the process
has recorded, up to the state that the query for the cycles sees, since a clean-up last deleted
the cycle row: the latest recording, the streak of unhealthy ones, and the sums of all
counters. -/
theorem worker_metrics_report_recordings
    (roster : Roster)
    (past : List (Fleet × FleetAction))
    (fleet : Fleet)
    (run : (Fleet.system roster).Run past fleet)
    (runtimes : Keyed String RuntimeRow)
    (now : Instant)
    (staleAfterSeconds heartbeatIntervalSeconds retentionHours : Nat) :
    ∀ listed ∈ (workerMetrics runtimes fleet.cycles now staleAfterSeconds
      heartbeatIntervalSeconds retentionHours).instances,
      (∃ row, runtimes.get listed.instanceId = some row ∧
        listed.heartbeatStatus = row.status now staleAfterSeconds ∧
        listed.startedAt = row.startedAt ∧ listed.lastHeartbeatAt = row.heartbeatAt) ∧
      listed.cycles = cycleKinds.filterMap fun kind =>
        (reportedCycle kind (Fleet.journal past (listed.instanceId, kind)) now).map
          fun view => (kind, view) := by
  intro listed member
  obtain ⟨process, row, chosen, rfl⟩ := mem_instances.mp member
  have stored := mem_byHeartbeat.mp (List.mem_of_mem_take chosen)
  exact ⟨⟨row, Keyed.get_eq_some_iff.mpr stored, rfl, rfl, rfl⟩, cyclesOf_run run now process⟩

/-- What was recorded before the silence is not reported. -/
theorem worker_metrics_report_recordings_after_silence :
    ∃ past fleet listed, (Fleet.system Sample.roster).Run past fleet ∧
      listed ∈ (workerMetrics fleet.runtimes fleet.cycles (73 * 3600 * second) 60 20
        72).instances ∧
      (Fleet.journal past (listed.instanceId, .externalDispatch)).length = 1 ∧
      listed.cycles = cycleKinds.filterMap fun kind =>
        (reportedCycle kind (Fleet.journal past (listed.instanceId, kind))
          (73 * 3600 * second)).map fun view => (kind, view) := by
  obtain ⟨past, fleet, run, holds⟩ := System.exists_run_of_record
    (show (Fleet.system Sample.roster).initial {} from rfl) Sample.silence
    (fun ran => (workerMetrics ran.2.runtimes ran.2.cycles (73 * 3600 * second) 60 20
      72).instances.any fun listed =>
        (Fleet.journal ran.1 (listed.instanceId, .externalDispatch)).length == 1)
    (by decide +kernel)
  obtain ⟨listed, member, recorded⟩ := List.any_eq_true.mp holds
  exact ⟨past, fleet, listed, run, member, beq_iff_eq.mp recorded,
    (worker_metrics_report_recordings Sample.roster past fleet run fleet.runtimes
      (73 * 3600 * second) 60 20 72 listed member).2⟩

/-- The verdict and the counts of the metrics, for the whole table: every process is counted
unless the list is cut; the verdict fresh names a live process, the verdict stale holds of
all processes even if the list is cut, and a live process that is not listed stands behind
as many processes as are listed, none with an older heartbeat. -/
theorem worker_metrics_verdict_sound
    (runtimes : Keyed String RuntimeRow)
    (cycles : Keyed (String × CycleKind) CycleRow)
    (now : Instant)
    (staleAfterSeconds heartbeatIntervalSeconds retentionHours : Nat) :
    let metrics := workerMetrics runtimes cycles now staleAfterSeconds
      heartbeatIntervalSeconds retentionHours
    metrics.fresh + metrics.stale + metrics.stopped =
        min maxInstancesListed runtimes.entries.length ∧
      (metrics.instancesTruncated = true ↔ maxInstancesListed < runtimes.entries.length) ∧
      (metrics.heartbeatStatus = .noInstancesRecorded ↔ runtimes.entries = []) ∧
      (metrics.heartbeatStatus = .fresh → ∃ process row, runtimes.get process = some row ∧
        row.status now staleAfterSeconds = .fresh) ∧
      (metrics.heartbeatStatus = .stale → ∀ process row, runtimes.get process = some row →
        row.status now staleAfterSeconds ≠ .fresh) ∧
      ∀ process row, runtimes.get process = some row →
        row.status now staleAfterSeconds = .fresh →
        metrics.heartbeatStatus = .fresh ∨
          metrics.heartbeatStatus = .stopped ∧ metrics.instances.length = maxInstancesListed ∧
            ∀ listed ∈ metrics.instances, row.heartbeatAt ≤ listed.lastHeartbeatAt := by
  intro metrics
  have length : metrics.instances.length =
      min maxInstancesListed runtimes.entries.length := by
    rw [instances_eq, List.length_map, List.length_take, length_byHeartbeat]
  refine ⟨(tally_sum metrics.instances).trans length, ?_, ?_, ?_, ?_,
    fun process row found fresh => verdict_of_fresh found fresh⟩
  · change decide (maxInstancesListed <
      ((byHeartbeat runtimes).take (maxInstancesListed + 1)).length) = true ↔ _
    rw [decide_eq_true_iff, List.length_take, length_byHeartbeat]
    omega
  · refine verdict_eq_noInstancesRecorded.trans ?_
    rw [← List.length_eq_zero_iff, ← List.length_eq_zero_iff]
    change metrics.instances.length = 0 ↔ _
    rw [length]
    unfold maxInstancesListed
    omega
  · intro judged
    obtain ⟨listed, member, fresh⟩ := verdict_eq_fresh.mp judged
    have member : listed ∈ metrics.instances := member
    obtain ⟨process, row, chosen, rfl⟩ := mem_instances.mp member
    exact ⟨process, row,
      Keyed.get_eq_some_iff.mpr (mem_byHeartbeat.mp (List.mem_of_mem_take chosen)), fresh⟩
  · intro judged process row found fresh
    rcases verdict_of_fresh found fresh with live | ⟨stopped, -⟩
    · cases judged.symm.trans live
    · cases judged.symm.trans stopped

/-! ## Balance -/

/-- Whenever the process records a cycle of dispatches, the dispatch job does. -/
def RecordedByJob (process : String) : FleetAction → Prop
  | .record caller request _ => caller = process →
      request.kind = CycleKind.externalDispatch.value →
      ∃ ended, request = dispatchExternalDispatchesJob ended
  | _ => True

theorem ofValue_eq_some
    {text : String}
    {kind : CycleKind}
    (known : CycleKind.ofValue text = some kind) :
    text = kind.value := by
  have matched := List.find?_some known
  have equal : kind.value = text := by simpa using matched
  exact equal.symm

theorem requests_of_recordedByJob
    {process : String}
    {action : FleetAction}
    (recorded : RecordedByJob process action) :
    Fleet.Requests process .externalDispatch
      (fun outcome counts _ => Balanced outcome (counted counts)) action := by
  cases action with
  | record caller request choice =>
      intro same known outcome allowed
      obtain ⟨ended, rfl⟩ := recorded same (ofValue_eq_some known)
      exact balanced_dispatchExternalDispatchesJob ended outcome allowed
  | _ => trivial

/-- Sums of balanced counters. -/
theorem balanced_totalCount
    {journal : List Recording}
    (balanced : ∀ recording ∈ journal, Balanced recording.outcome (counted recording.counts)) :
    totalCount journal "processed" = totalCount journal "smtp_accepted" +
        totalCount journal "failed" + totalCount journal "unknown" ∧
      totalCount journal "smtp_attempted" ≤ totalCount journal "processed" ∧
      totalCount journal "outcome_not_persisted" ≤ totalCount journal "processed" := by
  induction journal with
  | nil => exact ⟨rfl, Nat.le_refl 0, Nat.le_refl 0⟩
  | cons recording journal inductionHypothesis =>
      obtain ⟨processed, attempted, unpersisted⟩ := inductionHypothesis fun other member =>
        balanced other (List.mem_cons_of_mem _ member)
      have first := balanced recording List.mem_cons_self
      have firstProcessed := first.processed
      have firstAttempted := first.attempted
      have firstUnpersisted := first.unpersisted
      simp only [totalCount, List.map_cons, List.sum_cons] at processed attempted unpersisted ⊢
      omega

/-- In every run in which the dispatch job records the cycles of dispatches, the reported
counters fit together, those of the latest cycle as well as the sums: every processed
dispatch was accepted, failed or is unknown. A cycle is reported as completed only if all
its outcomes were stored, and after it no unhealthy streak is reported. -/
theorem reported_dispatch_counts_balance
    (roster : Roster)
    (past : List (Fleet × FleetAction))
    (fleet : Fleet)
    (run : (Fleet.system roster).Run past fleet)
    (now : Instant)
    (process : String)
    (recorded : ∀ entry ∈ past, RecordedByJob process entry.2)
    (view : CycleView)
    (reported : (.externalDispatch, view) ∈ cyclesOf fleet.cycles now process) :
    ∃ last total, view.lastCycleCounts = counters .externalDispatch last ∧
      view.countsSinceInstanceStart = counters .externalDispatch total ∧
      Balanced view.lastOutcome last ∧
      total "processed" = total "smtp_accepted" + total "failed" + total "unknown" ∧
      total "smtp_attempted" ≤ total "processed" ∧
      total "outcome_not_persisted" ≤ total "processed" ∧
      (view.lastOutcome = .completed → view.consecutiveUnhealthyCycles = 0) := by
  have balanced := Fleet.journal_sourced run fun entry member =>
    requests_of_recordedByJob (recorded entry member)
  rw [cyclesOf_run run] at reported
  obtain ⟨kind, -, same⟩ := List.mem_filterMap.mp reported
  obtain ⟨shown, computed, equal⟩ := Option.map_eq_some_iff.mp same
  obtain ⟨rfl, rfl⟩ := Prod.mk.inj equal
  obtain ⟨last, ended, rfl⟩ := Option.map_eq_some_iff.mp computed
  have member : last ∈ Fleet.journal past (process, .externalDispatch) :=
    List.mem_of_getLast? ended
  refine ⟨counted last.counts, totalCount (Fleet.journal past (process, .externalDispatch)),
    rfl, rfl, balanced last member, ?_⟩
  obtain ⟨processed, attempted, unpersisted⟩ := balanced_totalCount balanced
  refine ⟨processed, attempted, unpersisted, fun completed => ?_⟩
  obtain ⟨earlier, split⟩ := List.getLast?_eq_some_iff.mp ended
  have completes : last.completes = true := beq_iff_eq.mpr completed
  simp [split, completes]

namespace Sample

/-- Only the lossy cycle is recorded. -/
def recordsLossyCycle : FleetAction → Bool
  | .record _ request _ => request == dispatchExternalDispatchesJob lossyCycle
  | _ => true

theorem recordedByJob_of_lossyCycle
    {process : String}
    {action : FleetAction}
    (lossy : recordsLossyCycle action = true) :
    RecordedByJob process action := by
  cases action with
  | record caller request choice => exact fun _ _ => ⟨lossyCycle, beq_iff_eq.mp lossy⟩
  | _ => trivial

end Sample

/-- The lossy cycle after the silence. -/
theorem reported_dispatch_counts_balance_after_silence :
    ∃ past fleet view, (Fleet.system Sample.roster).Run past fleet ∧
      (.externalDispatch, view) ∈ cyclesOf fleet.cycles (73 * 3600 * second) "a" ∧
      view.lastOutcome = .degraded ∧
      ∃ last total, view.lastCycleCounts = counters .externalDispatch last ∧
        view.countsSinceInstanceStart = counters .externalDispatch total ∧
        Balanced view.lastOutcome last := by
  obtain ⟨past, fleet, run, holds⟩ := System.exists_run_of_record
    (show (Fleet.system Sample.roster).initial {} from rfl) Sample.silence
    (fun ran => ran.1.all (fun entry => Sample.recordsLossyCycle entry.2) &&
      (cyclesOf ran.2.cycles (73 * 3600 * second) "a").any fun shown =>
        shown.1 == .externalDispatch && shown.2.lastOutcome == .degraded)
    (by decide +kernel)
  obtain ⟨lossy, shown⟩ := Bool.and_eq_true_iff.mp holds
  obtain ⟨⟨kind, view⟩, reported, matching⟩ := List.any_eq_true.mp shown
  obtain ⟨chosen, degraded⟩ := Bool.and_eq_true_iff.mp matching
  obtain rfl := beq_iff_eq.mp chosen
  obtain ⟨last, total, lastCounts, totals, balanced, -⟩ := reported_dispatch_counts_balance
    Sample.roster past fleet run (73 * 3600 * second) "a"
    (fun entry member => Sample.recordedByJob_of_lossyCycle (List.all_eq_true.mp lossy _ member))
    view reported
  exact ⟨past, fleet, view, run, reported, beq_iff_eq.mp degraded, last, total, lastCounts,
    totals, balanced⟩

end Status
end MailerAgent
