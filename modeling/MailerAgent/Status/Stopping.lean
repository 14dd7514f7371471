import MailerAgent.Status.Recorder

/-!
# A stopped worker does not look alive

In a run in which no heartbeat inserts the row after the update of a stop has run, the row
is stopped once the stop has returned, and it stays as it is when the heartbeats in progress
have ended. The flag that a heartbeat tests first does not keep it from the insertion.
-/

namespace MailerAgent
namespace Status

open Concurrent Transition

/-- The step makes the row. -/
def Inserts (state : State) : Action → Prop
  | .heartbeat number choice =>
      (∃ now, state.heartbeats number = .inserting now) ∧ state.row = none ∧
        choice.rejected = false ∧ choice.outcome ≠ .failed
  | _ => False

/-- The row is not made after the update of a stop has run. -/
def Timely
    (state : State)
    (action : Action) : Prop :=
  Inserts state action → ∀ number, (state.stops number).settled = false

/-! ## The invariant -/

/-- The transaction that keeps the row is the one that has found it live; a stop whose
update has run leaves no live row. -/
structure Orderly (state : State) : Prop where
  heartbeats : ∀ number, (state.heartbeats number).holds = true →
    state.holder = some (.heartbeat number)
  stops : ∀ number, (state.stops number).holds = true → state.holder = some (.stop number)
  held : state.holder ≠ none → live state.row = true
  settled : ∀ number, (state.stops number).settled = true → live state.row = false
  flagged : ∀ number, (state.stops number).begun = true → state.stopped = true

section Orderly

variable {recorder : Recorder} {state next : State} {number : Nat} {choice : Choice}

theorem orderly_initial : Orderly {} where
  heartbeats _ wrong := nomatch wrong
  stops _ wrong := nomatch wrong
  held wrong := absurd rfl wrong
  settled _ wrong := nomatch wrong
  flagged _ wrong := nomatch wrong

theorem Orderly.released
    (orderly : Orderly state)
    (dead : live state.row = false) :
    state.holder = none := by
  by_contra held
  exact nomatch dead.symm.trans (orderly.held held)

theorem Orderly.heartbeat
    (orderly : Orderly state)
    (timely : Timely state (.heartbeat number choice))
    (move : HeartbeatMove recorder state number choice next) :
    Orderly next := by
  cases move with
  | quiet phase before after =>
      refine ⟨?_, orderly.stops, orderly.held, orderly.settled, orderly.flagged⟩
      intro other holds
      exact orderly.heartbeats other (State.holds_heartbeatMoved after holds).2
  | acquires phase released found =>
      refine ⟨?_, ?_, fun _ => found, orderly.settled, orderly.flagged⟩
      · intro other holds
        simp only [State.heartbeatMoved, Function.update_apply] at holds
        split at holds
        case isTrue same => rw [same]; rfl
        case isFalse => cases released.symm.trans (orderly.heartbeats other holds)
      · intro other holds
        cases released.symm.trans (orderly.stops other holds)
  | commits row phase before same after =>
      have mine := orderly.heartbeats number before
      have found := orderly.held (by simp [mine])
      refine ⟨?_, ?_, fun wrong => absurd rfl wrong, ?_, orderly.flagged⟩
      · intro other holds
        obtain ⟨different, holds⟩ := State.holds_heartbeatMoved after holds
        cases mine.symm.trans (orderly.heartbeats other holds)
        exact absurd rfl different
      · intro other holds
        cases mine.symm.trans (orderly.stops other holds)
      · intro other settled
        cases found.symm.trans (orderly.settled other settled)
  | inserts now phase before absent accepted after =>
      have unsettled := timely ⟨⟨now, before⟩, absent, accepted⟩
      have released := orderly.released (by rw [absent]; rfl)
      refine ⟨?_, orderly.stops, fun held => absurd released held, ?_, orderly.flagged⟩
      · intro other holds
        exact orderly.heartbeats other (State.holds_heartbeatMoved after holds).2
      · intro other settled
        cases (unsettled other).symm.trans settled

theorem Orderly.stop
    (orderly : Orderly state)
    (move : StopMove state number next) :
    Orderly next := by
  cases move with
  | quiet stopped phase kept before after settled begun =>
      refine ⟨orderly.heartbeats, ?_, orderly.held, ?_, ?_⟩
      · intro other holds
        exact orderly.stops other (State.holds_stopMoved after holds).2
      · intro other done
        rcases State.stopMoved_cases (fun phase => phase.settled = true) done with
          mine | theirs
        · exact orderly.settled number (settled mine)
        · exact orderly.settled other theirs
      · intro other done
        rcases State.stopMoved_cases (fun phase => phase.begun = true) done with
          mine | theirs
        · rcases begun mine with flag | earlier
          · exact flag
          · exact kept (orderly.flagged number earlier)
        · exact kept (orderly.flagged other theirs)
  | misses begun missed =>
      refine ⟨orderly.heartbeats, ?_, orderly.held, fun _ _ => missed,
        fun _ _ => orderly.flagged number begun⟩
      intro other holds
      exact orderly.stops other (State.holds_stopMoved rfl holds).2
  | acquires phase begun released found unsettled =>
      refine ⟨?_, ?_, fun _ => found, ?_, fun _ _ => orderly.flagged number begun⟩
      · intro other holds
        cases released.symm.trans (orderly.heartbeats other holds)
      · intro other holds
        simp only [State.stopMoved, Function.update_apply] at holds
        split at holds
        case isTrue same => rw [same]; rfl
        case isFalse => cases released.symm.trans (orderly.stops other holds)
      · intro other done
        rcases State.stopMoved_cases (fun phase => phase.settled = true) done with
          mine | theirs
        · cases unsettled.symm.trans mine
        · exact orderly.settled other theirs
  | commits row phase begun before changed after =>
      have mine := orderly.stops number before
      have found := orderly.held (by simp [mine])
      refine ⟨?_, ?_, fun wrong => absurd rfl wrong, ?_,
        fun _ _ => orderly.flagged number begun⟩
      · intro other holds
        cases mine.symm.trans (orderly.heartbeats other holds)
      · intro other holds
        obtain ⟨different, holds⟩ := State.holds_stopMoved after holds
        cases mine.symm.trans (orderly.stops other holds)
        exact absurd rfl different
      · intro other done
        rcases changed with ⟨-, unsettled⟩ | stopped
        · rcases State.stopMoved_cases (fun phase => phase.settled = true) done with
            mine | theirs
          · cases unsettled.symm.trans mine
          · cases found.symm.trans (orderly.settled other theirs)
        · exact stopped

/-- The clean-up of another process waits for a transaction that keeps the row. -/
theorem purge_cases (stepped : (system recorder).step state .purge = some next) :
    state.holder = none ∧ next = { state with row := none } := by
  simp only [system, step] at stepped
  split at stepped
  case isTrue => exact nomatch stepped
  case isFalse released =>
    cases stepped
    exact ⟨Option.not_isSome_iff_eq_none.mp released, rfl⟩

theorem Orderly.purge
    (orderly : Orderly state)
    (released : state.holder = none) :
    Orderly { state with row := none } where
  heartbeats := orderly.heartbeats
  stops := orderly.stops
  held held := absurd released held
  settled _ _ := rfl
  flagged := orderly.flagged

theorem orderly_of_reachableWhen (reachable : (system recorder).ReachableWhen Timely state) :
    Orderly state := by
  refine System.ReachableWhen.invariant ?_ ?_ reachable
  · rintro _ rfl
    exact orderly_initial
  · intro before action after orderly timely stepped
    cases action with
    | heartbeat number choice => exact orderly.heartbeat timely (heartbeatStep_moves stepped)
    | stop number choice => exact orderly.stop (stopStep_moves stepped)
    | purge =>
        obtain ⟨released, rfl⟩ := purge_cases stepped
        exact orderly.purge released

end Orderly

/-! ## After the stop -/

/-- The flag is set, no call is past it, and the row is as it was, or deleted. -/
structure Quiescent
    (row : Option RuntimeRow)
    (state : State) : Prop where
  flagged : state.stopped = true
  heartbeats : ∀ number, (state.heartbeats number).ended = true
  stops : ∀ number, (state.stops number).holds = false
  dead : live state.row = false
  same : state.row = none ∨ state.row = row

section Quiescent

variable {recorder : Recorder} {row : Option RuntimeRow} {state next : State} {number : Nat}
variable {choice : Choice}

theorem Quiescent.heartbeat
    (quiescent : Quiescent row state)
    (stepped : heartbeatStep recorder state number choice = some next) :
    Quiescent row next := by
  obtain ⟨phase, ended, rfl⟩ :=
    heartbeatStep_ended quiescent.flagged (quiescent.heartbeats number) stepped
  refine ⟨quiescent.flagged, ?_, quiescent.stops, quiescent.dead, quiescent.same⟩
  intro other
  simp only [State.heartbeatMoved, Function.update_apply]
  split
  · exact ended
  · exact quiescent.heartbeats other

theorem Quiescent.stopMoved
    {stopped : Bool}
    {phase : StopPhase}
    (quiescent : Quiescent row state)
    (kept : state.stopped = true → stopped = true)
    (after : phase.holds = false) :
    Quiescent row ({ state with stopped := stopped }.stopMoved number phase) := by
  refine ⟨kept quiescent.flagged, quiescent.heartbeats, ?_, quiescent.dead, quiescent.same⟩
  intro other
  simp only [State.stopMoved, Function.update_apply]
  split
  · exact after
  · exact quiescent.stops other

theorem Quiescent.stop
    (quiescent : Quiescent row state)
    (move : StopMove state number next) :
    Quiescent row next := by
  cases move with
  | quiet stopped phase kept before after settled begun => exact quiescent.stopMoved kept after
  | misses begun missed => exact quiescent.stopMoved id rfl
  | acquires phase begun released found unsettled =>
      exact nomatch quiescent.dead.symm.trans found
  | commits row phase begun before changed after =>
      exact nomatch (quiescent.stops number).symm.trans before

theorem Quiescent.reaches
    {later : State}
    (quiescent : Quiescent row state)
    (reaches : (system recorder).Reaches state later) :
    Quiescent row later := by
  induction reaches with
  | refl => exact quiescent
  | tail _ stepped hypothesis =>
      obtain ⟨action, stepped⟩ := stepped
      cases action with
      | heartbeat number choice => exact hypothesis.heartbeat stepped
      | stop number choice => exact hypothesis.stop (stopStep_moves stepped)
      | purge =>
          obtain ⟨-, rfl⟩ := purge_cases stepped
          exact ⟨hypothesis.flagged, hypothesis.heartbeats, hypothesis.stops, rfl, .inl rfl⟩

/-- A stop that has returned normally leaves an orderly state quiescent as soon as no call
is past the flag. -/
theorem Orderly.quiescent
    (orderly : Orderly state)
    (stopped : state.stops number = .returned true)
    (ended : ∀ number, (state.heartbeats number).ended = true) :
    Quiescent state.row state := by
  have dead := orderly.settled number (by rw [stopped]; rfl)
  have released := orderly.released dead
  refine ⟨orderly.flagged number (by rw [stopped]; rfl), ended, ?_, dead, .inr rfl⟩
  intro other
  by_contra holds
  exact nomatch released.symm.trans (orderly.stops other (by simpa using holds))

theorem stoppedAt_of_dead
    {present : RuntimeRow}
    (dead : live (some present) = false) :
    present.stoppedAt ≠ none := by
  intro absent
  simp [live, absent] at dead

end Quiescent

/-- In every run in which no heartbeat inserts the row after the update of a stop has run:
when a stop has returned normally and the heartbeats in progress have ended, the row, if
there is one, is stopped, and from then on it is never another one. -/
theorem stopped_worker_not_alive
    (recorder : Recorder)
    (state later : State)
    (reachable : (system recorder).ReachableWhen Timely state)
    (stopped : ∃ number, state.stops number = .returned true)
    (ended : ∀ number, (state.heartbeats number).ended = true)
    (reaches : (system recorder).Reaches state later) :
    ∀ row, later.row = some row → row.stoppedAt ≠ none ∧ state.row = some row := by
  obtain ⟨number, stopped⟩ := stopped
  have quiescent := (orderly_of_reachableWhen reachable).quiescent stopped ended
  have after := quiescent.reaches reaches
  intro row present
  refine ⟨stoppedAt_of_dead (present ▸ after.dead), ?_⟩
  rcases after.same with absent | same
  · exact nomatch present.symm.trans absent
  · exact same.symm.trans present

namespace Sample

/-- A recorder. -/
def recorder : Recorder where
  startedAt := 0

/-- Steps of one call, each answered well. -/
def beats (number : Nat) : List Action :=
  List.replicate number (.heartbeat 0 {})

/-- A stop from its call to its end. -/
def stop : List Action :=
  List.replicate 5 (.stop 0 {})

/-- The first heartbeat has passed the flag when the process is stopped. -/
def overtaken : List Action :=
  beats 2 ++ stop ++ beats 5

/-- The first heartbeat has ended when the process is stopped. -/
def inTurn : List Action :=
  beats 7 ++ stop

end Sample

/-- The row that a heartbeat inserts after the stop looks alive. -/
theorem stopped_worker_alive :
    ∃ state, (system Sample.recorder).Reachable state ∧
      (∃ number, state.stops number = .returned true) ∧
      (∀ number, (state.heartbeats number).ended = true) ∧
      ∃ row, state.row = some row ∧ row.stoppedAt = none := by
  have ran : (system Sample.recorder).run {} Sample.overtaken =
      some ((system Sample.recorder).run {} Sample.overtaken |>.getD {}) := by rfl
  refine ⟨_, (System.Reachable.of_initial rfl).reaches (System.reaches_of_run ran), ⟨0, rfl⟩,
    ?_, _, rfl, rfl⟩
  intro number
  cases number with
  | zero => rfl
  | succ number => rfl

namespace Sample

/-- Before a stop is called, every step is timely. -/
theorem timely_beats
    {count : Nat}
    {after : State}
    (ran : (system recorder).run {} (beats count) = some after) :
    (system recorder).ReachesWhen Timely {} after := by
  refine System.reachesWhen_of_run (fun state => ∀ number, state.stops number = .idle)
    (fun _ => rfl) ?_ ?_ ran
  · intro state action _ idle _ number
    rw [idle]
    rfl
  · intro state action next member idle stepped
    obtain ⟨-, rfl⟩ := List.mem_replicate.mp member
    have kept : next.stops = state.stops := by
      cases heartbeatStep_moves stepped <;> rfl
    rw [kept]
    exact idle

/-- The steps of a stop are timely. -/
theorem timely_stop
    {before after : State}
    (ran : (system recorder).run before stop = some after) :
    (system recorder).ReachesWhen Timely before after := by
  refine System.reachesWhen_of_run (fun _ => True) trivial ?_ (fun _ _ _ _ _ _ => trivial) ran
  intro state action member _
  obtain ⟨-, rfl⟩ := List.mem_replicate.mp member
  exact fun inserts => inserts.elim

end Sample

theorem stopped_worker_not_alive_in_turn :
    ∃ state, (system Sample.recorder).ReachableWhen Timely state ∧
      ∃ row, state.row = some row ∧ row.stoppedAt ≠ none := by
  have beaten : (system Sample.recorder).run {} (Sample.beats 7) =
      some ((system Sample.recorder).run {} (Sample.beats 7) |>.getD {}) := by rfl
  have stopped : (system Sample.recorder).run
        ((system Sample.recorder).run {} (Sample.beats 7) |>.getD {}) Sample.stop =
      some ((system Sample.recorder).run {} Sample.inTurn |>.getD {}) := by rfl
  have reachable : (system Sample.recorder).ReachableWhen Timely
      ((system Sample.recorder).run {} Sample.inTurn |>.getD {}) :=
    ⟨{}, rfl, (Sample.timely_beats beaten).trans (Sample.timely_stop stopped)⟩
  have ended : ∀ number, (((system Sample.recorder).run {} Sample.inTurn |>.getD
      {}).heartbeats number).ended = true := by
    intro number
    cases number with
    | zero => rfl
    | succ number => rfl
  exact ⟨_, reachable, _, rfl, (stopped_worker_not_alive Sample.recorder _ _ reachable ⟨0, rfl⟩
    ended (.refl _) _ rfl).1⟩

end Status
end MailerAgent
