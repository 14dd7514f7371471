import MailerAgent.Foundation.Twin

/-!
# A process that has the store to itself

While no other process writes, what a transaction sees is determined by the store and
its own statements. `Desk` is that state, with a ghost record of the interactions, and
`Solo` a weakest precondition over it. A `Regime` fixes the answers that are considered,
when a transaction may be lost, and what has to hold of the record and the
committed store at every moment, so that the process may also stop there.
-/

namespace Concurrent

variable {Store Write Signal Ghost Prompt : Type} {Reply : Signal → Type}
variable {Value Result : Type}

/-- What a process works on: the committed store, what its transaction sees (nothing once
it is lost), and the record of the interactions. -/
structure Desk (Store Ghost : Type) where
  store : Store
  view : Option Store
  ghost : Ghost

/-- The transaction is lost. -/
def Desk.abort (desk : Desk Store Ghost) : Desk Store Ghost :=
  { desk with view := none }

/-- What a proof about a process that runs alone relies on. -/
structure Regime
    (Store Write Signal Ghost : Type)
    (Reply : Signal → Type) where
  apply : Store → Write → Option Store
  /-- The answers that are considered. -/
  hears : Desk Store Ghost → (signal : Signal) → Reply signal → Prop
  /-- The record after an interaction. -/
  note : Desk Store Ghost → (signal : Signal) → Reply signal → Ghost
  /-- The record after an applied commit. -/
  settle : Ghost → Ghost
  /-- The transaction may be lost. -/
  calm : Ghost → Prop
  /-- What holds at every moment. -/
  kept : Ghost → Store → Prop

variable (regime : Regime Store Write Signal Ghost Reply)

/-- What a statement does to what the transaction sees. -/
def Regime.next
    (view : Store)
    (writes : Option (List Write)) : Option Store :=
  writes.bind (applyAll regime.apply view)

/-- Every run ends as required, and keeps what has to hold. -/
def Solo :
    Process Store Write Signal Reply Value → (Value → Desk Store Ghost → Prop) →
    Desk Store Ghost → Prop
  | .done value, ensures, desk => ensures value desk
  | .statement run next, ensures, desk =>
      (regime.calm desk.ghost ∨ desk.view = none → Solo (next .failed) ensures desk.abort) ∧
      ∀ view, desk.view = some view →
        (regime.calm desk.ghost → regime.next view (run view) = none →
          Solo (next .violated) ensures desk.abort) ∧
        ∀ after, regime.next view (run view) = some after →
          Solo (next (.ran view)) ensures { desk with view := some after }
  | .commit next, ensures, desk =>
      (regime.calm desk.ghost ∨ desk.view = none → Solo (next false) ensures desk.abort) ∧
      ∀ view, desk.view = some view →
        regime.kept (regime.settle desk.ghost) view ∧
          Solo (next true) ensures ⟨view, some view, regime.settle desk.ghost⟩ ∧
          Solo (next false) ensures ⟨view, none, regime.settle desk.ghost⟩
  | .rollback next, ensures, desk =>
      regime.calm desk.ghost → Solo next ensures { desk with view := some desk.store }
  | .ask signal next, ensures, desk =>
      ∀ reply, regime.hears desk signal reply →
        regime.kept (regime.note desk signal reply) desk.store ∧
          Solo (next reply) ensures { desk with ghost := regime.note desk signal reply }

variable {regime}

theorem Solo.mono
    {process : Process Store Write Signal Reply Value}
    {ensures weaker : Value → Desk Store Ghost → Prop}
    {desk : Desk Store Ghost}
    (solo : Solo regime process ensures desk)
    (implies : ∀ value desk, ensures value desk → weaker value desk) :
    Solo regime process weaker desk := by
  induction process generalizing desk with
  | done value => exact implies value desk solo
  | statement run next inductionHypothesis =>
      obtain ⟨failed, ran⟩ := solo
      refine ⟨fun lost => inductionHypothesis _ (failed lost), ?_⟩
      intro view seen
      obtain ⟨violated, continues⟩ := ran view seen
      exact ⟨fun calm rejected => inductionHypothesis _ (violated calm rejected),
        fun after applied => inductionHypothesis _ (continues after applied)⟩
  | commit next inductionHypothesis =>
      obtain ⟨failed, applied⟩ := solo
      refine ⟨fun lost => inductionHypothesis _ (failed lost), ?_⟩
      intro view seen
      obtain ⟨kept, reported, unreported⟩ := applied view seen
      exact ⟨kept, inductionHypothesis _ reported, inductionHypothesis _ unreported⟩
  | rollback next inductionHypothesis => exact fun calm => inductionHypothesis (solo calm)
  | ask signal next inductionHypothesis =>
      intro reply heard
      obtain ⟨kept, rest⟩ := solo reply heard
      exact ⟨kept, inductionHypothesis _ rest⟩

/-- Sequential composition. -/
theorem Solo.andThen
    {process : Process Store Write Signal Reply Value}
    {rest : Value → Process Store Write Signal Reply Result}
    {ensures : Result → Desk Store Ghost → Prop}
    {desk : Desk Store Ghost}
    (solo : Solo regime process (fun value => Solo regime (rest value) ensures) desk) :
    Solo regime (process.andThen rest) ensures desk := by
  induction process generalizing desk with
  | done value => exact solo
  | statement run next inductionHypothesis =>
      obtain ⟨failed, ran⟩ := solo
      refine ⟨fun lost => inductionHypothesis _ (failed lost), ?_⟩
      intro view seen
      obtain ⟨violated, continues⟩ := ran view seen
      exact ⟨fun calm rejected => inductionHypothesis _ (violated calm rejected),
        fun after applied => inductionHypothesis _ (continues after applied)⟩
  | commit next inductionHypothesis =>
      obtain ⟨failed, applied⟩ := solo
      refine ⟨fun lost => inductionHypothesis _ (failed lost), ?_⟩
      intro view seen
      obtain ⟨kept, reported, unreported⟩ := applied view seen
      exact ⟨kept, inductionHypothesis _ reported, inductionHypothesis _ unreported⟩
  | rollback next inductionHypothesis => exact fun calm => inductionHypothesis (solo calm)
  | ask signal next inductionHypothesis =>
      intro reply heard
      obtain ⟨kept, rest⟩ := solo reply heard
      exact ⟨kept, inductionHypothesis _ rest⟩

/-! ## Steps of a thread -/

variable (regime) in
/-- The desk of a thread. -/
def Session.desk
    (session : Session Write)
    (store : Store)
    (ghost : Ghost) :
    Desk Store Ghost where
  store := store
  view := if session.aborted then none else applyAll regime.apply store session.writes
  ghost := ghost

/-- An open transaction makes sense. -/
def Session.Sane
    (regime : Regime Store Write Signal Ghost Reply)
    (session : Session Write)
    (store : Store) : Prop :=
  session.aborted = false → ∃ view, applyAll regime.apply store session.writes = some view

variable (regime) in
/-- The record after a step. -/
def Regime.advance
    (desk : Desk Store Ghost)
    (stimulus : Stimulus Signal Reply) :
    Process Store Write Signal Reply Value → Ghost
  | .ask signal _ => regime.note desk signal (stimulus.answer signal)
  | .commit _ =>
      if desk.view.isSome && stimulus.commit.applied then regime.settle desk.ghost
      else desk.ghost
  | _ => desk.ghost

variable (regime) in
/-- The stimuli that are considered. -/
structure Regime.Permits
    (desk : Desk Store Ghost)
    (stimulus : Stimulus Signal Reply)
    (process : Process Store Write Signal Reply Value) : Prop where
  fault : stimulus.fault = true → regime.calm desk.ghost
  violated : ∀ run next view, process = .statement run next → desk.view = some view →
    regime.next view (run view) = none → regime.calm desk.ghost
  commit : stimulus.commit = .failed → regime.calm desk.ghost
  rollback : ∀ next, process = .rollback next → regime.calm desk.ghost
  hears : ∀ signal next, process = .ask signal next →
    regime.hears desk signal (stimulus.answer signal)

variable (regime) in
theorem Session.desk_open
    {session : Session Write}
    {store view : Store}
    (ghost : Ghost)
    (healthy : session.aborted = false)
    (seen : applyAll regime.apply store session.writes = some view) :
    (session.desk regime store ghost).view = some view := by
  unfold Session.desk
  rw [healthy]
  exact seen

variable (regime) in
theorem Session.desk_lost
    {session : Session Write}
    (store : Store)
    (ghost : Ghost)
    (lost : session.aborted = true) :
    session.desk regime store ghost = ⟨store, none, ghost⟩ := by
  unfold Session.desk
  rw [lost]
  rfl

/-- The result of a statement, by what the transaction sees. -/
theorem runStatement_open
    {session : Session Write}
    {store view : Store}
    (run : Store → Option (List Write))
    (healthy : session.aborted = false)
    (seen : applyAll regime.apply store session.writes = some view) :
    regime.next view (run view) = none ∧
        runStatement regime.apply store session false run =
          (.violated, { session with aborted := true }) ∨
      ∃ writes after, regime.next view (run view) = some after ∧
        applyAll regime.apply store (session.writes ++ writes) = some after ∧
        runStatement regime.apply store session false run =
          (.ran view, { session with writes := session.writes ++ writes }) := by
  unfold runStatement Regime.next
  rw [healthy]
  simp only [Bool.or_self, Bool.false_eq_true, if_false, seen]
  cases given : run view with
  | none => exact .inl ⟨rfl, rfl⟩
  | some writes =>
      cases applied : applyAll regime.apply view writes with
      | none =>
          refine .inl ⟨?_, ?_⟩
          · simpa using applied
          · simp [Option.filter, applied]
      | some after =>
          refine .inr ⟨writes, after, ?_, ?_, ?_⟩
          · simpa using applied
          · rw [applyAll_append, seen]
            exact applied
          · simp [Option.filter, applied]

/-- One statement. -/
theorem Solo.statement
    {run : Store → Option (List Write)}
    {next : StatementResult Store → Process Store Write Signal Reply Value}
    {ensures : Value → Desk Store Ghost → Prop}
    {store : Store}
    {session : Session Write}
    {ghost : Ghost}
    {fault : Bool}
    (solo : Solo regime (.statement run next) ensures (session.desk regime store ghost))
    (sane : session.Sane regime store)
    (permitted : fault = true → regime.calm ghost)
    (unviolated : ∀ view, (session.desk regime store ghost).view = some view →
      regime.next view (run view) = none → regime.calm ghost) :
    ∃ result after, runStatement regime.apply store session fault run = (result, after) ∧
      Solo regime (next result) ensures (after.desk regime store ghost) ∧
      after.Sane regime store := by
  obtain ⟨failed, ran⟩ := solo
  by_cases lost : (fault || session.aborted) = true
  · refine ⟨.failed, { session with aborted := true }, ?_, ?_, nofun⟩
    · unfold runStatement
      rw [if_pos lost]
    · rw [Session.desk_lost regime store ghost rfl]
      refine failed ?_
      rcases Bool.or_eq_true_iff.mp lost with faulty | aborted
      · exact .inl (permitted faulty)
      · exact .inr (congrArg Desk.view (Session.desk_lost regime store ghost aborted))
  · obtain ⟨working, healthy⟩ : fault = false ∧ session.aborted = false := by
      simpa using lost
    subst working
    obtain ⟨view, seen⟩ := sane healthy
    have visible := Session.desk_open regime ghost healthy seen
    obtain ⟨violated, continues⟩ := ran view visible
    rcases runStatement_open run healthy seen with
      ⟨rejected, result⟩ | ⟨writes, after, accepted, applied, result⟩
    · refine ⟨_, _, result, ?_, nofun⟩
      rw [Session.desk_lost regime store ghost rfl]
      exact violated (unviolated view visible rejected) rejected
    · refine ⟨_, _, result, ?_, fun _ => ⟨after, applied⟩⟩
      have rest := continues after accepted
      unfold Session.desk at rest ⊢
      rw [healthy]
      simp only [Bool.false_eq_true, if_false, applied]
      exact rest

/-- One commit. -/
theorem Solo.commit
    {next : Bool → Process Store Write Signal Reply Value}
    {ensures : Value → Desk Store Ghost → Prop}
    {store : Store}
    {session : Session Write}
    {ghost : Ghost}
    {outcome : CommitOutcome}
    (solo : Solo regime (.commit next) ensures (session.desk regime store ghost))
    (sane : session.Sane regime store)
    (holds : regime.kept ghost store)
    (permitted : outcome = .failed → regime.calm ghost) :
    ∃ result reported after, runCommit regime.apply store session outcome =
        (result, reported, after) ∧
      Solo regime (next reported) ensures (after.desk regime result
        (if (session.desk regime store ghost).view.isSome && outcome.applied then
          regime.settle ghost else ghost)) ∧
      after.Sane regime result ∧
      regime.kept (if (session.desk regime store ghost).view.isSome && outcome.applied then
        regime.settle ghost else ghost) result := by
  obtain ⟨failed, applied⟩ := solo
  cases aborted : session.aborted with
  | true =>
      have lost := Session.desk_lost regime store ghost aborted
      refine ⟨store, false, ⟨[], true⟩, ?_, ?_, nofun, ?_⟩
      · unfold runCommit
        rw [if_pos aborted]
      · rw [lost] at failed ⊢
        exact failed (.inr rfl)
      · rw [lost]
        exact holds
  | false =>
      obtain ⟨view, seen⟩ := sane aborted
      have visible := Session.desk_open regime ghost aborted seen
      obtain ⟨kept, reported, unreported⟩ := applied view visible
      rw [visible]
      unfold runCommit
      rw [aborted, if_neg Bool.false_ne_true]
      simp only [seen]
      cases outcome with
      | committed =>
          exact ⟨view, true, ⟨[], false⟩, rfl, reported, fun _ => ⟨view, rfl⟩, kept⟩
      | appliedButReportedFailed =>
          exact ⟨view, false, ⟨[], true⟩, rfl, unreported, nofun, kept⟩
      | failed => exact ⟨store, false, ⟨[], true⟩, rfl, failed (.inl (permitted rfl)), nofun,
          holds⟩

/-- A step of a thread that has the store to itself. -/
theorem Solo.step
    {thread after : Thread Store Write Signal Reply Value}
    {ensures : Value → Desk Store Ghost → Prop}
    {store next : Store}
    {ghost : Ghost}
    {stimulus : Stimulus Signal Reply}
    {asked : Option Signal}
    (solo : Solo regime thread.process ensures (thread.session.desk regime store ghost))
    (sane : thread.session.Sane regime store)
    (holds : regime.kept ghost store)
    (permitted : regime.Permits (thread.session.desk regime store ghost) stimulus
      thread.process)
    (stepped : thread.step regime.apply store stimulus = some (next, after, asked)) :
    Solo regime after.process ensures (after.session.desk regime next
        (regime.advance (thread.session.desk regime store ghost) stimulus thread.process)) ∧
      after.session.Sane regime next ∧
      regime.kept
        (regime.advance (thread.session.desk regime store ghost) stimulus thread.process)
        next := by
  obtain ⟨process, session⟩ := thread
  unfold Thread.step at stepped
  cases process with
  | done value => cases stepped
  | statement run rest =>
      obtain ⟨result, session, ran, continues, fine⟩ := solo.statement sane permitted.fault
        fun view => permitted.violated run rest view rfl
      simp only [ran] at stepped
      cases stepped
      exact ⟨continues, fine, holds⟩
  | commit rest =>
      obtain ⟨result, reported, session, ran, continues, fine, kept⟩ :=
        solo.commit sane holds permitted.commit
      simp only [ran] at stepped
      cases stepped
      exact ⟨continues, fine, kept⟩
  | rollback rest =>
      cases stepped
      exact ⟨solo (permitted.rollback rest rfl), fun _ => ⟨_, rfl⟩, holds⟩
  | ask signal rest =>
      cases stepped
      obtain ⟨kept, continues⟩ := solo _ (permitted.hears signal rest rfl)
      exact ⟨continues, sane, kept⟩

/-- A complete run alone, in an environment in which everything may fail. -/
theorem Solo.alone
    {prompt : Signal → Store → Prompt}
    {environment : Environment Signal Prompt Reply}
    {process : Process Store Write Signal Reply Value}
    {ensures : Value → Desk Store Ghost → Prop}
    (calm : ∀ ghost, regime.calm ghost)
    (hears : ∀ desk position signal read,
      regime.hears desk signal (environment.answer position signal read))
    (position : Nat)
    {store : Store}
    {session : Session Write}
    {ghost : Ghost}
    (solo : Solo regime process ensures (session.desk regime store ghost))
    (sane : session.Sane regime store)
    (holds : regime.kept ghost store) :
    ∃ last,
      ensures (process.alone regime.apply prompt environment position store session).value
        ((process.alone regime.apply prompt environment position store session).session.desk
          regime (process.alone regime.apply prompt environment position store session).store
          last) := by
  induction process generalizing position store session ghost with
  | done value => exact ⟨ghost, solo⟩
  | statement run next inductionHypothesis =>
      obtain ⟨result, after, ran, rest, fine⟩ :=
        solo.statement sane (fun _ => calm ghost) fun _ _ _ => calm ghost
      simp only [Process.alone]
      rw [ran]
      exact inductionHypothesis _ _ rest fine holds
  | commit next inductionHypothesis =>
      obtain ⟨result, reported, after, ran, rest, fine, kept⟩ :=
        solo.commit sane holds fun _ => calm ghost
      simp only [Process.alone]
      rw [ran]
      exact inductionHypothesis _ _ rest fine kept
  | rollback next inductionHypothesis =>
      exact inductionHypothesis (position + 1) (solo (calm ghost)) (fun _ => ⟨store, rfl⟩) holds
  | ask signal next inductionHypothesis =>
      obtain ⟨kept, rest⟩ := solo _ (hears _ position signal _)
      simp only [Process.alone]
      exact inductionHypothesis _ _ rest sane kept

end Concurrent
