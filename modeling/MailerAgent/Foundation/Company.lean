import MailerAgent.Foundation.Confinement

/-!
# One process in company

A complete run of a process among others. Before each of its own steps the others may have
changed the store as a `Company` lets them; its own steps are those of a thread. The
company also says which own steps are considered, by the store and the transaction before
the step, so that a result may be about the runs all of whose steps meet a condition.
-/

namespace Concurrent

variable {Store Write Signal : Type} {Reply : Signal → Type} {Value Result : Type}

/-- The store that a commit leaves, if it applies the transaction. -/
def Session.landing
    (apply : Store → Write → Option Store)
    (store : Store)
    (session : Session Write)
    (outcome : CommitOutcome) : Option Store :=
  if session.aborted || outcome == .failed then none
  else applyAll apply store session.writes

/-- How writes apply, what the others may do between two steps, and which own steps are
considered. -/
structure Company (Store Write : Type) where
  apply : Store → Write → Option Store
  others : Store → Store → Prop
  refl : ∀ store, others store store
  trans : ∀ {first second third}, others first second → others second third →
    others first third
  /-- The statements that may report a result. -/
  statements : Store → Session Write → StatementResult Store → Prop := fun _ _ _ => True
  /-- The commits, by the store that they leave if they apply the transaction. -/
  commits : Store → Session Write → Option Store → Prop := fun _ _ _ => True
  rollbacks : Store → Session Write → Prop := fun _ _ => True

variable (company : Company Store Write)

/-- From a store and a transaction, a process runs to its end among the others. -/
inductive Served :
    Store → Session Write → Process Store Write Signal Reply Value →
    Store → Session Write → Value → Prop where
  | done
      {store last : Store}
      {session : Session Write}
      {value : Value}
      (reached : company.others store last) :
      Served store session (.done value) last session value
  | statement
      {store current last : Store}
      {session final : Session Write}
      {run : Store → Option (List Write)}
      {next : StatementResult Store → Process Store Write Signal Reply Value}
      {value : Value}
      {fault : Bool}
      (reached : company.others store current)
      (considered : company.statements current session
        (runStatement company.apply current session fault run).1)
      (rest : Served current (runStatement company.apply current session fault run).2
        (next (runStatement company.apply current session fault run).1) last final value) :
      Served store session (.statement run next) last final value
  | commit
      {store current last : Store}
      {session final : Session Write}
      {next : Bool → Process Store Write Signal Reply Value}
      {value : Value}
      {outcome : CommitOutcome}
      (reached : company.others store current)
      (considered : company.commits current session
        (session.landing company.apply current outcome))
      (rest : Served (runCommit company.apply current session outcome).1
        (runCommit company.apply current session outcome).2.2
        (next (runCommit company.apply current session outcome).2.1) last final value) :
      Served store session (.commit next) last final value
  | rollback
      {store current last : Store}
      {session final : Session Write}
      {next : Process Store Write Signal Reply Value}
      {value : Value}
      (reached : company.others store current)
      (considered : company.rollbacks current session)
      (rest : Served current {} next last final value) :
      Served store session (.rollback next) last final value
  | ask
      {store current last : Store}
      {session final : Session Write}
      {signal : Signal}
      {next : Reply signal → Process Store Write Signal Reply Value}
      {value : Value}
      (reached : company.others store current)
      (reply : Reply signal)
      (rest : Served current session (next reply) last final value) :
      Served store session (.ask signal next) last final value

/-- The steps of a thread, as long as they are considered. -/
def Thread.steps
    (apply : Store → Write → Option Store)
    (considered : Store → Thread Store Write Signal Reply Value →
      Stimulus Signal Reply → Bool)
    (store : Store)
    (thread : Thread Store Write Signal Reply Value) :
    List (Stimulus Signal Reply) → Option (Store × Thread Store Write Signal Reply Value)
  | [] => some (store, thread)
  | stimulus :: rest =>
      if considered store thread stimulus then
        (thread.step apply store stimulus).bind fun (next, after, _) =>
          Thread.steps apply considered next after rest
      else none

/-- The value of a thread that is done. -/
def Thread.finished (thread : Thread Store Write Signal Reply Value) : Option Value :=
  match thread.process with
  | .done value => some value
  | _ => none

variable {company}

/-- What a statement can do: fail, violate a constraint, or run on what the transaction
sees. -/
inductive Ran
    (apply : Store → Write → Option Store)
    (store : Store)
    (session : Session Write)
    (run : Store → Option (List Write)) : StatementResult Store × Session Write → Prop where
  | failed : Ran apply store session run (.failed, { session with aborted := true })
  | violated
      {view : Store}
      (healthy : session.aborted = false)
      (seen : applyAll apply store session.writes = some view)
      (rejected : ∀ writes, run view = some writes → applyAll apply view writes = none) :
      Ran apply store session run (.violated, { session with aborted := true })
  | ran
      {view after : Store}
      {writes : List Write}
      (healthy : session.aborted = false)
      (seen : applyAll apply store session.writes = some view)
      (made : run view = some writes)
      (applied : applyAll apply view writes = some after) :
      Ran apply store session run
        (.ran view, { session with writes := session.writes ++ writes })

theorem ran_runStatement
    (apply : Store → Write → Option Store)
    (store : Store)
    (session : Session Write)
    (fault : Bool)
    (run : Store → Option (List Write)) :
    Ran apply store session run (runStatement apply store session fault run) := by
  unfold runStatement
  split
  · exact .failed
  · next fine =>
      have healthy : session.aborted = false := by
        cases aborted : session.aborted with
        | false => rfl
        | true => simp [aborted] at fine
      split
      · exact .failed
      · next view seen =>
          split
          · next rejected =>
              refine .violated healthy seen fun writes made => ?_
              rw [made] at rejected
              simpa [Option.filter] using rejected
          · next writes computed =>
              obtain ⟨made, accepted⟩ := Option.filter_eq_some_iff.mp computed
              obtain ⟨after, applied⟩ := Option.isSome_iff_exists.mp accepted
              exact .ran healthy seen made applied

/-- What a commit can do: nothing, or apply the transaction, reported or not. -/
inductive Ended
    (apply : Store → Write → Option Store)
    (store : Store)
    (session : Session Write)
    (outcome : CommitOutcome) : Store × Bool × Session Write → Prop where
  | failed
      (lost : session.landing apply store outcome = none) :
      Ended apply store session outcome (store, false, ⟨[], true⟩)
  | applied
      {result : Store}
      (applied : applyAll apply store session.writes = some result)
      (landed : session.landing apply store outcome = some result)
      (reported : Bool) :
      Ended apply store session outcome (result, reported, ⟨[], !reported⟩)

theorem ended_runCommit
    (apply : Store → Write → Option Store)
    (store : Store)
    (session : Session Write)
    (outcome : CommitOutcome) :
    Ended apply store session outcome (runCommit apply store session outcome) := by
  unfold runCommit
  split
  · next aborted =>
      refine .failed ?_
      simp [Session.landing, aborted]
  · next fine =>
      have healthy : session.aborted = false := Bool.not_eq_true _ ▸ fine
      split
      · next rejected =>
          refine .failed ?_
          simp [Session.landing, rejected]
      · next result applied =>
          cases outcome with
          | committed =>
              refine .applied applied ?_ true
              simp [Session.landing, healthy, applied]
          | appliedButReportedFailed =>
              refine .applied applied ?_ false
              simp [Session.landing, healthy, applied]
          | failed =>
              refine .failed ?_
              simp [Session.landing]

namespace Served

variable {store last : Store} {session final : Session Write}

/-- A run of a sequential composition. -/
theorem split
    {process : Process Store Write Signal Reply Value}
    {rest : Value → Process Store Write Signal Reply Result}
    {result : Result}
    (served : Served company store session (process.andThen rest) last final result) :
    ∃ middle between value, Served company store session process middle between value ∧
      Served company middle between (rest value) last final result := by
  induction process generalizing store session with
  | done value => exact ⟨store, session, value, .done (company.refl store), served⟩
  | statement run next inductionHypothesis =>
      cases served with
      | statement reached considered tail =>
          obtain ⟨middle, between, value, left, right⟩ := inductionHypothesis _ tail
          exact ⟨middle, between, value, .statement reached considered left, right⟩
  | commit next inductionHypothesis =>
      cases served with
      | commit reached considered tail =>
          obtain ⟨middle, between, value, left, right⟩ := inductionHypothesis _ tail
          exact ⟨middle, between, value, .commit reached considered left, right⟩
  | rollback next inductionHypothesis =>
      cases served with
      | rollback reached considered tail =>
          obtain ⟨middle, between, value, left, right⟩ := inductionHypothesis tail
          exact ⟨middle, between, value, .rollback reached considered left, right⟩
  | ask signal next inductionHypothesis =>
      cases served with
      | ask reached reply tail =>
          obtain ⟨middle, between, value, left, right⟩ := inductionHypothesis _ tail
          exact ⟨middle, between, value, .ask reached reply left, right⟩

/-- What the others did before the first step. -/
theorem of_others
    {process : Process Store Write Signal Reply Value}
    {earlier : Store}
    {value : Value}
    (served : Served company store session process last final value)
    (moved : company.others earlier store) :
    Served company earlier session process last final value := by
  cases served with
  | done reached => exact .done (company.trans moved reached)
  | statement reached considered rest =>
      exact .statement (company.trans moved reached) considered rest
  | commit reached considered rest =>
      exact .commit (company.trans moved reached) considered rest
  | rollback reached considered rest =>
      exact .rollback (company.trans moved reached) considered rest
  | ask reached reply rest => exact .ask (company.trans moved reached) reply rest

/-- Two runs in sequence. -/
theorem join
    {process : Process Store Write Signal Reply Value}
    {rest : Value → Process Store Write Signal Reply Result}
    {middle : Store}
    {between : Session Write}
    {value : Value}
    {result : Result}
    (first : Served company store session process middle between value)
    (second : Served company middle between (rest value) last final result) :
    Served company store session (process.andThen rest) last final result := by
  induction first with
  | done reached => exact second.of_others reached
  | statement reached considered tail inductionHypothesis =>
      exact .statement reached considered (inductionHypothesis second)
  | commit reached considered tail inductionHypothesis =>
      exact .commit reached considered (inductionHypothesis second)
  | rollback reached considered tail inductionHypothesis =>
      exact .rollback reached considered (inductionHypothesis second)
  | ask reached reply tail inductionHypothesis =>
      exact .ask reached reply (inductionHypothesis second)

variable (company) in
/-- Whether a step of a thread is considered. -/
def Considers
    (store : Store)
    (thread : Thread Store Write Signal Reply Value)
    (stimulus : Stimulus Signal Reply) : Prop :=
  match thread.process with
  | .statement run _ => company.statements store thread.session
      (runStatement company.apply store thread.session stimulus.fault run).1
  | .commit _ => company.commits store thread.session
      (thread.session.landing company.apply store stimulus.commit)
  | .rollback _ => company.rollbacks store thread.session
  | _ => True

/-- A step of a thread is the first step of the run that it goes on with. -/
theorem of_step
    {thread after : Thread Store Write Signal Reply Value}
    {next : Store}
    {stimulus : Stimulus Signal Reply}
    {asked : Option Signal}
    {value : Value}
    (stepped : thread.step company.apply store stimulus = some (next, after, asked))
    (considered : Considers company store thread stimulus)
    (served : Served company next after.session after.process last final value) :
    Served company store thread.session thread.process last final value := by
  unfold Thread.step at stepped
  unfold Considers at considered
  split at stepped
  · cases stepped
  · next process =>
      rw [process] at considered ⊢
      obtain ⟨rfl, rfl, -⟩ := stepped
      exact .statement (company.refl store) considered served
  · next process =>
      rw [process] at considered ⊢
      obtain ⟨rfl, rfl, -⟩ := stepped
      exact .commit (company.refl store) considered served
  · next process =>
      rw [process] at considered ⊢
      obtain ⟨rfl, rfl, -⟩ := stepped
      exact .rollback (company.refl store) considered served
  · next process =>
      rw [process]
      obtain ⟨rfl, rfl, -⟩ := stepped
      exact .ask (company.refl store) _ served

/-- A run that begins with the steps of a thread. -/
theorem of_steps
    {considered : Store → Thread Store Write Signal Reply Value →
      Stimulus Signal Reply → Bool}
    (sound : ∀ store thread stimulus, considered store thread stimulus = true →
      Considers company store thread stimulus)
    {stimuli : List (Stimulus Signal Reply)}
    {thread after : Thread Store Write Signal Reply Value}
    {next : Store}
    {value : Value}
    (stepped : thread.steps company.apply considered store stimuli = some (next, after))
    (served : Served company next after.session after.process last final value) :
    Served company store thread.session thread.process last final value := by
  induction stimuli generalizing store thread with
  | nil =>
      cases stepped
      exact served
  | cons stimulus rest inductionHypothesis =>
      unfold Thread.steps at stepped
      split at stepped
      · next accepted =>
          obtain ⟨⟨between, moved, asked⟩, first, later⟩ :=
            Option.bind_eq_some_iff.mp stepped
          exact of_step first (sound _ _ _ accepted) (inductionHypothesis later)
      · cases stepped

/-- A run of steps to the end. -/
theorem of_finished
    {considered : Store → Thread Store Write Signal Reply Value →
      Stimulus Signal Reply → Bool}
    (sound : ∀ store thread stimulus, considered store thread stimulus = true →
      Considers company store thread stimulus)
    {stimuli : List (Stimulus Signal Reply)}
    {thread after : Thread Store Write Signal Reply Value}
    {next : Store}
    {value : Value}
    (stepped : thread.steps company.apply considered store stimuli = some (next, after))
    (finished : after.finished = some value) :
    Served company store thread.session thread.process next after.session value := by
  refine of_steps sound stepped ?_
  unfold Thread.finished at finished
  split at finished
  · next process =>
      obtain rfl := Option.some.inj finished
      rw [process]
      exact .done (company.refl next)
  · cases finished

/-- A process that ends no transaction adds writes within its bounds, and leaves the store
to the others. -/
theorem of_confined
    {bounds : Bounds Write Signal}
    {ensures : Value → Prop}
    {process : Process Store Write Signal Reply Value}
    {value : Value}
    (served : Served company store session process last final value)
    (confined : process.Confined bounds ensures)
    (noTransaction : ¬bounds.transacts) :
    company.others store last ∧ ensures value ∧
      (session.aborted = true → final.aborted = true) ∧
      ∃ made, final.writes = session.writes ++ made ∧
        ∀ write ∈ made, bounds.writes write := by
  induction served with
  | done reached =>
      exact ⟨reached, confined, id, [], (List.append_nil _).symm,
        fun _ member => (List.not_mem_nil member).elim⟩
  | @statement store current last session final run next value fault reached considered rest
      inductionHypothesis =>
      have ran := ran_runStatement company.apply current session fault run
      generalize runStatement company.apply current session fault run = ended at *
      obtain ⟨moved, ensured, lost, made, grown, within⟩ :=
        inductionHypothesis (confined.2 _)
      cases ran with
      | failed | violated =>
          exact ⟨company.trans reached moved, ensured, fun _ => lost rfl, made, grown, within⟩
      | @ran view after writes healthy seen computed applied =>
          refine ⟨company.trans reached moved, ensured, lost, writes ++ made, ?_, ?_⟩
          · rw [grown, List.append_assoc]
          · intro write member
            rcases List.mem_append.mp member with first | later
            · exact confined.1 view writes computed write first
            · exact within write later
  | commit reached considered rest inductionHypothesis => exact (noTransaction confined.1).elim
  | rollback reached considered rest inductionHypothesis => exact (noTransaction confined.1).elim
  | ask reached reply rest inductionHypothesis =>
      obtain ⟨moved, ensured, lost, grown⟩ := inductionHypothesis (confined.2 reply)
      exact ⟨company.trans reached moved, ensured, lost, grown⟩

/-- Where the considered statements of a transaction all run, it stays usable. -/
theorem usable_of_confined
    {bounds : Bounds Write Signal}
    {ensures : Value → Prop}
    {process : Process Store Write Signal Reply Value}
    {value : Value}
    {begun : List Write → Prop}
    (served : Served company store session process last final value)
    (confined : process.Confined bounds ensures)
    (noTransaction : ¬bounds.transacts)
    (grows : ∀ first second, begun first → begun (first ++ second))
    (runs : ∀ store session result, begun session.writes →
      company.statements store session result → ∃ view, result = .ran view)
    (start : begun session.writes)
    (usable : session.aborted = false) :
    final.aborted = false := by
  induction served with
  | done reached => exact usable
  | @statement store current last session final run next value fault reached considered rest
      inductionHypothesis =>
      have ran := ran_runStatement company.apply current session fault run
      obtain ⟨view, result⟩ := runs _ _ _ start considered
      generalize runStatement company.apply current session fault run = ended at *
      cases ran with
      | failed | violated => cases result
      | ran healthy seen computed applied =>
          exact inductionHypothesis (confined.2 _) (grows _ _ start) usable
  | commit reached considered rest inductionHypothesis => exact (noTransaction confined.1).elim
  | rollback reached considered rest inductionHypothesis => exact (noTransaction confined.1).elim
  | ask reached reply rest inductionHypothesis =>
      exact inductionHypothesis (confined.2 _) start usable

end Served

end Concurrent
