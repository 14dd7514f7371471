import MailerAgent.Foundation.Confinement

/-!
# Threads that agree on what they are doing

A contract bounds all threads in the same way at all times. An `Agreement` lets a thread
rely on more while it does something that the others know of: `rely` depends on its ghost
record and on the writes of its open transaction. In return its commits give a
`guarantee`, which need not be what it relies on itself.

`Honours` is the weakest precondition under such interference. `Thread.Honours.others`
and `Thread.Honours.step` are its two halves: the steps of others and the own ones.
-/

namespace Concurrent

/-- What a thread relies on, and what its commits guarantee. -/
structure Agreement
    (Store Write Signal : Type)
    (Reply : Signal → Type)
    (Ghost : Type) where
  apply : Store → Write → Option Store
  rely : Ghost → List Write → Store → Store → Prop
  guarantee : Store → Store → Prop
  note : Ghost → Store → (signal : Signal) → Reply signal → Ghost

variable {Store Write Signal Ghost Value Result : Type} {Reply : Signal → Type}

/-- The steps of others compose, and what was reached may stay. -/
structure Agreement.Lawful (agreement : Agreement Store Write Signal Reply Ghost) : Prop where
  refl : ∀ {ghost writes first second}, agreement.rely ghost writes first second →
    ∀ other more, agreement.rely other more second second
  trans : ∀ {ghost writes first second third}, agreement.rely ghost writes first second →
    agreement.rely ghost writes second third → agreement.rely ghost writes first third

/-- From what is known, every commit gives the guarantee and every run ends as ensured. -/
def Honours (agreement : Agreement Store Write Signal Reply Ghost) :
    Process Store Write Signal Reply Value →
    (Value → Knowledge Store Write Ghost → Prop) →
    Knowledge Store Write Ghost → Prop
  | .done value, ensures, known => ensures value known
  | .statement run next, ensures, known =>
      ∀ store, agreement.rely known.ghost known.writes known.base store →
        Honours agreement (next .failed) ensures (known.abort store) ∧
        ∀ view, applyAll agreement.apply store known.writes = some view →
          Honours agreement (next .violated) ensures (known.abort store) ∧
          ∀ writes, run view = some writes →
            Honours agreement (next (.ran view)) ensures (known.extend store writes)
  | .commit next, ensures, known =>
      ∀ store, agreement.rely known.ghost known.writes known.base store →
        Honours agreement (next false) ensures (known.ended store true) ∧
        ∀ result, applyAll agreement.apply store known.writes = some result →
          agreement.guarantee store result ∧
            (agreement.rely known.ghost [] result result →
              ∀ reported, Honours agreement (next reported) ensures
                (known.ended result !reported))
  | .rollback next, ensures, known =>
      ∀ store, agreement.rely known.ghost known.writes known.base store →
        Honours agreement next ensures (known.ended store false)
  | .ask signal next, ensures, known =>
      ∀ store, agreement.rely known.ghost known.writes known.base store →
        ∀ reply, Honours agreement (next reply) ensures
          { known with
            base := store
            ghost := agreement.note known.ghost store signal reply }

variable {agreement : Agreement Store Write Signal Reply Ghost}

/-- A weaker final condition. -/
theorem Honours.mono
    {process : Process Store Write Signal Reply Value}
    {ensures weaker : Value → Knowledge Store Write Ghost → Prop}
    {known : Knowledge Store Write Ghost}
    (honours : Honours agreement process ensures known)
    (implies : ∀ value known, ensures value known → weaker value known) :
    Honours agreement process weaker known := by
  induction process generalizing known with
  | done value => exact implies value known honours
  | statement run next inductionHypothesis =>
      intro store relied
      obtain ⟨failed, ran⟩ := honours store relied
      refine ⟨inductionHypothesis _ failed, fun view seen => ?_⟩
      obtain ⟨violated, computed⟩ := ran view seen
      exact ⟨inductionHypothesis _ violated,
        fun writes made => inductionHypothesis _ (computed writes made)⟩
  | commit next inductionHypothesis =>
      intro store relied
      obtain ⟨failed, applied⟩ := honours store relied
      refine ⟨inductionHypothesis _ failed, fun result seen => ?_⟩
      obtain ⟨guaranteed, continues⟩ := applied result seen
      exact ⟨guaranteed, fun valid reported =>
        inductionHypothesis _ (continues valid reported)⟩
  | rollback next inductionHypothesis =>
      exact fun store relied => inductionHypothesis (honours store relied)
  | ask signal next inductionHypothesis =>
      exact fun store relied reply => inductionHypothesis _ (honours store relied reply)

/-- Sequential composition. -/
theorem honours_andThen
    {process : Process Store Write Signal Reply Value}
    {rest : Value → Process Store Write Signal Reply Result}
    {ensures : Result → Knowledge Store Write Ghost → Prop}
    {known : Knowledge Store Write Ghost} :
    Honours agreement (process.andThen rest) ensures known ↔
      Honours agreement process (fun value => Honours agreement (rest value) ensures)
        known := by
  induction process generalizing known with
  | done value => rfl
  | statement run next inductionHypothesis =>
      simp only [Process.andThen, Honours, inductionHypothesis]
  | commit next inductionHypothesis =>
      simp only [Process.andThen, Honours, inductionHypothesis]
  | rollback next inductionHypothesis =>
      simp only [Process.andThen, Honours, inductionHypothesis]
  | ask signal next inductionHypothesis =>
      simp only [Process.andThen, Honours, inductionHypothesis]

/-! ## Framing -/

/-- A condition that neither others nor a process within the bounds can destroy. -/
structure Agreement.Stable
    (agreement : Agreement Store Write Signal Reply Ghost)
    (bounds : Bounds Write Signal)
    (holds : Knowledge Store Write Ghost → Prop) : Prop where
  others : ∀ {known store}, holds known →
    agreement.rely known.ghost known.writes known.base store →
    holds { known with base := store }
  aborts : ∀ {known}, holds known → holds (known.abort known.base)
  grows : ∀ {known} {writes : List Write}, holds known →
    (∀ write ∈ writes, bounds.writes write) → holds (known.extend known.base writes)
  asks : ∀ {known} {signal} (reply : Reply signal), holds known → bounds.asks signal →
    holds { known with ghost := agreement.note known.ghost known.base signal reply }

theorem Agreement.Stable.and
    {bounds : Bounds Write Signal}
    {first second : Knowledge Store Write Ghost → Prop}
    (left : agreement.Stable bounds first)
    (right : agreement.Stable bounds second) :
    agreement.Stable bounds fun known => first known ∧ second known where
  others both relied := ⟨left.others both.1 relied, right.others both.2 relied⟩
  aborts both := ⟨left.aborts both.1, right.aborts both.2⟩
  grows both writes := ⟨left.grows both.1 writes, right.grows both.2 writes⟩
  asks reply both asked := ⟨left.asks reply both.1 asked, right.asks reply both.2 asked⟩

/-- A process that stays within bounds and ends no transaction keeps what is stable. -/
theorem Honours.of_confined
    {bounds : Bounds Write Signal}
    {holds : Knowledge Store Write Ghost → Prop}
    (stable : agreement.Stable bounds holds)
    (noTransaction : ¬bounds.transacts)
    {process : Process Store Write Signal Reply Value}
    {ensures : Value → Prop}
    {known : Knowledge Store Write Ghost}
    (confined : process.Confined bounds ensures)
    (initially : holds known) :
    Honours agreement process (fun value after => ensures value ∧ holds after) known := by
  induction process generalizing known with
  | done value => exact ⟨confined, initially⟩
  | statement run next inductionHypothesis =>
      intro store relied
      have reached := stable.others initially relied
      have aborted := stable.aborts reached
      refine ⟨inductionHypothesis _ (confined.2 _) aborted, fun view _ => ?_⟩
      refine ⟨inductionHypothesis _ (confined.2 _) aborted, fun writes made => ?_⟩
      exact inductionHypothesis _ (confined.2 _)
        (stable.grows reached (confined.1 view writes made))
  | commit next _ => exact absurd confined.1 noTransaction
  | rollback next _ => exact absurd confined.1 noTransaction
  | ask signal next inductionHypothesis =>
      intro store relied reply
      exact inductionHypothesis reply (confined.2 reply)
        (stable.asks reply (stable.others initially relied) confined.1)

/-! ## Threads -/

/-- The ghost record after a step. -/
def Agreement.noted
    (agreement : Agreement Store Write Signal Reply Ghost)
    (ghost : Ghost)
    (store : Store)
    (stimulus : Stimulus Signal Reply) :
    Option Signal → Ghost
  | none => ghost
  | some signal => agreement.note ghost store signal (stimulus.answer signal)

/-- A thread that honours an agreement from here on. -/
def Thread.Honours
    (agreement : Agreement Store Write Signal Reply Ghost)
    (ensures : Value → Knowledge Store Write Ghost → Prop)
    (store : Store)
    (ghost : Ghost)
    (thread : Thread Store Write Signal Reply Value) : Prop :=
  ∃ base, agreement.rely ghost thread.session.writes base store ∧
    Concurrent.Honours agreement thread.process ensures
      ⟨base, thread.session.writes, thread.session.aborted, ghost⟩

/-- A thread changes the store by a commit of its transaction. -/
theorem Thread.step_commit
    {apply : Store → Write → Option Store}
    {store next : Store}
    {thread after : Thread Store Write Signal Reply Value}
    {stimulus : Stimulus Signal Reply}
    {asked : Option Signal}
    (stepped : thread.step apply store stimulus = some (next, after, asked)) :
    next = store ∨
      (∃ rest, thread.process = .commit rest) ∧
        applyAll apply store thread.session.writes = some next := by
  rcases Thread.step_store stepped with same | applied
  · exact .inl same
  · unfold Thread.step at stepped
    split at stepped
    · cases stepped
    · obtain ⟨rfl, -⟩ := stepped
      exact .inl rfl
    · next rest process => exact .inr ⟨⟨rest, process⟩, applied⟩
    · obtain ⟨rfl, -⟩ := stepped
      exact .inl rfl
    · obtain ⟨rfl, -⟩ := stepped
      exact .inl rfl

section Threads

variable {ensures : Value → Knowledge Store Write Ghost → Prop}
variable {store next : Store} {ghost : Ghost}
variable {thread after : Thread Store Write Signal Reply Value}

theorem Thread.Honours.start
    {process : Process Store Write Signal Reply Value}
    (valid : agreement.rely ghost [] store store)
    (honours : Concurrent.Honours agreement process ensures { base := store, ghost := ghost }) :
    Thread.Honours agreement ensures store ghost ⟨process, {}⟩ :=
  ⟨store, valid, honours⟩

/-- The steps of others that the thread relies on do not matter. -/
theorem Thread.Honours.others
    (lawful : agreement.Lawful)
    (honours : thread.Honours agreement ensures store ghost)
    (relied : agreement.rely ghost thread.session.writes store next) :
    thread.Honours agreement ensures next ghost := by
  obtain ⟨base, bound, continues⟩ := honours
  exact ⟨base, lawful.trans bound relied, continues⟩

theorem honours_runStatement
    (lawful : agreement.Lawful)
    {run : Store → Option (List Write)}
    {rest : StatementResult Store → Process Store Write Signal Reply Value}
    {session : Session Write}
    {base : Store}
    (fault : Bool)
    (bound : agreement.rely ghost session.writes base store)
    (honours : Honours agreement (.statement run rest) ensures
      ⟨base, session.writes, session.aborted, ghost⟩) :
    Thread.Honours agreement ensures store ghost
      ⟨rest (runStatement agreement.apply store session fault run).1,
        (runStatement agreement.apply store session fault run).2⟩ := by
  obtain ⟨failed, ran⟩ := honours store bound
  have valid := lawful.refl bound ghost
  unfold runStatement
  split
  · exact ⟨store, valid _, failed⟩
  split
  · exact ⟨store, valid _, failed⟩
  next view seen =>
  obtain ⟨violated, computed⟩ := ran view seen
  split
  · exact ⟨store, valid _, violated⟩
  · next writes made =>
      exact ⟨store, valid _, computed writes (Option.filter_eq_some_iff.mp made).1⟩

theorem guarantee_runCommit
    {rest : Bool → Process Store Write Signal Reply Value}
    {session : Session Write}
    {base : Store}
    (outcome : CommitOutcome)
    (bound : agreement.rely ghost session.writes base store)
    (honours : Honours agreement (.commit rest) ensures
      ⟨base, session.writes, session.aborted, ghost⟩) :
    (runCommit agreement.apply store session outcome).1 = store ∨
      agreement.guarantee store (runCommit agreement.apply store session outcome).1 := by
  unfold runCommit
  split
  · exact .inl rfl
  split
  · exact .inl rfl
  next result seen =>
  have guaranteed := ((honours store bound).2 result seen).1
  cases outcome with
  | committed => exact .inr guaranteed
  | appliedButReportedFailed => exact .inr guaranteed
  | failed => exact .inl rfl

theorem honours_runCommit
    (lawful : agreement.Lawful)
    {rest : Bool → Process Store Write Signal Reply Value}
    {session : Session Write}
    {base : Store}
    (outcome : CommitOutcome)
    (bound : agreement.rely ghost session.writes base store)
    (valid : agreement.rely ghost []
      (runCommit agreement.apply store session outcome).1
      (runCommit agreement.apply store session outcome).1)
    (honours : Honours agreement (.commit rest) ensures
      ⟨base, session.writes, session.aborted, ghost⟩) :
    Thread.Honours agreement ensures
      (runCommit agreement.apply store session outcome).1 ghost
      ⟨rest (runCommit agreement.apply store session outcome).2.1,
        (runCommit agreement.apply store session outcome).2.2⟩ := by
  obtain ⟨failed, applied⟩ := honours store bound
  have unchanged := lawful.refl bound ghost []
  unfold runCommit at valid ⊢
  split
  · exact ⟨store, unchanged, failed⟩
  next started =>
  rw [if_neg started] at valid
  split
  · exact ⟨store, unchanged, failed⟩
  next result seen =>
  rw [seen] at valid
  cases outcome with
  | committed => exact ⟨result, valid, (applied result seen).2 valid true⟩
  | appliedButReportedFailed => exact ⟨result, valid, (applied result seen).2 valid false⟩
  | failed => exact ⟨store, unchanged, failed⟩

section Steps

variable {stimulus : Stimulus Signal Reply} {asked : Option Signal}

/-- A step changes nothing or gives the guarantee. -/
theorem Thread.Honours.guarantee
    (honours : thread.Honours agreement ensures store ghost)
    (stepped : thread.step agreement.apply store stimulus = some (next, after, asked)) :
    next = store ∨ agreement.guarantee store next := by
  obtain ⟨base, bound, continues⟩ := honours
  unfold Thread.step at stepped
  split at stepped
  · cases stepped
  · obtain ⟨rfl, -⟩ := stepped
    exact .inl rfl
  · next rest process =>
      rw [process] at continues
      obtain ⟨rfl, -⟩ := stepped
      exact guarantee_runCommit _ bound continues
  · obtain ⟨rfl, -⟩ := stepped
    exact .inl rfl
  · obtain ⟨rfl, -⟩ := stepped
    exact .inl rfl

/-- A thread honours the agreement after its step, into a store that may be relied on. -/
theorem Thread.Honours.step
    (lawful : agreement.Lawful)
    (honours : thread.Honours agreement ensures store ghost)
    (valid : agreement.rely ghost [] next next)
    (stepped : thread.step agreement.apply store stimulus = some (next, after, asked)) :
    after.Honours agreement ensures next (agreement.noted ghost store stimulus asked) := by
  obtain ⟨base, bound, continues⟩ := honours
  unfold Thread.step at stepped
  split at stepped
  · cases stepped
  · next run rest process =>
      rw [process] at continues
      obtain ⟨rfl, rfl, rfl⟩ := stepped
      exact honours_runStatement lawful _ bound continues
  · next rest process =>
      rw [process] at continues
      obtain ⟨rfl, rfl, rfl⟩ := stepped
      exact honours_runCommit lawful _ bound valid continues
  · next rest process =>
      rw [process] at continues
      obtain ⟨rfl, rfl, rfl⟩ := stepped
      exact ⟨store, valid, continues store bound⟩
  · next signal rest process =>
      rw [process] at continues
      obtain ⟨rfl, rfl, rfl⟩ := stepped
      exact ⟨store, lawful.refl bound _ _, continues store bound _⟩

end Steps

end Threads

end Concurrent
