import MailerAgent.Foundation.Process

/-!
# What a process can do at all

A process is `Confined` to bounds if, whatever its statements report and whatever it is
answered, its statements make only some writes, it has only some interactions, and it
ends a transaction only if the bounds let it. Confinement knows nothing about the store;
it says which changes a thread could ever commit.
-/

namespace Concurrent

/-- Which writes a process makes, which interactions it has, and whether it ends
transactions. -/
structure Bounds (Write Signal : Type) where
  writes : Write → Prop
  asks : Signal → Prop
  transacts : Prop

namespace Process

variable {Store Write Signal : Type} {Reply : Signal → Type} {Value Result : Type}

/-- Every run stays within the bounds and ends in a value as ensured. -/
def Confined (bounds : Bounds Write Signal) :
    Process Store Write Signal Reply Value → (Value → Prop) → Prop
  | .done value, ensures => ensures value
  | .statement run next, ensures =>
      (∀ view writes, run view = some writes → ∀ write ∈ writes, bounds.writes write) ∧
        ∀ result, Confined bounds (next result) ensures
  | .commit next, ensures =>
      bounds.transacts ∧ ∀ reported, Confined bounds (next reported) ensures
  | .rollback next, ensures => bounds.transacts ∧ Confined bounds next ensures
  | .ask signal next, ensures =>
      bounds.asks signal ∧ ∀ reply, Confined bounds (next reply) ensures

variable {bounds wider : Bounds Write Signal}

/-- Wider bounds and a weaker final condition. -/
theorem Confined.mono
    {process : Process Store Write Signal Reply Value}
    {ensures weaker : Value → Prop}
    (confined : process.Confined bounds ensures)
    (writes : ∀ write, bounds.writes write → wider.writes write)
    (asks : ∀ signal, bounds.asks signal → wider.asks signal)
    (transacts : bounds.transacts → wider.transacts)
    (implies : ∀ value, ensures value → weaker value) :
    process.Confined wider weaker := by
  induction process with
  | done value => exact implies value confined
  | statement run next inductionHypothesis =>
      refine ⟨?_, fun result => inductionHypothesis result (confined.2 result)⟩
      intro view made computed write member
      exact writes write (confined.1 view made computed write member)
  | commit next inductionHypothesis =>
      exact ⟨transacts confined.1,
        fun reported => inductionHypothesis reported (confined.2 reported)⟩
  | rollback next inductionHypothesis =>
      exact ⟨transacts confined.1, inductionHypothesis confined.2⟩
  | ask signal next inductionHypothesis =>
      exact ⟨asks signal confined.1,
        fun reply => inductionHypothesis reply (confined.2 reply)⟩

/-- A weaker final condition. -/
theorem Confined.weaken
    {process : Process Store Write Signal Reply Value}
    {ensures weaker : Value → Prop}
    (confined : process.Confined bounds ensures)
    (implies : ∀ value, ensures value → weaker value) :
    process.Confined bounds weaker :=
  confined.mono (fun _ => id) (fun _ => id) id implies

/-- Sequential composition. -/
theorem Confined.andThen
    {process : Process Store Write Signal Reply Value}
    {rest : Value → Process Store Write Signal Reply Result}
    {middle : Value → Prop}
    {ensures : Result → Prop}
    (first : process.Confined bounds middle)
    (second : ∀ value, middle value → (rest value).Confined bounds ensures) :
    (process.andThen rest).Confined bounds ensures := by
  induction process with
  | done value => exact second value first
  | statement run next inductionHypothesis =>
      exact ⟨first.1, fun result => inductionHypothesis result (first.2 result)⟩
  | commit next inductionHypothesis =>
      exact ⟨first.1, fun reported => inductionHypothesis reported (first.2 reported)⟩
  | rollback next inductionHypothesis => exact ⟨first.1, inductionHypothesis first.2⟩
  | ask signal next inductionHypothesis =>
      exact ⟨first.1, fun reply => inductionHypothesis reply (first.2 reply)⟩

end Process

/-! ## Threads -/

section Threads

variable {Store Write Signal : Type} {Reply : Signal → Type} {Value : Type}
variable {bounds : Bounds Write Signal}
variable {apply : Store → Write → Option Store} {store next : Store}
variable {thread after : Thread Store Write Signal Reply Value}
variable {stimulus : Stimulus Signal Reply} {asked : Option Signal}

/-- A thread of a confined process, with a transaction within the bounds. -/
structure Thread.Confined
    (bounds : Bounds Write Signal)
    (thread : Thread Store Write Signal Reply Value) : Prop where
  process : thread.process.Confined bounds fun _ => True
  writes : ∀ write ∈ thread.session.writes, bounds.writes write

theorem Thread.Confined.mono
    {wider : Bounds Write Signal}
    (confined : thread.Confined bounds)
    (writes : ∀ write, bounds.writes write → wider.writes write)
    (asks : ∀ signal, bounds.asks signal → wider.asks signal)
    (transacts : bounds.transacts → wider.transacts) :
    thread.Confined wider where
  process := confined.process.mono writes asks transacts fun _ => id
  writes write member := writes write (confined.writes write member)

/-- The transaction after a statement. -/
theorem writes_runStatement
    {session : Session Write}
    {fault : Bool}
    {run : Store → Option (List Write)}
    (held : ∀ write ∈ session.writes, bounds.writes write)
    (made : ∀ view writes, run view = some writes → ∀ write ∈ writes, bounds.writes write) :
    ∀ write ∈ (runStatement apply store session fault run).2.writes, bounds.writes write := by
  unfold runStatement
  split
  · exact held
  split
  · exact held
  split
  · exact held
  · next writes computed =>
      intro write member
      rcases List.mem_append.mp member with earlier | fresh
      · exact held write earlier
      · exact made _ writes (Option.filter_eq_some_iff.mp computed).1 write fresh

/-- A commit leaves an empty transaction. -/
theorem writes_runCommit
    (session : Session Write)
    (outcome : CommitOutcome) :
    (runCommit apply store session outcome).2.2.writes = [] := by
  unfold runCommit
  split
  · rfl
  split
  · rfl
  · rfl

/-- One step: the thread stays confined, and it asks only what the bounds admit. -/
theorem Thread.Confined.step
    (confined : thread.Confined bounds)
    (stepped : thread.step apply store stimulus = some (next, after, asked)) :
    after.Confined bounds ∧ ∀ signal, asked = some signal → bounds.asks signal := by
  obtain ⟨confines, writes⟩ := confined
  unfold Thread.step at stepped
  split at stepped
  · cases stepped
  · next process =>
      rw [process] at confines
      obtain ⟨-, rfl, rfl⟩ := stepped
      exact ⟨⟨confines.2 _, writes_runStatement writes confines.1⟩, nofun⟩
  · next process =>
      rw [process] at confines
      obtain ⟨-, rfl, rfl⟩ := stepped
      refine ⟨⟨confines.2 _, ?_⟩, nofun⟩
      dsimp only
      rw [writes_runCommit]
      exact nofun
  · next process =>
      rw [process] at confines
      obtain ⟨-, rfl, rfl⟩ := stepped
      exact ⟨⟨confines.2, nofun⟩, nofun⟩
  · next process =>
      rw [process] at confines
      obtain ⟨-, rfl, rfl⟩ := stepped
      refine ⟨⟨confines.2 _, writes⟩, ?_⟩
      rintro _ ⟨⟩
      exact confines.1

/-- A step of a confined thread changes the store by writes within the bounds, if at
all. -/
theorem Thread.Confined.commits
    (confined : thread.Confined bounds)
    (stepped : thread.step apply store stimulus = some (next, after, asked)) :
    next = store ∨
      ∃ writes, (∀ write ∈ writes, bounds.writes write) ∧
        applyAll apply store writes = some next :=
  (Thread.step_store stepped).imp_right fun applied => ⟨_, confined.writes, applied⟩

end Threads

/-! ## Writes that keep a property of the store -/

/-- What every write of a kind keeps, a transaction of such writes keeps. -/
theorem applyAll_induct
    {Store Write : Type}
    {apply : Store → Write → Option Store}
    {kind : Write → Prop}
    {related : Store → Store → Prop}
    (refl : ∀ store, related store store)
    (trans : ∀ {first second third}, related first second → related second third →
      related first third)
    (effect : ∀ {store result write}, kind write → apply store write = some result →
      related store result)
    {store result : Store}
    {writes : List Write}
    (kinds : ∀ write ∈ writes, kind write)
    (applied : applyAll apply store writes = some result) :
    related store result := by
  induction writes generalizing store with
  | nil =>
      obtain rfl := Option.some.inj applied
      exact refl store
  | cons write writes inductionHypothesis =>
      obtain ⟨middle, first, rest⟩ := Option.bind_eq_some_iff.mp applied
      refine trans (effect (kinds write List.mem_cons_self) first) (inductionHypothesis ?_ rest)
      intro other member
      exact kinds other (List.mem_cons_of_mem write member)

end Concurrent
