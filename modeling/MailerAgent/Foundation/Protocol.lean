import MailerAgent.Foundation.Company

/-!
# Protocols of a thread

What a thread may ask can depend on what it has done before. A `Protocol` sees a process
by phases: its statements, the ends of its transactions and its interactions move it from
one phase to the next, and the phase says which interactions it may have. In a phase that
is not `usable` no statement runs. `Follows` is a weakest precondition that knows nothing
about the store, and `Thread.Move` is everything that a step of a thread can be.
-/

namespace Concurrent

/-- The phases that a thread goes through, and the interactions that each of them allows. -/
structure Protocol
    (Write Signal : Type)
    (Reply : Signal → Type)
    (Phase : Type) where
  usable : Phase → Prop
  /-- A statement ran and made these writes. -/
  wrote : Phase → List Write → Phase
  /-- A statement failed or violated a constraint. -/
  lost : Phase → Phase
  /-- A commit was reported as applied or as failed. -/
  ended : Phase → Bool → Phase
  /-- A rollback. -/
  released : Phase → Phase
  asked : Phase → (signal : Signal) → Reply signal → Phase
  allows : Phase → Signal → Prop

variable {Store Write Signal Phase Value Result : Type} {Reply : Signal → Type}

/-- From a phase, every run has only interactions that are allowed and ends as ensured. -/
def Process.Follows (protocol : Protocol Write Signal Reply Phase) :
    Process Store Write Signal Reply Value → (Value → Phase → Prop) → Phase → Prop
  | .done value, ensures, phase => ensures value phase
  | .statement run next, ensures, phase =>
      (Follows protocol (next .failed) ensures (protocol.lost phase) ∧
        Follows protocol (next .violated) ensures (protocol.lost phase)) ∧
      (protocol.usable phase → ∀ view writes, run view = some writes →
        Follows protocol (next (.ran view)) ensures (protocol.wrote phase writes))
  | .commit next, ensures, phase =>
      ∀ reported, Follows protocol (next reported) ensures (protocol.ended phase reported)
  | .rollback next, ensures, phase => Follows protocol next ensures (protocol.released phase)
  | .ask signal next, ensures, phase =>
      protocol.allows phase signal ∧
        ∀ reply, Follows protocol (next reply) ensures (protocol.asked phase signal reply)

variable {protocol : Protocol Write Signal Reply Phase}

namespace Process

/-- A weaker final condition. -/
theorem Follows.mono
    {process : Process Store Write Signal Reply Value}
    {ensures weaker : Value → Phase → Prop}
    {phase : Phase}
    (follows : process.Follows protocol ensures phase)
    (implies : ∀ value phase, ensures value phase → weaker value phase) :
    process.Follows protocol weaker phase := by
  induction process generalizing phase with
  | done value => exact implies value phase follows
  | statement run next inductionHypothesis =>
      obtain ⟨⟨failed, violated⟩, ran⟩ := follows
      refine ⟨⟨inductionHypothesis _ failed, inductionHypothesis _ violated⟩, ?_⟩
      exact fun usable view writes made => inductionHypothesis _ (ran usable view writes made)
  | commit next inductionHypothesis =>
      exact fun reported => inductionHypothesis _ (follows reported)
  | rollback next inductionHypothesis => exact inductionHypothesis follows
  | ask signal next inductionHypothesis =>
      exact ⟨follows.1, fun reply => inductionHypothesis _ (follows.2 reply)⟩

/-- Sequential composition. -/
theorem follows_andThen
    {process : Process Store Write Signal Reply Value}
    {rest : Value → Process Store Write Signal Reply Result}
    {ensures : Result → Phase → Prop}
    {phase : Phase} :
    (process.andThen rest).Follows protocol ensures phase ↔
      process.Follows protocol (fun value => (rest value).Follows protocol ensures) phase := by
  induction process generalizing phase with
  | done value => rfl
  | statement run next inductionHypothesis =>
      simp only [Process.andThen, Follows, inductionHypothesis]
  | commit next inductionHypothesis =>
      simp only [Process.andThen, Follows, inductionHypothesis]
  | rollback next inductionHypothesis =>
      simp only [Process.andThen, Follows, inductionHypothesis]
  | ask signal next inductionHypothesis =>
      simp only [Process.andThen, Follows, inductionHypothesis]

end Process

/-- A set of phases that nothing within the bounds leaves, and that allows all of it. -/
structure Protocol.Stable
    (protocol : Protocol Write Signal Reply Phase)
    (bounds : Bounds Write Signal)
    (holds : Phase → Prop) : Prop where
  lost : ∀ {phase}, holds phase → holds (protocol.lost phase)
  wrote : ∀ {phase} {writes : List Write}, holds phase →
    (∀ write ∈ writes, bounds.writes write) → holds (protocol.wrote phase writes)
  asked : ∀ {phase signal} (reply : Reply signal), holds phase → bounds.asks signal →
    holds (protocol.asked phase signal reply)
  allows : ∀ {phase signal}, holds phase → bounds.asks signal → protocol.allows phase signal

/-- A process that stays within bounds and ends no transaction stays in stable phases. -/
theorem Process.Follows.of_confined
    {bounds : Bounds Write Signal}
    {holds : Phase → Prop}
    (stable : protocol.Stable bounds holds)
    (noTransaction : ¬bounds.transacts)
    {process : Process Store Write Signal Reply Value}
    {ensures : Value → Prop}
    {phase : Phase}
    (confined : process.Confined bounds ensures)
    (initially : holds phase) :
    process.Follows protocol (fun value after => ensures value ∧ holds after) phase := by
  induction process generalizing phase with
  | done value => exact ⟨confined, initially⟩
  | statement run next inductionHypothesis =>
      have lost := stable.lost initially
      refine ⟨⟨inductionHypothesis _ (confined.2 _) lost,
        inductionHypothesis _ (confined.2 _) lost⟩, fun _ view writes made => ?_⟩
      exact inductionHypothesis _ (confined.2 _)
        (stable.wrote initially (confined.1 view writes made))
  | commit next _ => exact absurd confined.1 noTransaction
  | rollback next _ => exact absurd confined.1 noTransaction
  | ask signal next inductionHypothesis =>
      refine ⟨stable.allows initially confined.1, fun reply => ?_⟩
      exact inductionHypothesis reply (confined.2 reply)
        (stable.asked reply initially confined.1)

/-! ## Threads -/

/-- What a step of a thread can be. -/
inductive Thread.Move
    (apply : Store → Write → Option Store)
    (store : Store)
    (thread : Thread Store Write Signal Reply Value)
    (stimulus : Stimulus Signal Reply) :
    Store → Thread Store Write Signal Reply Value → Option Signal → Prop where
  | statement
      {run : Store → Option (List Write)}
      {next : StatementResult Store → Process Store Write Signal Reply Value}
      {result : StatementResult Store}
      {session : Session Write}
      (process : thread.process = .statement run next)
      (issued : runStatement apply store thread.session stimulus.fault run = (result, session))
      (ran : Ran apply store thread.session run (result, session)) :
      Move apply store thread stimulus store ⟨next result, session⟩ none
  | commit
      {next : Bool → Process Store Write Signal Reply Value}
      {last : Store}
      {reported : Bool}
      {session : Session Write}
      (process : thread.process = .commit next)
      (ended : Ended apply store thread.session stimulus.commit (last, reported, session)) :
      Move apply store thread stimulus last ⟨next reported, session⟩ none
  | rollback
      {next : Process Store Write Signal Reply Value}
      (process : thread.process = .rollback next) :
      Move apply store thread stimulus store ⟨next, {}⟩ none
  | ask
      {signal : Signal}
      {next : Reply signal → Process Store Write Signal Reply Value}
      (process : thread.process = .ask signal next) :
      Move apply store thread stimulus store
        ⟨next (stimulus.answer signal), thread.session⟩ (some signal)

theorem Thread.move_of_step
    {apply : Store → Write → Option Store}
    {store last : Store}
    {thread after : Thread Store Write Signal Reply Value}
    {stimulus : Stimulus Signal Reply}
    {asked : Option Signal}
    (stepped : thread.step apply store stimulus = some (last, after, asked)) :
    Thread.Move apply store thread stimulus last after asked := by
  unfold Thread.step at stepped
  split at stepped
  · cases stepped
  · next run rest process =>
      obtain ⟨rfl, rfl, rfl⟩ := stepped
      exact .statement process rfl (ran_runStatement apply store thread.session _ run)
  · next rest process =>
      obtain ⟨rfl, rfl, rfl⟩ := stepped
      exact .commit process (ended_runCommit apply store thread.session _)
  · next rest process =>
      obtain ⟨rfl, rfl, rfl⟩ := stepped
      exact .rollback process
  · next signal rest process =>
      obtain ⟨rfl, rfl, rfl⟩ := stepped
      exact .ask process

end Concurrent
