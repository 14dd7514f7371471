import MailerAgent.Foundation.Confinement
import MailerAgent.Foundation.Twin

/-!
# Where a process that runs alone gets to

The writes that the statements of a process make when it runs alone, in order, and the
way there: `Settles` follows a process through statements that only read and through its
interactions. What a process writes is what the process writes that it settles to.
-/

namespace Concurrent

variable {Store Write Signal Prompt : Type} {Reply : Signal → Type}
variable {Value Result : Type}

section Alone

variable (apply : Store → Write → Option Store) (prompt : Signal → Store → Prompt)
variable (environment : Environment Signal Prompt Reply)

/-- The writes that a process alone had accepted, in order, whether or not it kept them. -/
def Process.written :
    Process Store Write Signal Reply Value → Nat → Store → Session Write → List Write
  | .done _, _, _, _ => []
  | .statement run next, position, store, session =>
      let result := runStatement apply store session (environment.fault position) run
      result.2.writes.drop session.writes.length ++
        Process.written (next result.1) (position + 1) store result.2
  | .commit next, position, store, session =>
      let result := runCommit apply store session (environment.commit position)
      Process.written (next result.2.1) (position + 1) result.1 result.2.2
  | .rollback next, position, store, _ => Process.written next (position + 1) store {}
  | .ask signal next, position, store, session =>
      Process.written
        (next (environment.answer position signal
          (promptIn apply prompt store session signal))) (position + 1) store session

/-- On a store, from a position, a process comes to another one without a write. -/
inductive Process.Settles (store : Store) :
    Nat → Process Store Write Signal Reply Value →
    Nat → Process Store Write Signal Reply Value → Prop where
  | refl
      {position : Nat}
      {process : Process Store Write Signal Reply Value} :
      Settles store position process position process
  | read
      {position last : Nat}
      {run : Store → Option (List Write)}
      {next : StatementResult Store → Process Store Write Signal Reply Value}
      {process : Process Store Write Signal Reply Value}
      (works : environment.fault position = false)
      (reads : run store = some [])
      (rest : Settles store (position + 1) (next (.ran store)) last process) :
      Settles store position (.statement run next) last process
  | ask
      {position last : Nat}
      {signal : Signal}
      {next : Reply signal → Process Store Write Signal Reply Value}
      {process : Process Store Write Signal Reply Value}
      (rest : Settles store (position + 1)
        (next (environment.answer position signal (some (prompt signal store))))
        last process) :
      Settles store position (.ask signal next) last process

end Alone

variable {apply : Store → Write → Option Store} {prompt : Signal → Store → Prompt}
variable {environment : Environment Signal Prompt Reply}

/-- A statement of a new transaction, with acceptable writes. -/
theorem runStatement_accepted
    {store after : Store}
    {run : Store → Option (List Write)}
    {writes : List Write}
    (makes : run store = some writes)
    (accepted : applyAll apply store writes = some after) :
    runStatement apply store {} false run = (.ran store, { writes := writes }) := by
  have passes : (some writes).filter
      (fun writes => (applyAll apply store writes).isSome) = some writes := by
    simp [Option.filter, accepted]
  unfold runStatement
  rw [if_neg (by simp)]
  simp only [applyAll, makes, passes, List.nil_append]

namespace Process.Settles

variable {store : Store} {first middle last : Nat}
variable {start between finish : Process Store Write Signal Reply Value}

theorem trans
    (left : Settles prompt environment store first start middle between)
    (right : Settles prompt environment store middle between last finish) :
    Settles prompt environment store first start last finish := by
  induction left with
  | refl => exact right
  | read works reads _ inductionHypothesis => exact .read works reads (inductionHypothesis right)
  | ask _ inductionHypothesis => exact .ask (inductionHypothesis right)

/-- What follows a process follows the process that it settles to. -/
theorem andThen
    (settles : Settles prompt environment store first start last finish)
    (rest : Value → Process Store Write Signal Reply Result) :
    Settles prompt environment store first (start.andThen rest) last
      (finish.andThen rest) := by
  induction settles with
  | refl => exact .refl
  | read works reads _ inductionHypothesis => exact .read works reads inductionHypothesis
  | ask _ inductionHypothesis => exact .ask inductionHypothesis

/-- The way to another process adds nothing to what is written. -/
theorem written
    (settles : Settles prompt environment store first start last finish) :
    start.written apply prompt environment first store {} =
      finish.written apply prompt environment last store {} := by
  induction settles with
  | refl => rfl
  | read works reads _ inductionHypothesis =>
      rw [← inductionHypothesis, Process.written, works, runStatement_accepted reads rfl]
      rfl
  | ask _ inductionHypothesis => exact inductionHypothesis

end Process.Settles

/-- A statement that makes acceptable writes. -/
theorem Process.written_statement
    {store after : Store}
    {position : Nat}
    {run : Store → Option (List Write)}
    {next : StatementResult Store → Process Store Write Signal Reply Value}
    {writes : List Write}
    (works : environment.fault position = false)
    (makes : run store = some writes)
    (accepted : applyAll apply store writes = some after) :
    ∃ more, (Process.statement run next).written apply prompt environment position store {} =
      writes ++ more := by
  rw [Process.written, works, runStatement_accepted makes accepted]
  exact ⟨_, rfl⟩

/-- A statement adds to the transaction only what it makes. -/
theorem mem_of_mem_runStatement
    {store : Store}
    {session : Session Write}
    {fault : Bool}
    {run : Store → Option (List Write)}
    {write : Write}
    (member : write ∈ (runStatement apply store session fault run).2.writes.drop
      session.writes.length) :
    ∃ view writes, run view = some writes ∧ write ∈ writes := by
  unfold runStatement at member
  split at member
  · rw [List.drop_length] at member
    cases member
  split at member
  · rw [List.drop_length] at member
    cases member
  split at member
  · rw [List.drop_length] at member
    cases member
  · next view _ _ writes computed =>
      rw [List.drop_left] at member
      exact ⟨view, writes, (Option.filter_eq_some_iff.mp computed).1, member⟩

/-- A confined process writes within its bounds. -/
theorem Process.Confined.written
    {bounds : Bounds Write Signal}
    {process : Process Store Write Signal Reply Value}
    {ensures : Value → Prop}
    (confined : process.Confined bounds ensures)
    (position : Nat)
    (store : Store)
    (session : Session Write) :
    ∀ write ∈ process.written apply prompt environment position store session,
      bounds.writes write := by
  induction process generalizing position store session with
  | done value => exact fun _ member => (List.not_mem_nil member).elim
  | statement run next inductionHypothesis =>
      intro write member
      rcases List.mem_append.mp member with made | later
      · obtain ⟨view, writes, computed, among⟩ := mem_of_mem_runStatement made
        exact confined.1 view writes computed write among
      · exact inductionHypothesis _ (confined.2 _) _ _ _ write later
  | commit next inductionHypothesis =>
      exact inductionHypothesis _ (confined.2 _) _ _ _
  | rollback next inductionHypothesis => exact inductionHypothesis confined.2 _ _ _
  | ask signal next inductionHypothesis =>
      exact inductionHypothesis _ (confined.2 _) _ _ _

end Concurrent
