import MailerAgent.Native.ApiConduct
import MailerAgent.World.Operations

/-!
# Native operations one at a time

Runs of the program in which a native operation starts when the one before has ended or
died, and the workers, the sweeps, the shutdowns and the intake take their steps between two
operations. A run carries a record of the interactions, and rules say which answers are
considered and when a transaction may be lost. What the programs keep when they run alone
then holds in every state of such a run.
-/

namespace MailerAgent

open Concurrent Dispatch Native Relational

variable {Ghost Value Prompt : Type}

/-- An operation that has returned. -/
def Running.Ended (running : Running) : Prop :=
  ∃ value, running.thread.process = .done value

/-- No native operation is under way. -/
def World.Rests (world : World) : Prop :=
  ∀ number running, world.natives number = some running → running.Ended

/-- An action of the pipeline or around it: of no native operation. -/
def Action.Pipeline : Action → Prop
  | .start _ _ => False
  | .native _ _ => False
  | .stop _ => False
  | _ => True

/-- The desk of an operation. -/
def Running.desk
    (running : Running)
    (rules : Rules Ghost)
    (world : World)
    (ghost : Ghost) :
    Desk Database Ghost :=
  running.thread.session.desk rules.regime world.database ghost

/-- Runs of permitted operations that do not overlap, under rules, from initial states. -/
inductive Serial
    (deployment : Deployment)
    (rules : Rules Ghost)
    (initially : World → Ghost → Prop)
    (permitted : Operation → Prop) : World → Ghost → Prop where
  | initial
      {world : World}
      {ghost : Ghost}
      (holds : initially world ghost) :
      Serial deployment rules initially permitted world ghost
  | start
      {world next : World}
      {ghost : Ghost}
      {number : Nat}
      {operation : Operation}
      (run : Serial deployment rules initially permitted world ghost)
      (rests : world.Rests)
      (permits : permitted operation)
      (stepped : (system deployment).step world (.start number operation) = some next) :
      Serial deployment rules initially permitted next ghost
  | native
      {world next : World}
      {ghost : Ghost}
      {number : Nat}
      {running : Running}
      {stimulus : Stimulus Signal Signal.Reply}
      (run : Serial deployment rules initially permitted world ghost)
      (found : world.natives number = some running)
      (permits : rules.regime.Permits (running.desk rules world ghost) stimulus
        running.thread.process)
      (stepped : (system deployment).step world (.native number stimulus) = some next) :
      Serial deployment rules initially permitted next
        (rules.regime.advance (running.desk rules world ghost) stimulus
          running.thread.process)
  | stop
      {world next : World}
      {ghost : Ghost}
      {number : Nat}
      (run : Serial deployment rules initially permitted world ghost)
      (permits : rules.calm ghost)
      (stepped : (system deployment).step world (.stop number) = some next) :
      Serial deployment rules initially permitted next ghost
  | setClock
      {world next : World}
      {ghost : Ghost}
      {instant : Instant}
      (run : Serial deployment rules initially permitted world ghost)
      (stepped : (system deployment).step world (.setClock instant) = some next) :
      Serial deployment rules initially permitted next ghost
  /-- The pipeline takes a step between two operations. -/
  | between
      {world next : World}
      {ghost : Ghost}
      {action : Action}
      (run : Serial deployment rules initially permitted world ghost)
      (rests : world.Rests)
      (pipeline : action.Pipeline)
      (stepped : (system deployment).step world action = some next) :
      Serial deployment rules initially permitted next ghost

/-- The start of an operation. -/
structure Begins
    (rules : Rules Ghost)
    (pending : List Change)
    (desk : Desk Database Ghost) : Prop where
  empty : pending = []
  view : desk.view = some desk.store
  kept : rules.kept desk.ghost desk.store
  calm : rules.calm desk.ghost

/-- The end of an operation. -/
def Ends (rules : Rules Ghost) : Assertion Ghost :=
  fun _ desk => rules.calm desk.ghost

/-- What holds in every state of a serial run. -/
structure Orderable
    (rules : Rules Ghost)
    (world : World)
    (ghost : Ghost) : Prop where
  kept : rules.kept ghost world.database
  calm : world.Rests → rules.calm ghost
  sole : ∀ first second left right, world.natives first = some left →
    world.natives second = some right → ¬left.Ended → ¬right.Ended → first = second
  solo : ∀ number running, world.natives number = some running → ¬running.Ended →
    Solo rules.regime running.thread.process (fun _ desk => rules.calm desk.ghost)
        (running.desk rules world ghost) ∧
      running.thread.session.Sane rules.regime world.database

section Serial

variable {deployment : Deployment} {rules : Rules Ghost} {world next : World} {ghost : Ghost}
variable {number : Nat}

/-- What a step does, apart from the count of steps. -/
theorem moved_of_step
    {action : Action}
    (stepped : (system deployment).step world action = some next) :
    ∃ moved, world.move deployment action = some moved ∧
      { moved with position := world.position + 1 } = next :=
  Option.map_eq_some_iff.mp stepped

/-- A state in which nothing is under way. -/
theorem Orderable.of_rests
    (kept : rules.kept ghost world.database)
    (calm : rules.calm ghost)
    (rests : world.Rests) :
    Orderable rules world ghost where
  kept := kept
  calm _ := calm
  sole first _ left _ found _ busy := (busy (rests first left found)).elim
  solo number running found busy := (busy (rests number running found)).elim

/-- A state in which at most one operation is under way. -/
theorem Orderable.of_one
    {running : Running}
    (kept : rules.kept ghost world.database)
    (found : world.natives number = some running)
    (others : ∀ other running, world.natives other = some running → other ≠ number →
      running.Ended)
    (solo : Solo rules.regime running.thread.process (fun _ desk => rules.calm desk.ghost)
      (running.desk rules world ghost))
    (sane : running.thread.session.Sane rules.regime world.database) :
    Orderable rules world ghost where
  kept := kept
  calm rests := by
    obtain ⟨value, ended⟩ := rests number running found
    rw [ended] at solo
    exact solo
  sole first second left right foundLeft foundRight busyLeft busyRight := by
    have one : ∀ other running, world.natives other = some running → ¬running.Ended →
        other = number :=
      fun other running found busy => by_contra fun elsewhere =>
        busy (others other running found elsewhere)
    exact (one first left foundLeft busyLeft).trans (one second right foundRight busyRight).symm
  solo other candidate foundOther busy := by
    have here : other = number :=
      by_contra fun elsewhere => busy (others other candidate foundOther elsewhere)
    subst here
    cases found.symm.trans foundOther
    exact ⟨solo, sane⟩

theorem Orderable.start
    {operation : Operation}
    (orderable : Orderable rules world ghost)
    (rests : world.Rests)
    (performs : Performs rules (Begins rules) (operation.program deployment)
      (fun _ => Ends rules) fun _ => Ends rules)
    (stepped : (system deployment).step world (.start number operation) = some next) :
    Orderable rules next ghost := by
  obtain ⟨moved, started, rfl⟩ := moved_of_step stepped
  change (if (world.natives number).isSome then none else _) = some moved at started
  split at started
  · cases started
  · cases started
    refine Orderable.of_one orderable.kept (Function.update_self _ _ _) ?_ ?_
      fun _ => ⟨world.database, rfl⟩
    · intro other running found elsewhere
      exact rests other running ((Function.update_of_ne elsewhere _ _).symm.trans found)
    · refine (performs [] ⟨world.database, some world.database, ghost⟩
        ⟨rfl, rfl, orderable.kept, orderable.calm rests⟩).mono ?_
      rintro ⟨result, pending⟩ desk ended
      cases result <;> exact ended

theorem Orderable.native
    {running : Running}
    {stimulus : Stimulus Signal Signal.Reply}
    (orderable : Orderable rules world ghost)
    (found : world.natives number = some running)
    (permits : rules.regime.Permits (running.desk rules world ghost) stimulus
      running.thread.process)
    (stepped : (system deployment).step world (.native number stimulus) = some next) :
    Orderable rules next (rules.regime.advance (running.desk rules world ghost) stimulus
      running.thread.process) := by
  obtain ⟨moved, taken, rfl⟩ := moved_of_step stepped
  obtain ⟨candidate, foundToo, taken⟩ := Option.bind_eq_some_iff.mp taken
  cases found.symm.trans foundToo
  obtain ⟨⟨database, thread, asked⟩, moves, rfl⟩ := Option.map_eq_some_iff.mp taken
  have busy : ¬running.Ended := by
    rintro ⟨value, ended⟩
    unfold Thread.step at moves
    rw [ended] at moves
    cases moves
  obtain ⟨solo, sane⟩ := orderable.solo number running found busy
  obtain ⟨continues, fine, kept⟩ := solo.step sane orderable.kept permits moves
  refine Orderable.of_one kept (Function.update_self _ _ _) ?_ continues fine
  intro other candidate foundOther elsewhere
  have before : world.natives other = some candidate :=
    (Function.update_of_ne elsewhere _ _).symm.trans foundOther
  by_contra going
  exact elsewhere (orderable.sole other number candidate running before found going busy)

theorem Orderable.stop
    (orderable : Orderable rules world ghost)
    (calm : rules.calm ghost)
    (stepped : (system deployment).step world (.stop number) = some next) :
    Orderable rules next ghost := by
  obtain ⟨moved, taken, rfl⟩ := moved_of_step stepped
  cases taken
  have remains : ∀ other running,
      Function.update world.natives number none other = some running →
      world.natives other = some running := by
    intro other running found
    by_cases here : other = number
    · subst here
      rw [Function.update_self] at found
      cases found
    · rw [Function.update_of_ne here] at found
      exact found
  exact
    { kept := orderable.kept
      calm := fun _ => calm
      sole := fun first second left right foundLeft foundRight =>
        orderable.sole first second left right (remains first left foundLeft)
          (remains second right foundRight)
      solo := fun other running found =>
        orderable.solo other running (remains other running found) }

theorem Orderable.setClock
    {instant : Instant}
    (orderable : Orderable rules world ghost)
    (stepped : (system deployment).step world (.setClock instant) = some next) :
    Orderable rules next ghost := by
  obtain ⟨moved, taken, rfl⟩ := moved_of_step stepped
  cases taken
  exact ⟨orderable.kept, orderable.calm, orderable.sole, orderable.solo⟩

/-- The pipeline starts no operation and takes none further. -/
theorem World.Rests.pipeline
    {action : Action}
    (rests : world.Rests)
    (pipeline : action.Pipeline)
    (stepped : (system deployment).step world action = some next) :
    next.Rests := by
  intro number running found
  cases operation_of_step stepped found with
  | kept before _ => exact rests number running before
  | started operation starts _ =>
      subst starts
      exact pipeline.elim
  | stepped _ _ _ _ steps _ _ _ =>
      subst steps
      exact pipeline.elim

theorem Orderable.between
    {action : Action}
    (orderable : Orderable rules world ghost)
    (rests : world.Rests)
    (pipeline : action.Pipeline)
    (kept : rules.kept ghost next.database)
    (stepped : (system deployment).step world action = some next) :
    Orderable rules next ghost :=
  .of_rests kept (orderable.calm rests) (rests.pipeline pipeline stepped)

/-- A serial run from reachable states is a run of the program. -/
theorem Serial.reachable
    {initially : World → Ghost → Prop}
    {permitted : Operation → Prop}
    (begun : ∀ world ghost, initially world ghost → (system deployment).Reachable world)
    (run : Serial deployment rules initially permitted world ghost) :
    (system deployment).Reachable world := by
  induction run with
  | initial holds => exact begun _ _ holds
  | start run rests permits stepped inductionHypothesis =>
      exact inductionHypothesis.step stepped
  | native run found permits stepped inductionHypothesis =>
      exact inductionHypothesis.step stepped
  | stop run permits stepped inductionHypothesis => exact inductionHypothesis.step stepped
  | setClock run stepped inductionHypothesis => exact inductionHypothesis.step stepped
  | between run rests pipeline stepped inductionHypothesis =>
      exact inductionHypothesis.step stepped

/-- What every permitted operation keeps alone, and every step of the pipeline, holds in
every state of a serial run. -/
theorem Serial.orderable
    {initially : World → Ghost → Prop}
    {permitted : Operation → Prop}
    (begun : ∀ world ghost, initially world ghost →
      (system deployment).Reachable world ∧ Orderable rules world ghost)
    (performs : ∀ operation, permitted operation →
      Performs rules (Begins rules) (operation.program deployment)
        (fun _ => Ends rules) fun _ => Ends rules)
    (keeps : ∀ world next ghost action, (system deployment).Reachable world →
      action.Pipeline → (system deployment).step world action = some next →
      rules.kept ghost world.database → rules.kept ghost next.database)
    (run : Serial deployment rules initially permitted world ghost) :
    Orderable rules world ghost := by
  induction run with
  | initial holds => exact (begun _ _ holds).2
  | start run rests permits stepped inductionHypothesis =>
      exact inductionHypothesis.start rests (performs _ permits) stepped
  | native run found permits stepped inductionHypothesis =>
      exact inductionHypothesis.native found permits stepped
  | stop run permits stepped inductionHypothesis =>
      exact inductionHypothesis.stop permits stepped
  | setClock run stepped inductionHypothesis =>
      exact inductionHypothesis.setClock stepped
  | between run rests pipeline stepped inductionHypothesis =>
      have reached := run.reachable fun world ghost initial => (begun world ghost initial).1
      exact inductionHypothesis.between rests pipeline
        (keeps _ _ _ _ reached pipeline stepped inductionHypothesis.kept) stepped

end Serial

/-! ## Laws -/

section Laws

variable {law : Law} {deployment : Deployment}

/-- The start of a program over contacts that comply. -/
theorem Native.Law.Stored.clean
    (unpinned : ∀ key, law.Free key)
    {desk : Desk Database Heard}
    (stored : law.Stored desk.store)
    (view : desk.view = some desk.store) :
    Clean law [] desk where
  empty := rfl
  view := view
  orderly := by
    refine Law.Stored.orderly stored (fun other seen => ?_) fun key contact member =>
      (unpinned key contact member).elim
    exact (Option.some.inj (view.symm.trans seen)).symm

theorem Begins.clean
    (unpinned : ∀ key, law.Free key)
    {pending : List Change}
    {desk : Desk Database Heard}
    (begins : Begins law.rules pending desk) :
    Clean law pending desk := by
  rw [begins.empty]
  exact Law.Stored.clean unpinned begins.kept begins.view

/-- The pipeline only adds contacts, and a law allows new ones. -/
theorem Native.Law.Stored.pipeline
    {world next : World}
    {action : Action}
    (stored : law.Stored world.database)
    (opens : law.Open)
    (reachable : (system deployment).Reachable world)
    (pipeline : action.Pipeline)
    (stepped : (system deployment).step world action = some next) :
    law.Stored next.database := by
  have wellFormed :=
    (Invariant.of_reachable (reachable.step stepped)).current.consistent.toWellFormed
  rcases database_of_step reachable stepped with edits | ⟨_, _, _, _, _, rfl, _⟩
  · obtain ⟨extended, origin⟩ := edits.contacts
    refine ⟨wellFormed, stored.2.1.trans extended.size_le, fun key contact found => ?_⟩
    rcases origin key contact found with old | new
    · exact stored.2.2 key contact old
    by_cases inside : key < world.database.contacts.size
    · -- The key was taken, so this is the contact that was stored under it.
      obtain ⟨old, foundOld⟩ := Table.exists_get_of_lt_size inside
      obtain ⟨_, foundSame, rfl⟩ := extended key old foundOld
      cases foundSame.symm.trans found
      exact stored.2.2 key _ foundOld
    · unfold Law.row
      rw [new.status, new.nextActionAt]
      exact opens key (stored.2.1.trans (Nat.le_of_not_lt inside))
  · exact pipeline.elim

/-- In every state of a serial run the stored contacts comply with a closed law. -/
theorem Serial.stored
    {initially : World → Heard → Prop}
    {permitted : Operation → Prop}
    {world : World}
    {ghost : Heard}
    (closed : law.Closed)
    (opens : law.Open)
    (unpinned : ∀ key, law.Free key)
    (begun : ∀ world ghost, initially world ghost →
      (system deployment).Reachable world ∧ law.Stored world.database ∧ world.Rests)
    (run : Serial deployment law.rules initially permitted world ghost) :
    law.Stored world.database := by
  refine (run.orderable (fun world ghost initial => ?_) (fun operation _ => ?_)
    fun world next ghost action reachable pipeline stepped stored =>
      Law.Stored.pipeline stored opens reachable pipeline stepped).kept
  · obtain ⟨reachable, stored, rests⟩ := begun world ghost initial
    exact ⟨reachable, .of_rests stored trivial rests⟩
  · refine ((respects_program operation closed opens unpinned).weaken ?_ ?_).strengthen
      fun _ _ begins => begins.clean unpinned
    · exact fun _ _ _ _ => trivial
    · exact fun _ _ _ _ => trivial

/-- A law that considers every answer. -/
structure Native.Law.Receptive (law : Law) : Prop where
  admits : ∀ key contact classified, law.admits key contact classified
  silent : ∀ classified, law.silent classified

theorem Native.Law.Receptive.hears
    (receptive : law.Receptive)
    (desk : Desk Database Heard)
    (signal : Signal)
    (reply : signal.Reply) :
    law.hears desk signal reply := by
  cases signal with
  | classify key body submitted =>
      change Except String ClassificationResult at reply
      cases reply with
      | error name => trivial
      | ok classified => exact fun _ contact _ _ => receptive.admits key contact classified
  | draftMessage key action =>
      change DraftResult at reply
      cases reply <;> cases action <;>
        first | trivial | exact fun classified _ => receptive.silent classified
  | _ => trivial

/-- What a program that runs alone leaves in the database, whatever fails and whatever it
is answered. -/
theorem stored_alone
    (stored : Value → Database → Prop)
    {before : Assertion Heard}
    {program : Program Value}
    {database : Database}
    {prompt : Signal → Database → Prompt}
    {environment : Environment Signal Prompt Signal.Reply}
    {position : Nat}
    {value : Value}
    (receptive : law.Receptive)
    (conducts : Conducts law before program fun value _ desk => stored value desk.store)
    (complies : law.Stored database)
    (begins : before [] ⟨database, some database, none⟩)
    (returned : (Process.alone Change.apply prompt environment (program []) position
      database {}).value.1 = .ok value) :
    stored value (Process.alone Change.apply prompt environment (program []) position
      database {}).store := by
  have solo : Solo law.rules.regime (program [])
      (fun outcome after => outcome.1 = .ok value → stored value after.store)
      (({} : Session Change).desk law.rules.regime database none) := by
    refine Solo.mono (conducts [] _ begins) ?_
    rintro ⟨result, waiting⟩ after ended returned
    cases returned
    exact ended
  obtain ⟨last, ended⟩ := @Solo.alone _ _ _ _ _ _ _ law.rules.regime prompt environment _ _
    (fun _ => trivial) (fun desk position signal read => receptive.hears desk signal _) position
    database {} none solo (fun _ => ⟨database, rfl⟩) complies
  exact ended returned

end Laws
end MailerAgent
