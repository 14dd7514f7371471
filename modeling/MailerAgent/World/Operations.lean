import MailerAgent.World.Footprint

/-!
# Native operations in a run

What one step does to a native operation and to the database, and what is therefore true
of every running operation: it was started by an action of the run, and its thread has
come as far as its own steps took it.
-/

namespace MailerAgent

open Concurrent Dispatch Intake Native

variable {deployment : Deployment} {before after world : World} {action : Action}
variable {past : List (World × Action)}

/-- Where a running operation comes from: it was there, it was started, or it took the
step. -/
inductive OperationMove
    (deployment : Deployment)
    (before : World)
    (action : Action)
    (after : World)
    (number : Nat)
    (running : Running) : Prop where
  | kept
      (found : before.natives number = some running)
      (other : ∀ stimulus, action ≠ .native number stimulus)
  | started
      (operation : Operation)
      (starts : action = .start number operation)
      (fresh : running = .start deployment before.database before.position operation)
  | stepped
      (stimulus : Stimulus Signal Signal.Reply)
      (old : Running)
      (thread : NativeThread)
      (asked : Option Signal)
      (steps : action = .native number stimulus)
      (found : before.natives number = some old)
      (advances : old.thread.step Change.apply before.database stimulus =
        some (after.database, thread, asked))
      (next : running = old.after before.database before.position stimulus thread asked)

theorem operation_of_step
    {number : Nat}
    {running : Running}
    (stepped : before.step deployment action = some after)
    (found : after.natives number = some running) :
    OperationMove deployment before action after number running := by
  obtain ⟨next, moved, rfl⟩ := Option.map_eq_some_iff.mp stepped
  have found : next.natives number = some running := found
  cases action with
  | dispatch worker choice =>
      obtain ⟨move, taken, rfl⟩ := Option.map_eq_some_iff.mp moved
      exact .kept found (by rintro _ ⟨⟩)
  | generation worker choice =>
      obtain ⟨move, taken, rfl⟩ := Option.map_eq_some_iff.mp moved
      exact .kept found (by rintro _ ⟨⟩)
  | request other choice =>
      obtain ⟨move, taken, rfl⟩ := Option.map_eq_some_iff.mp moved
      exact .kept found (by rintro _ ⟨⟩)
  | sweepSends | sweepGenerations | requestShutdown | resume | drain | crash | setClock =>
      obtain rfl := Option.some.inj moved
      exact .kept found (by rintro _ ⟨⟩)
  | resolve process outcome =>
      simp only [World.move] at moved
      split at moved
      · cases moved
      · obtain rfl := Option.some.inj moved
        exact .kept found (by rintro _ ⟨⟩)
  | start other operation =>
      simp only [World.move] at moved
      split at moved
      · cases moved
      · obtain rfl := Option.some.inj moved
        change Function.update before.natives other _ number = some running at found
        by_cases same : number = other
        · subst same
          rw [Function.update_self] at found
          exact .started operation rfl (Option.some.inj found).symm
        · rw [Function.update_of_ne same] at found
          exact .kept found (by rintro _ ⟨⟩)
  | stop other =>
      obtain rfl := Option.some.inj moved
      change Function.update before.natives other none number = some running at found
      by_cases same : number = other
      · subst same
        rw [Function.update_self] at found
        cases found
      · rw [Function.update_of_ne same] at found
        exact .kept found (by rintro _ ⟨⟩)
  | native other stimulus =>
      obtain ⟨old, started, rest⟩ := Option.bind_eq_some_iff.mp moved
      obtain ⟨⟨store, thread, asked⟩, advanced, rfl⟩ := Option.map_eq_some_iff.mp rest
      change Function.update before.natives other _ number = some running at found
      by_cases same : number = other
      · subst same
        rw [Function.update_self] at found
        exact .stepped stimulus old thread asked rfl started advanced
          (Option.some.inj found).symm
      · rw [Function.update_of_ne same] at found
        refine .kept found ?_
        rintro _ ⟨⟩
        exact same rfl

/-- The database changes by edits of the pipeline, or by the step of an operation. -/
theorem database_of_step
    (reachable : (system deployment).Reachable before)
    (stepped : before.step deployment action = some after) :
    Edits before.database after.database ∨
      ∃ number stimulus old thread asked, action = .native number stimulus ∧
        before.natives number = some old ∧
        old.thread.step Change.apply before.database stimulus =
          some (after.database, thread, asked) ∧
        after.natives number =
          some (old.after before.database before.position stimulus thread asked) := by
  by_cases native : ∃ number stimulus, action = .native number stimulus
  · obtain ⟨number, stimulus, rfl⟩ := native
    obtain ⟨next, moved, rfl⟩ := Option.map_eq_some_iff.mp stepped
    obtain ⟨old, started, rest⟩ := Option.bind_eq_some_iff.mp moved
    obtain ⟨⟨store, thread, asked⟩, advanced, rfl⟩ := Option.map_eq_some_iff.mp rest
    exact .inr ⟨number, stimulus, old, thread, asked, rfl, started, advanced,
      Function.update_self _ _ _⟩
  · refine .inl (edits_of_step (Invariant.of_reachable reachable)
      (fitted_of_reachable reachable) stepped ?_)
    rintro number stimulus rfl
    exact native ⟨number, stimulus, rfl⟩

/-- Every running operation was started in the run. -/
theorem started_of_run
    {number : Nat}
    {running : Running}
    (run : (system deployment).Run past world)
    (found : world.natives number = some running) :
    ∃ state, (state, Action.start number running.operation) ∈ past := by
  induction run generalizing number running with
  | start initial =>
      obtain ⟨clock, rfl⟩ := initial
      cases found
  | @step past state next action earlier stepped inductionHypothesis =>
      have later : ∀ operation, (∃ other, (other, Action.start number operation) ∈ past) →
          ∃ other, (other, Action.start number operation) ∈ past ++ [(state, action)] :=
        fun _ ⟨other, member⟩ => ⟨other, List.mem_append_left _ member⟩
      cases operation_of_step stepped found with
      | kept foundOld _ => exact later _ (inductionHypothesis foundOld)
      | started operation starts fresh =>
          subst starts fresh
          exact ⟨state, List.mem_append_right _ (List.mem_singleton.mpr rfl)⟩
      | stepped stimulus old thread asked _ foundOld _ next =>
          subst next
          exact later old.operation (inductionHypothesis foundOld)

end MailerAgent
