import MailerAgent.Access.Views
import MailerAgent.Dispatch.Ownership
import MailerAgent.Native.Owning
import MailerAgent.World.Operations
import MailerAgent.World.Tenants

/-!
# Isolation of organizations

The requests of an organization, and the workers that handle its dispatches, write no row
of another one, however their steps interleave with each other, with failed commits and
with crashes. Only the lease sweeps and the scheduled jobs work for all organizations.
-/

namespace MailerAgent

open Concurrent Relational Mail Dispatch Intake Native

namespace World

variable (world : World)

/-- The organization for which a step works. -/
def serves : Action → Option String
  | .dispatch worker _ => (world.dispatchers worker).claim.bind fun claim =>
      dispatchOwner world.database claim.dispatchId
  | .generation _ (.claim workerId locked _) =>
      (claimNextGenerationDispatch world.database locked workerId world.clock).bind fun claim =>
        dispatchOwner world.database claim.dispatchId
  | .generation worker _ => (world.generators worker).preparation.bind fun prepared =>
      dispatchOwner world.database prepared.claim.dispatchId
  | .resolve process _ => (world.draining process).head?.bind fun claim =>
      dispatchOwner world.database claim.dispatchId
  | .request number _ => (world.requests number).request.map OutreachRequest.organizationId
  | .native number _ => (world.natives number).bind fun running => running.operation.tenant
  | _ => none

/-- The steps that work for all organizations: lease sweeps and scheduled jobs. -/
def serviceWide : Action → Bool
  | .sweepSends _ _ _ | .sweepGenerations _ _ _ => true
  | .native number _ => (world.natives number).any fun running => running.operation.tenant.isNone
  | _ => false

end World

variable {deployment : Deployment} {before after world : World} {action : Action}
variable {organization : String}

/-! ## Running operations -/

/-- The operations of the organizations keep to the rows of their organization. -/
def Housed (world : World) : Prop :=
  ∀ number running owner, world.natives number = some running →
    running.operation.tenant = some owner →
    ∃ ghost, running.thread.Honours (ownership owner) (fun _ _ => True) world.database ghost

theorem housed_start
    {database earlier : Database}
    {position : Nat}
    {operation : Operation}
    {owner : String}
    (tenant : operation.tenant = some owner) :
    ∃ ghost, (Running.start deployment earlier position operation).thread.Honours
      (ownership owner) (fun _ _ => True) database ghost := by
  refine ⟨{ since := earlier }, Thread.Honours.start (.refl database) ?_⟩
  exact (abides_request tenant [] _ ⟨rfl, rfl, trivial⟩).mono fun _ _ _ => trivial

theorem Housed.step
    (housed : Housed before)
    (reachable : (system deployment).Reachable before)
    (stepped : before.step deployment action = some after) :
    Housed after := by
  have keeps : before.database.KeepsOwners after.database :=
    .of_extends (effect_of_reachable reachable stepped).later.extended
  intro number running owner found tenant
  cases operation_of_step stepped found with
  | started operation _ fresh =>
      subst fresh
      exact housed_start tenant
  | stepped stimulus old thread asked _ foundOld advanced next =>
      subst next
      obtain ⟨ghost, honours⟩ := housed number old owner foundOld tenant
      exact ⟨_, honours.step ownership_lawful (.refl _) advanced⟩
  | kept foundOld _ =>
      obtain ⟨ghost, honours⟩ := housed number running owner foundOld tenant
      exact ⟨ghost, honours.others ownership_lawful keeps⟩

theorem housed_of_reachable (reachable : (system deployment).Reachable world) :
    Housed world := by
  refine reachable.invariant ?_ ?_
  · rintro _ ⟨clock, rfl⟩ number running owner found
    cases found
  · exact fun before action after reached housed stepped => housed.step reached stepped

/-! ## One step -/

/-- A step of an operation that works for another organization. -/
theorem agreeOn_native
    {number : Nat}
    {stimulus : Stimulus Signal Signal.Reply}
    {running : Running}
    {store : Database}
    {thread : NativeThread}
    {asked : Option Signal}
    (housed : Housed before)
    (found : before.natives number = some running)
    (narrow : before.serviceWide (.native number stimulus) = false)
    (foreign : before.serves (.native number stimulus) ≠ some organization)
    (advanced : running.thread.step Change.apply before.database stimulus =
      some (store, thread, asked)) :
    before.database.AgreeOn organization store := by
  simp only [World.serviceWide, World.serves, found, Option.any_some, Option.bind_some]
    at narrow foreign
  cases tenant : running.operation.tenant with
  | none =>
      rw [tenant] at narrow
      cases narrow
  | some owner =>
      obtain ⟨ghost, honours⟩ := housed number running owner found tenant
      rcases honours.guarantee advanced with same | guaranteed
      · rw [same]
        exact .refl organization _
      · refine guaranteed organization ?_
        rintro rfl
        exact foreign tenant

/-- A step that works for one organization writes no row of another. -/
theorem agreeOn_step
    (reachable : (system deployment).Reachable before)
    (narrow : before.serviceWide action = false)
    (foreign : before.serves action ≠ some organization)
    (stepped : before.step deployment action = some after) :
    before.database.AgreeOn organization after.database := by
  have invariant := Invariant.of_reachable reachable
  have consistent := invariant.current.consistent
  have unchanged := Database.AgreeOn.refl organization before.database
  obtain ⟨next, moved, rfl⟩ := Option.map_eq_some_iff.mp stepped
  cases action with
  | dispatch worker choice =>
      obtain ⟨move, taken, rfl⟩ := Option.map_eq_some_iff.mp moved
      refine agreeOn_dispatchStep consistent (invariant.dispatchers worker) ?_ taken
      intro claim working
      refine foreignDispatch_of_dispatchOwner fun owner => foreign ?_
      simp only [World.serves, working, Option.bind_some, owner]
  | generation worker choice =>
      obtain ⟨move, taken, rfl⟩ := Option.map_eq_some_iff.mp moved
      refine agreeOn_generationStep consistent (invariant.generators worker) ?_ ?_ taken
      · rintro workerId locked outcome claim rfl chosen
        refine foreignDispatch_of_dispatchOwner fun owner => foreign ?_
        simp only [World.serves, chosen, Option.bind_some, owner]
      · rintro replyReference outcome prepared rfl working
        refine foreignDispatch_of_dispatchOwner fun owner => foreign ?_
        simp only [World.serves, working, Option.bind_some, owner]
  | sweepSends | sweepGenerations => cases narrow
  | requestShutdown | resume | drain | crash | stop | setClock =>
      obtain rfl := Option.some.inj moved
      exact unchanged
  | resolve process outcome =>
      simp only [World.move] at moved
      split at moved
      · cases moved
      · next claim rest draining =>
          obtain rfl := Option.some.inj moved
          refine agreeOn_elim outcome fun _ => agreeOn_finishExternalDispatch consistent ?_
          refine foreignDispatch_of_dispatchOwner fun owner => foreign ?_
          simp only [World.serves, draining, List.head?_cons, Option.bind_some, owner]
  | request number choice =>
      obtain ⟨move, taken, rfl⟩ := Option.map_eq_some_iff.mp moved
      refine agreeOn_requestStep (invariant.requests number) ?_ taken
      rintro request working rfl
      exact foreign (by simp only [World.serves, working, Option.map_some])
  | start number operation =>
      simp only [World.move] at moved
      split at moved
      · cases moved
      · obtain rfl := Option.some.inj moved
        exact unchanged
  | native number stimulus =>
      obtain ⟨running, started, rest⟩ := Option.bind_eq_some_iff.mp moved
      obtain ⟨⟨store, thread, asked⟩, advanced, rfl⟩ := Option.map_eq_some_iff.mp rest
      exact agreeOn_native (housed_of_reachable reachable) started narrow foreign advanced

/-! ## Runs -/

/-- A step that works for other organizations. -/
def Elsewhere
    (organization : String)
    (world : World)
    (action : Action) : Prop :=
  world.serviceWide action = false ∧ world.serves action ≠ some organization

instance (organization : String) (world : World) (action : Action) :
    Decidable (Elsewhere organization world action) :=
  inferInstanceAs (Decidable (_ ∧ _))

/-- A reachable state with the rows of an organization in an earlier one. -/
structure Untouched
    (deployment : Deployment)
    (organization : String)
    (before world : World) : Prop where
  reachable : (system deployment).Reachable world
  agree : Database.AgreeOn organization before.database world.database

theorem untouched_of_elsewhere
    (reachable : (system deployment).Reachable before)
    (elsewhere : (system deployment).ReachesWhen (Elsewhere organization) before after) :
    Untouched deployment organization before after := by
  refine elsewhere.invariant (Untouched deployment organization before)
    ⟨reachable, .refl organization _⟩ ?_
  rintro world action next ⟨reached, agree⟩ ⟨narrow, foreign⟩ stepped
  exact ⟨reached.step stepped, agree.trans (agreeOn_step reached narrow foreign stepped)⟩

/-- In every run from a reachable state whose steps work for other organizations, all rows
of an organization stay as they are. -/
theorem organizations_isolated
    (deployment : Deployment)
    (before after : World)
    (organization : String)
    (reachable : (system deployment).Reachable before)
    (elsewhere : (system deployment).ReachesWhen (Elsewhere organization) before after) :
    Database.AgreeOn organization before.database after.database :=
  (untouched_of_elsewhere reachable elsewhere).agree

namespace Sample

/-- The neighbour creates a campaign, adds a contact and receives a letter, and no step works
for the first organization. -/
theorem exists_neighbour :
    ∃ before after : World, (system Sample.deployment).Reachable before ∧
      (system Sample.deployment).ReachesWhen (Elsewhere "acme") before after ∧
      before.database.contacts.size = 1 ∧ after.database.contacts.size = 2 ∧
      after.database.messages.size = 1 := by
  obtain ⟨before, reachable, ran⟩ := reachable_of_any Sample.deployment tenant
    (fun before => before.database.contacts.size == 1 &&
      ((system Sample.deployment).runWhen
        (fun world action => decide (Elsewhere "acme" world action)) before neighbour).any
          fun after => after.database.contacts.size == 2 && after.database.messages.size == 1)
    (by decide +kernel)
  simp only [Bool.and_eq_true, beq_iff_eq, Option.any_eq_true] at ran
  obtain ⟨one, after, elsewhere, two, received⟩ := ran
  exact ⟨before, after, reachable,
    Transition.System.reachesWhen_of_runWhen (fun _ _ => of_decide_eq_true) elsewhere, one, two,
    received⟩

end Sample

theorem organizations_isolated_from_neighbour :
    ∃ before after : World, (system Sample.deployment).Reachable before ∧
      before.database.contacts.size = 1 ∧ after.database.contacts.size = 2 ∧
      Database.AgreeOn "acme" before.database after.database := by
  obtain ⟨before, after, reachable, elsewhere, one, two, -⟩ := Sample.exists_neighbour
  exact ⟨before, after, reachable, one, two,
    organizations_isolated Sample.deployment before after "acme" reachable elsewhere⟩

/-- While only other organizations are worked for, every read request of an organization
answers as it did before, whichever of the states its queries see. -/
theorem organization_views_kept
    (deployment : Deployment)
    (before : World)
    (organization : String)
    (seen : Nat → World)
    (reachable : (system deployment).Reachable before)
    (elsewhere : ∀ position,
      (system deployment).ReachesWhen (Elsewhere organization) before (seen position))
    (times : Access.CreationTimes)
    (request : Access.ReadRequest) :
    request.respond times organization (fun position => (seen position).database) =
      request.respond times organization fun _ => before.database :=
  Access.ReadRequest.respond_congr
    (fun position => (untouched_of_elsewhere reachable (elsewhere position)).agree.symm) request

/-- The health of the first organization, read while the neighbour is at work. -/
theorem organization_views_kept_beside_neighbour :
    ∃ before after : World, (system Sample.deployment).Reachable before ∧
      after.database.messages.size = 1 ∧
      ∀ times, Access.ReadRequest.getSystemHealth.respond times "acme"
          (fun position => if position = 0 then before.database else after.database) =
        Access.ReadRequest.getSystemHealth.respond times "acme" fun _ => before.database := by
  obtain ⟨before, after, reachable, elsewhere, -, -, received⟩ := Sample.exists_neighbour
  refine ⟨before, after, reachable, received, fun times => ?_⟩
  have kept := organization_views_kept Sample.deployment before "acme"
    (fun position => if position = 0 then before else after) reachable
    (fun position => by
      split
      · exact .refl
      · exact elsewhere)
    times .getSystemHealth
  rw [← kept]
  congr 1
  funext position
  split <;> rfl

end MailerAgent
