import MailerAgent.Dispatch.Leases
import MailerAgent.World.Delivery

/-!
# Generation of messages

Under a clock that never decreases, in every interleaving: a dispatch gets at most
one generated message, every generated message is attached to exactly one dispatch,
and a worker that lost its lease writes nothing any more.
-/

namespace MailerAgent

open Concurrent Relational Mail Dispatch Intake Native

/-- The clock does not go back. -/
def clockForward (world : World) : Action → Bool
  | .setClock instant => world.clock ≤ instant
  | _ => true

/-- The program under a clock that never decreases. -/
def steadySystem (deployment : Deployment) : Transition.System World Action :=
  (system deployment).restrict clockForward

variable {deployment : Deployment} {before after world : World}

/-! ## Messages of generation -/

/-- Every logged generation is the message of its dispatch, and none is logged
twice. -/
structure AttachedOnce (world : World) : Prop where
  stored : ∀ entry ∈ world.attached, ∃ row,
    world.database.dispatches.get entry.1 = some row ∧ row.messageId = some entry.2
  dispatches : (world.attached.map Prod.fst).Nodup
  messages : (world.attached.map Prod.snd).Nodup

theorem AttachedOnce.later
    (once : AttachedOnce before)
    (extended : before.database.Extends after.database)
    (same : after.attached = before.attached) :
    AttachedOnce after where
  stored entry member := by
    rw [same] at member
    obtain ⟨row, found, attached⟩ := once.stored entry member
    obtain ⟨kept, foundKept, keeps⟩ := extended.dispatches _ row found
    exact ⟨kept, foundKept,
      (keeps.messageId (by rw [attached]; nofun)).trans attached⟩
  dispatches := by
    rw [same]
    exact once.dispatches
  messages := by
    rw [same]
    exact once.messages

theorem nodup_map_append
    {Entry Value : Type}
    {entries : List Entry}
    {entry : Entry}
    {read : Entry → Value}
    (distinct : (entries.map read).Nodup)
    (fresh : ∀ other ∈ entries, read other ≠ read entry) :
    ((entries ++ [entry]).map read).Nodup := by
  rw [List.map_append, List.nodup_append]
  refine ⟨distinct, List.nodup_singleton _, ?_⟩
  rintro value member other new rfl
  obtain ⟨old, memberOld, rfl⟩ := List.mem_map.mp member
  exact fresh old memberOld (List.mem_singleton.mp new)

theorem AttachedOnce.attach
    {prepared : PreparedGeneration}
    {moved : GenerationMove}
    (once : AttachedOnce before)
    (wellFormed : before.database.WellFormed)
    (extended : before.database.Extends moved.database)
    (attaches : Attaches before.database prepared moved)
    (database : after.database = moved.database)
    (logged : after.attached = before.attached ++ moved.attached) :
    AttachedOnce after := by
  have entries : after.attached = before.attached ++
      [(prepared.claim.dispatchId, before.database.messages.size)] := by
    rw [logged, attaches.logged]
  obtain ⟨row, found, unattached⟩ := attaches.unattached
  constructor
  · intro entry member
    rw [database]
    rw [entries] at member
    rcases List.mem_append.mp member with old | new
    · obtain ⟨stored, foundStored, attached⟩ := once.stored entry old
      obtain ⟨kept, foundKept, keeps⟩ := extended.dispatches _ stored foundStored
      exact ⟨kept, foundKept,
        (keeps.messageId (by rw [attached]; nofun)).trans attached⟩
    · obtain rfl := List.mem_singleton.mp new
      exact attaches.attached
  · rw [entries]
    refine nodup_map_append once.dispatches ?_
    intro other member same
    obtain ⟨stored, foundStored, attached⟩ := once.stored other member
    rw [same] at foundStored
    obtain rfl : stored = row := Option.some.inj (foundStored.symm.trans found)
    rw [unattached] at attached
    cases attached
  · rw [entries]
    refine nodup_map_append once.messages ?_
    intro other member same
    obtain ⟨stored, foundStored, attached⟩ := once.stored other member
    have bound := wellFormed.dispatchMessage _ stored _ foundStored attached
    rw [same] at bound
    exact Nat.lt_irrefl _ bound

/-- The log of generations grows only by the steps of generation threads. -/
theorem attached_of_step
    {action : Action}
    (stepped : before.step deployment action = some after)
    (other : ∀ worker choice, action ≠ .generation worker choice) :
    after.attached = before.attached := by
  obtain ⟨next, moved, rfl⟩ := Option.map_eq_some_iff.mp stepped
  cases action with
  | generation worker choice => exact absurd rfl (other worker choice)
  | dispatch | request =>
      obtain ⟨move, taken, rfl⟩ := Option.map_eq_some_iff.mp moved
      rfl
  | sweepSends | sweepGenerations | requestShutdown | resume | drain | crash | stop
  | setClock =>
      obtain rfl := Option.some.inj moved
      rfl
  | resolve process outcome =>
      simp only [World.move] at moved
      split at moved
      · cases moved
      · obtain rfl := Option.some.inj moved
        rfl
  | start number operation =>
      simp only [World.move] at moved
      split at moved
      · cases moved
      · obtain rfl := Option.some.inj moved
        rfl
  | native number stimulus =>
      obtain ⟨running, -, rest⟩ := Option.bind_eq_some_iff.mp moved
      obtain ⟨_, -, rfl⟩ := Option.map_eq_some_iff.mp rest
      rfl

/-- The step of a generation thread as a step of the program. -/
theorem generation_step
    {worker : Worker}
    {choice : GenerationChoice}
    (stepped : before.step deployment (.generation worker choice) = some after) :
    ∃ moved, generationStep before.database before.clock
        (before.runtimes worker.process) (before.generators worker) choice = some moved ∧
      after = { before.generationMoved worker moved with
        position := before.position + 1 } := by
  obtain ⟨next, taken, rfl⟩ := Option.map_eq_some_iff.mp stepped
  obtain ⟨moved, made, rfl⟩ := Option.map_eq_some_iff.mp taken
  exact ⟨moved, made, rfl⟩

theorem AttachedOnce.of_reachable
    (reachable : (system deployment).Reachable world) :
    AttachedOnce world := by
  refine reachable.invariant ?_ ?_
  · rintro _ ⟨clock, rfl⟩
    exact ⟨(fun _ member => by cases member), List.nodup_nil, List.nodup_nil⟩
  · intro before action after reached once stepped
    have effect := effect_of_reachable reached stepped
    by_cases generation : ∃ worker choice, action = .generation worker choice
    · obtain ⟨worker, choice, rfl⟩ := generation
      obtain ⟨moved, made, rfl⟩ := generation_step stepped
      rcases generationStep_messages made with ⟨-, unlogged⟩ | ⟨prepared, -, attaches⟩
      · refine once.later effect.later.extended ?_
        change before.attached ++ moved.attached = before.attached
        rw [unlogged, List.append_nil]
      · exact once.attach (Invariant.of_reachable reached).current.consistent.toWellFormed
          effect.later.extended attaches rfl rfl
    · refine once.later effect.later.extended (attached_of_step stepped ?_)
      intro worker choice same
      exact generation ⟨worker, choice, same⟩

/-! ## Leases -/

theorem leaseStep_of_step
    {action : Action}
    (invariant : Invariant deployment before)
    (leased : ∀ worker, (before.generators worker).Leased before.clock before.database)
    (stepped : before.step deployment action = some after) :
    LeaseStep before.clock before.database after.database := by
  have consistent := invariant.current.consistent
  obtain ⟨next, moved, rfl⟩ := Option.map_eq_some_iff.mp stepped
  cases action with
  | dispatch worker choice =>
      obtain ⟨move, taken, rfl⟩ := Option.map_eq_some_iff.mp moved
      exact leaseStep_dispatchStep consistent taken
  | generation worker choice =>
      obtain ⟨move, taken, rfl⟩ := Option.map_eq_some_iff.mp moved
      exact (generationStep_leases (leased worker) taken).1
  | sweepSends locked limit outcome =>
      obtain rfl := Option.some.inj moved
      exact .store outcome (leaseStep_recoverExpiredSends _ consistent)
  | sweepGenerations locked limit outcome =>
      obtain rfl := Option.some.inj moved
      refine .store outcome (leaseStep_recoverExpiredGenerationRows ?_ _)
      have lease : (0 : Int) ≤
          (deployment.settings.externalDispatchGenerationLeaseSeconds * second : Nat) :=
        Int.natCast_nonneg _
      push_cast at lease
      exact Int.sub_le_self _ lease
  | requestShutdown | resume | drain | crash | stop | setClock =>
      obtain rfl := Option.some.inj moved
      exact .refl _
  | resolve process outcome =>
      simp only [World.move] at moved
      split at moved
      · cases moved
      · next claim rest _ =>
          obtain rfl := Option.some.inj moved
          simp only [resolveOnShutdown]
          cases finished : finishExternalDispatch before.database before.clock claim .unknown
              (some shutdownReason) with
          | none => exact .refl _
          | some updated => exact .store outcome (leaseStep_finish consistent finished)
  | request number choice =>
      obtain ⟨move, taken, rfl⟩ := Option.map_eq_some_iff.mp moved
      have outcome := requestStep_outcome consistent (invariant.requests number) taken
      cases working : (before.requests number).request with
      | none =>
          refine .of_same ?_
          change move.database.dispatches = _
          rw [outcome.opened working]
      | some request =>
          obtain ⟨-, effect⟩ := outcome.effect request working
          cases effect with
          | none dispatches => exact .of_same dispatches
          | accepted row _ _ _ _ dispatches _ =>
              have kept : ∀ key old, before.database.dispatches.get key = some old →
                  move.database.dispatches.get key = some old := by
                intro key old found
                rw [dispatches]
                exact Table.get_insert_of_get found row
              constructor
              · rintro claim ⟨old, found, reason⟩
                exact ⟨old, kept _ old found, reason⟩
              · rintro claim ⟨old, found, fence⟩
                exact .inl ⟨old, kept _ old found, fence⟩
  | start number operation =>
      simp only [World.move] at moved
      split at moved
      · cases moved
      · obtain rfl := Option.some.inj moved
        exact .refl _
  | native number stimulus =>
      obtain ⟨running, -, rest⟩ := Option.bind_eq_some_iff.mp moved
      obtain ⟨⟨database, thread, asked⟩, taken, rfl⟩ := Option.map_eq_some_iff.mp rest
      rcases Thread.step_store taken with same | committed
      · exact .of_same (congrArg Database.dispatches same)
      · exact .of_same (applyAll_dispatches committed)

/-- A generation thread other than the one that takes the step goes on as before,
unless its process dies. -/
theorem generators_of_step
    {action : Action}
    (stepped : before.step deployment action = some after)
    (worker : Worker) :
    after.generators worker = before.generators worker ∨
      after.generators worker = .idle ∨ ∃ choice, action = .generation worker choice := by
  obtain ⟨next, moved, rfl⟩ := Option.map_eq_some_iff.mp stepped
  cases action with
  | generation acting choice =>
      by_cases same : worker = acting
      · subst same
        exact .inr (.inr ⟨choice, rfl⟩)
      · obtain ⟨move, taken, rfl⟩ := Option.map_eq_some_iff.mp moved
        exact .inl (Function.update_of_ne same _ _)
  | crash process =>
      obtain rfl := Option.some.inj moved
      by_cases here : worker.process = process
      · exact .inr (.inl (if_pos here))
      · exact .inl (if_neg here)
  | dispatch | request =>
      obtain ⟨move, taken, rfl⟩ := Option.map_eq_some_iff.mp moved
      exact .inl rfl
  | sweepSends | sweepGenerations | requestShutdown | resume | drain | stop | setClock =>
      obtain rfl := Option.some.inj moved
      exact .inl rfl
  | resolve process outcome =>
      simp only [World.move] at moved
      split at moved
      · cases moved
      · obtain rfl := Option.some.inj moved
        exact .inl rfl
  | start number operation =>
      simp only [World.move] at moved
      split at moved
      · cases moved
      · obtain rfl := Option.some.inj moved
        exact .inl rfl
  | native number stimulus =>
      obtain ⟨running, -, rest⟩ := Option.bind_eq_some_iff.mp moved
      obtain ⟨_, -, rfl⟩ := Option.map_eq_some_iff.mp rest
      exact .inl rfl

theorem clock_of_step
    {action : Action}
    (stepped : before.step deployment action = some after)
    (forward : clockForward before action = true) :
    before.clock ≤ after.clock := by
  obtain ⟨next, moved, rfl⟩ := Option.map_eq_some_iff.mp stepped
  cases action with
  | setClock instant =>
      obtain rfl := Option.some.inj moved
      exact of_decide_eq_true forward
  | dispatch | generation | request =>
      obtain ⟨move, taken, rfl⟩ := Option.map_eq_some_iff.mp moved
      exact Int.le_refl _
  | sweepSends | sweepGenerations | requestShutdown | resume | drain | crash | stop =>
      obtain rfl := Option.some.inj moved
      exact Int.le_refl _
  | resolve process outcome =>
      simp only [World.move] at moved
      split at moved
      · cases moved
      · obtain rfl := Option.some.inj moved
        exact Int.le_refl _
  | start number operation =>
      simp only [World.move] at moved
      split at moved
      · cases moved
      · obtain rfl := Option.some.inj moved
        exact Int.le_refl _
  | native number stimulus =>
      obtain ⟨running, -, rest⟩ := Option.bind_eq_some_iff.mp moved
      obtain ⟨_, -, rfl⟩ := Option.map_eq_some_iff.mp rest
      exact Int.le_refl _

theorem leased_of_step
    {action : Action}
    (invariant : Invariant deployment before)
    (leased : ∀ worker, (before.generators worker).Leased before.clock before.database)
    (stepped : before.step deployment action = some after)
    (forward : clockForward before action = true)
    (worker : Worker) :
    (after.generators worker).Leased after.clock after.database := by
  have step := leaseStep_of_step invariant leased stepped
  have advanced := clock_of_step stepped forward
  rcases generators_of_step stepped worker with same | idle | ⟨choice, rfl⟩
  · rw [same]
    exact (leased worker).later step advanced
  · rw [idle]
    exact GenerationPhase.leased_idle _ _
  · obtain ⟨moved, made, rfl⟩ := generation_step stepped
    change (Function.update before.generators worker moved.phase worker).Leased _ _
    rw [Function.update_self]
    exact (generationStep_leases (leased worker) made).2

/-- Every generation worker that has claimed holds its lease or has lost it. -/
def Leases (world : World) : Prop :=
  ∀ worker, (world.generators worker).Leased world.clock world.database

theorem leased_of_reachable
    (reachable : (steadySystem deployment).Reachable world) :
    Leases world := by
  refine Transition.System.Reachable.invariant ?_ ?_ reachable
  · rintro _ ⟨clock, rfl⟩ worker
    exact GenerationPhase.leased_idle _ _
  · intro before action after reached leased stepped
    obtain ⟨forward, taken⟩ := Transition.System.step_of_restrict stepped
    exact leased_of_step (.of_reachable (.of_restrict reached)) leased taken forward

/-- Under a clock that never decreases, in every reachable state: no dispatch and
no message was logged twice by the generation workers, and each logged message is
attached to exactly its dispatch; a step of a generation worker stores no message,
or stores one under its lease and attaches it; and a worker whose lease is lost
changes nothing and never gets the lease back. -/
theorem generation_exactly_one
    (deployment : Deployment)
    (world : World)
    (reachable : (steadySystem deployment).Reachable world) :
    (world.attached.map Prod.fst).Nodup ∧ (world.attached.map Prod.snd).Nodup ∧
      (∀ key messageId, (key, messageId) ∈ world.attached →
        ∃ row, world.database.dispatches.get key = some row ∧
          row.messageId = some messageId ∧
          ∀ other stored, world.database.dispatches.get other = some stored →
            stored.messageId = some messageId → other = key) ∧
      (∀ worker choice after,
        (steadySystem deployment).step world (.generation worker choice) = some after →
        after.database.messages = world.database.messages ∧
            after.attached = world.attached ∨
          ∃ prepared message, (world.generators worker).preparation = some prepared ∧
            LeaseHeld world.database prepared.claim ∧
            after.database.messages = world.database.messages.insert message ∧
            after.attached = world.attached ++
              [(prepared.claim.dispatchId, world.database.messages.size)]) ∧
      ∀ worker prepared, (world.generators worker).preparation = some prepared →
        ¬ LeaseHeld world.database prepared.claim →
        (∀ choice after,
          (steadySystem deployment).step world (.generation worker choice) = some after →
          after.database = world.database) ∧
        ∀ action after, (steadySystem deployment).step world action = some after →
          ¬ LeaseHeld after.database prepared.claim := by
  have reached : (system deployment).Reachable world := .of_restrict reachable
  have invariant := Invariant.of_reachable reached
  have once := AttachedOnce.of_reachable reached
  have leased := leased_of_reachable reachable
  refine ⟨once.dispatches, once.messages, ?_, ?_, ?_⟩
  · intro key messageId member
    obtain ⟨row, found, attached⟩ := once.stored _ member
    exact ⟨row, found, attached, fun other stored foundStored attachedStored =>
      invariant.current.consistent.ownMessage other key stored row messageId foundStored
        found attachedStored attached⟩
  · intro worker choice after stepped
    obtain ⟨moved, made, rfl⟩ :=
      generation_step (Transition.System.step_of_restrict stepped).2
    rcases generationStep_messages made with ⟨unchanged, unlogged⟩ |
      ⟨prepared, working, attaches⟩
    · refine .inl ⟨unchanged, ?_⟩
      change world.attached ++ moved.attached = world.attached
      rw [unlogged, List.append_nil]
    · obtain ⟨message, inserted⟩ := attaches.messages
      refine .inr ⟨prepared, message, working, attaches.held, inserted, ?_⟩
      change world.attached ++ moved.attached = _
      rw [attaches.logged]
  · intro worker prepared working notHeld
    have lost : LeaseLost world.clock world.database prepared.claim :=
      (leased worker prepared working).resolve_left notHeld
    constructor
    · intro choice after stepped
      obtain ⟨moved, made, rfl⟩ :=
        generation_step (Transition.System.step_of_restrict stepped).2
      change moved.database = world.database
      rcases generationStep_writes working made with unchanged | held
      · exact unchanged
      · exact absurd held notHeld
    · intro action after stepped
      have taken := (Transition.System.step_of_restrict stepped).2
      exact ((leaseStep_of_step invariant leased taken).lost _ lost).not_held

namespace Sample

/-- A request for a generated message. -/
def generatedRequest : OutreachRequest where
  organizationId := "acme"
  payload := .generated
    { externalActionId := "a1", idempotencyKey := "k1", recipientEmail := "p@x.test",
      valueProposition := "Less work" }

/-- A second worker thread. -/
def otherWorker : Worker := ⟨1, 0⟩

/-- Drafting that succeeds. -/
def drafts : DraftAttempt :=
  .drafted
    { subject := some "subject", body := "body", grounding := some { isGrounded := true } }

/-- A generated request is accepted. One worker claims it and drafts; its lease
expires, another worker generates and its commit is applied but reported as
failed. -/
def overtakenGeneration : List Action :=
  .start 0 (.createMailbox "acme" mailbox) :: List.replicate 6 (proceed 0) ++
    [.request 0 (.receive generatedRequest), .request 0 .read, .request 0 .read,
      .request 0 .read, .request 0 (.commit .committed "" ""), .request 0 .read,
      .request 0 (.commit .committed "" ""), .request 0 (.commit .committed "" "d1"),
      .generation worker (.claim "w1" [] .committed), .generation worker (.draft drafts),
      .setClock 301000000, .sweepGenerations [] 10 .committed,
      .generation otherWorker (.claim "w2" [] .committed),
      .generation otherWorker (.draft drafts),
      .generation otherWorker (.commit "r1" .appliedButReportedFailed)]

/-- The first worker still works under a claim that its row does not hold. -/
def overtaken (world : World) : Bool :=
  world.attached == [(0, 0)] &&
    (world.generators worker).preparation.any fun prepared =>
      !(world.database.dispatches.get prepared.claim.dispatchId).any
        (generationFence prepared.claim)

end Sample

/-- One message for the dispatch of two workers; the overtaken one writes nothing. -/
theorem generation_of_overtaken_worker :
    ∃ world prepared, (steadySystem Sample.deployment).Reachable world ∧
      world.attached = [(0, 0)] ∧ (world.attached.map Prod.fst).Nodup ∧
      (world.generators Sample.worker).preparation = some prepared ∧
      ¬ LeaseHeld world.database prepared.claim ∧
      ∀ choice after,
        (steadySystem Sample.deployment).step world (.generation Sample.worker choice) =
          some after →
        after.database = world.database := by
  have initial : (steadySystem Sample.deployment).initial {} := ⟨0, rfl⟩
  obtain ⟨world, reachable, overtaken⟩ := Transition.System.exists_reachable_of_run
    initial Sample.overtakenGeneration Sample.overtaken (by decide +kernel)
  obtain ⟨attached, working⟩ := Bool.and_eq_true_iff.mp overtaken
  obtain ⟨prepared, found, unfenced⟩ := (Option.any_eq_true _ _).mp working
  have notHeld : ¬ LeaseHeld world.database prepared.claim := by
    rintro ⟨row, foundRow, fence⟩
    rw [foundRow, Option.any_some, fence] at unfenced
    cases unfenced
  obtain ⟨once, -, -, -, powerless⟩ :=
    generation_exactly_one Sample.deployment world reachable
  exact ⟨world, prepared, reachable, beq_iff_eq.mp attached, once, found, notHeld,
    (powerless Sample.worker prepared found notHeld).1⟩

end MailerAgent
