import MailerAgent.Policy.Drafting
import MailerAgent.World.Fidelity

/-!
# Grounding before and after generation

A draft is checked twice against the approved sources: by `draft_message`, from the
transient objects of the generation worker, and by Transaction B, from the snapshot that
is stored with the dispatch. Both checks read the same sources and the same text, so a
message that was generated is never refused for its grounding, whatever happens to the
shared rows in between.
-/

namespace MailerAgent

open Concurrent Relational Mail Dispatch Intake Native Policy

variable {deployment : Deployment} {services : Services}

/-- The transient campaign and contact of `_generate`. -/
def transientGrounds (prepared : PreparedGeneration) : Grounds where
  proofPoints := none
  contextNotes := prepared.contextNotes
  valueProp := prepared.valueProp

/-- The draft that `draft_message` returns to `_generate` for a text. -/
def transientDraft
    (services : Services)
    (prepared : PreparedGeneration)
    (subject : Option String)
    (body : String) : Draft :=
  groundedDraft services (transientGrounds prepared) prepared.transcript subject body

/-- Every draft comes from `draft_message`; its text is arbitrary. -/
def Drafting
    (deployment : Deployment)
    (world : World) : Action → Prop
  | .generation worker (.draft (.drafted draft)) =>
      ∀ prepared, world.generators worker = .prepared prepared →
        ∃ subject body, draft = transientDraft deployment.services prepared subject body
  | _ => True

/-! ## The generation worker -/

/-- A draft that is kept was checked against the transient objects and not blocked. -/
def Dispatch.GenerationPhase.Checked
    (services : Services)
    (phase : GenerationPhase) :
    Prop :=
  ∀ prepared draft remaining, phase = .drafted prepared (.ok draft) remaining →
    draft.grounding = some
        (runGrounding services (transientGrounds prepared) prepared.transcript draft.body) ∧
      (runGrounding services (transientGrounds prepared) prepared.transcript
        draft.body).hardBlock = false

theorem checked_idle (services : Services) : GenerationPhase.idle.Checked services := by
  intro prepared draft remaining phase
  cases phase

theorem checked_of_generate
    {prepared : PreparedGeneration}
    {attempt : DraftAttempt}
    {draft : Draft}
    (drafting : ∀ returned, attempt = .drafted returned →
      ∃ subject body, returned = transientDraft services prepared subject body)
    (accepted : generate attempt = .ok draft) :
    draft.grounding = some
        (runGrounding services (transientGrounds prepared) prepared.transcript draft.body) ∧
      (runGrounding services (transientGrounds prepared) prepared.transcript
        draft.body).hardBlock = false := by
  cases attempt with
  | raised name => cases accepted
  | drafted returned =>
      obtain ⟨subject, body, rfl⟩ := drafting returned rfl
      simp only [generate, transientDraft, groundedDraft] at accepted
      split at accepted
      · cases accepted
      · next unblocked =>
          obtain rfl := Except.ok.inj accepted
          exact ⟨rfl, Bool.not_eq_true _ ▸ unblocked⟩

theorem checked_retryGeneration
    {prepared : PreparedGeneration}
    {result : Except String Draft}
    {remaining : Nat}
    (checked : (GenerationPhase.drafted prepared result remaining).Checked services) :
    (retryGeneration prepared result remaining).Checked services := by
  intro same draft left phase
  cases remaining with
  | zero => cases phase
  | succ remaining =>
      cases phase
      exact checked _ draft _ rfl

theorem checked_generationStep
    {database : Database}
    {clock : Instant}
    {runtime : DispatchRuntime}
    {phase : GenerationPhase}
    {choice : GenerationChoice}
    {move : GenerationMove}
    (checked : phase.Checked services)
    (drafting : ∀ draft prepared, choice = .draft (.drafted draft) →
      phase = .prepared prepared →
      ∃ subject body, draft = transientDraft services prepared subject body)
    (stepped : generationStep database clock runtime phase choice = some move) :
    move.phase.Checked services := by
  unfold generationStep at stepped
  split at stepped
  · split at stepped
    · cases stepped
    · obtain ⟨claim, -, rfl⟩ := Option.map_eq_some_iff.mp stepped
      intro prepared draft remaining phase
      unfold claimGeneration at phase
      split at phase
      · cases phase
      · cases phase
      · dsimp only at phase
        split at phase <;> cases phase
  · next prepared attempt =>
      obtain rfl := Option.some.inj stepped
      intro same draft remaining phase
      obtain ⟨rfl, accepted, -⟩ := GenerationPhase.drafted.inj phase
      refine checked_of_generate ?_ accepted
      rintro returned rfl
      exact drafting returned prepared rfl rfl
  · next prepared result remaining replyReference outcome =>
      obtain rfl := Option.some.inj stepped
      unfold writeGeneration
      split
      · exact checked_idle services
      · exact checked_retryGeneration checked
      · dsimp only
        split
        · exact checked_idle services
        · exact checked_retryGeneration checked
  · obtain rfl := Option.some.inj stepped
    exact checked_retryGeneration checked
  · cases stepped

/-- The message of a committed generation is the draft of its thread. -/
theorem generated_of_generationStep
    {database : Database}
    {clock : Instant}
    {runtime : DispatchRuntime}
    {phase : GenerationPhase}
    {choice : GenerationChoice}
    {move : GenerationMove}
    {key messageKey : Nat}
    (generated : (key, messageKey) ∈ move.attached)
    (stepped : generationStep database clock runtime phase choice = some move) :
    ∃ prepared draft remaining createdAt replyReference row,
      phase = .drafted prepared (.ok draft) remaining ∧ key = prepared.claim.dispatchId ∧
      move.database.messages.get messageKey = some
        (generatedMessage prepared draft createdAt replyReference) ∧
      move.database.dispatches.get key = some row ∧ row.messageId = some messageKey := by
  have attaching := generationStep_messages stepped
  unfold generationStep at stepped
  split at stepped
  · split at stepped
    · cases stepped
    · obtain ⟨claim, -, rfl⟩ := Option.map_eq_some_iff.mp stepped
      rw [(claimGeneration_messages claim _).2] at generated
      cases generated
  · obtain rfl := Option.some.inj stepped
    cases generated
  · next prepared result remaining replyReference outcome =>
      obtain rfl := Option.some.inj stepped
      rcases attaching with ⟨-, unlogged⟩ | ⟨same, working, attaches⟩
      · rw [unlogged] at generated
        cases generated
      · obtain rfl := Option.some.inj working
        obtain ⟨row, found, attached⟩ := attaches.attached
        rw [attaches.logged, List.mem_singleton] at generated
        obtain ⟨rfl, rfl⟩ := Prod.mk.inj generated
        have logged := attaches.logged
        cases result with
        | error failure =>
            unfold writeGeneration at logged
            split at logged
            · cases logged
            · cases logged
            · cases outcome <;> cases logged
        | ok draft =>
            refine ⟨prepared, draft, remaining, clock, replyReference, row, rfl, rfl, ?_, found,
              attached⟩
            unfold writeGeneration at logged ⊢
            split at logged
            · cases logged
            · cases logged
            · next updated written =>
                obtain ⟨_, -, -, inserted, insertion, rfl⟩ := transactionG2_eq_written written
                obtain ⟨-, rfl⟩ := Database.insertMessage_eq_some insertion
                cases outcome with
                | failed => cases logged
                | committed | appliedButReportedFailed => exact Table.get_insert_size _ _
  · obtain rfl := Option.some.inj stepped
    cases generated
  · cases stepped

/-! ## Runs -/

/-- Every draft that is kept was checked. -/
def AllChecked
    (services : Services)
    (world : World) : Prop :=
  ∀ worker, (world.generators worker).Checked services

theorem allChecked_of_reachableWhen
    {world : World}
    (reachable : (system deployment).ReachableWhen (Drafting deployment) world) :
    AllChecked deployment.services world := by
  refine reachable.invariant ?_ ?_
  · rintro _ ⟨clock, rfl⟩ worker
    exact checked_idle _
  · intro before action after checked drafting stepped worker
    rcases generators_of_step stepped worker with same | idle | ⟨choice, rfl⟩
    · rw [same]
      exact checked worker
    · rw [idle]
      exact checked_idle _
    · obtain ⟨moved, made, rfl⟩ := generation_step stepped
      change (Function.update before.generators worker moved.phase worker).Checked _
      rw [Function.update_self]
      refine checked_generationStep (checked worker) ?_ made
      rintro draft prepared rfl phase
      exact drafting prepared phase

/-- Both checks read the same sources. -/
theorem sources_of_preparedFrom
    {row : ExternalDispatch}
    {prepared : PreparedGeneration}
    {body : String}
    (provenance : PreparedFrom row prepared)
    (contact : Contact)
    (campaign : Campaign) :
    services.validateGrounding body (groundingSources contact campaign row.groundingContext) =
      runGrounding services (transientGrounds prepared) prepared.transcript body := by
  obtain ⟨snapshot, stored, valueProp, contextNotes, transcript, -⟩ := provenance.snapshot
  rw [stored]
  unfold runGrounding groundingSources transientGrounds
  rw [valueProp, contextNotes, transcript]

theorem validation_of_evaluate
    {messageKey contactKey campaignKey : Nat}
    {message : Message}
    {contact : Contact}
    {campaign : Campaign}
    {context : Option GroundingContext}
    {decision : ExactGroundingDecision}
    (evaluated : evaluateExactMessageGrounding services messageKey message contactKey contact
      campaignKey campaign context = .ok decision) :
    decision.validation =
        services.validateGrounding message.body (groundingSources contact campaign context) ∧
      decision.blocked = decision.validation.hardBlock := by
  unfold evaluateExactMessageGrounding at evaluated
  cases wired : assertWired messageKey message contactKey contact campaignKey with
  | error text =>
      rw [wired] at evaluated
      cases evaluated
  | ok _ =>
      rw [wired] at evaluated
      obtain rfl := Except.ok.inj evaluated
      exact ⟨rfl, rfl⟩

/-- A message that the generation worker commits comes from a draft that was checked and
not blocked; and at any later time the check of Transaction B on the stored message and
the snapshot of its dispatch, with whatever contact and campaign, has the same result and
does not block. -/
theorem grounding_agrees
    (deployment : Deployment)
    (before after later : World)
    (worker : Worker)
    (choice : GenerationChoice)
    (key messageKey : Nat)
    (reachable : (system deployment).ReachableWhen (Drafting deployment) before)
    (stepped : (system deployment).step before (.generation worker choice) = some after)
    (generated : (key, messageKey) ∈ after.attached)
    (new : (key, messageKey) ∉ before.attached)
    (reaches : (system deployment).Reaches after later) :
    ∃ prepared draft remaining validation row message,
      before.generators worker = .drafted prepared (.ok draft) remaining ∧
      draft.grounding = some validation ∧ validation.hardBlock = false ∧
      later.database.dispatches.get key = some row ∧ row.messageId = some messageKey ∧
      later.database.messages.get messageKey = some message ∧ message.body = draft.body ∧
      ∀ contactKey contact campaignKey campaign decision,
        evaluateExactMessageGrounding deployment.services messageKey message contactKey contact
          campaignKey campaign row.groundingContext = .ok decision →
        decision.validation = validation ∧ decision.blocked = false := by
  have reached := reachable.reachable.step stepped
  have fits := fitted_of_reachable reachable.reachable worker
  have checked := allChecked_of_reachableWhen reachable worker
  have extended := extends_of_reaches reachable.reachable ((.of_step stepped : (system
    deployment).Reaches before after).trans reaches)
  obtain ⟨moved, made, rfl⟩ := generation_step stepped
  have logged : (key, messageKey) ∈ moved.attached := by
    rcases List.mem_append.mp generated with old | fresh
    · exact absurd old new
    · exact fresh
  obtain ⟨prepared, draft, remaining, createdAt, replyReference, stored, phase, rfl,
    foundMessage, foundStored, attached⟩ := generated_of_generationStep logged made
  obtain ⟨grounded, unblocked⟩ := checked prepared draft remaining phase
  -- The dispatch and its message are still there.
  obtain ⟨source, foundSource, provenance⟩ := fits prepared (by rw [phase]; rfl)
  obtain ⟨row, foundRow, keeps⟩ := extended.dispatches _ source foundSource
  obtain ⟨same, foundSame, keepsStored⟩ :=
    (extends_of_reaches reached reaches).dispatches _ stored foundStored
  obtain rfl : same = row := Option.some.inj (foundSame.symm.trans foundRow)
  obtain ⟨message, foundLater, sameText⟩ :=
    (letters_of_reaches reached reaches).texts messageKey _ foundMessage
  have body : message.body = draft.body := by
    rw [sameText.body]
    unfold generatedMessage
    dsimp only
    split <;> rfl
  refine ⟨prepared, draft, remaining, _, same, message, phase, grounded, unblocked, foundRow,
    (keepsStored.messageId (by rw [attached]; nofun)).trans attached, foundLater, body, ?_⟩
  intro contactKey contact campaignKey campaign decision evaluated
  obtain ⟨validation, blocked⟩ := validation_of_evaluate evaluated
  have agreed := @sources_of_preparedFrom deployment.services _ _ message.body provenance contact
    campaign
  rw [← keeps.groundingContext, body] at agreed
  rw [body, agreed] at validation
  refine ⟨validation, ?_⟩
  rw [blocked, validation]
  exact unblocked

namespace Sample

/-- A generated request is accepted, claimed and drafted. -/
def draftedGeneration : List Action :=
  .start 0 (.createMailbox "acme" mailbox) :: List.replicate 6 (proceed 0) ++
    [.request 0 (.receive generatedRequest), .request 0 .read, .request 0 .read,
      .request 0 .read, .request 0 (.commit .committed "" ""), .request 0 .read,
      .request 0 (.commit .committed "" ""), .request 0 (.commit .committed "" "d1"),
      .generation worker (.claim "w1" [] .committed), .generation worker (.draft drafts)]

/-- The only drafts are those of the small installation. -/
def draftsAsInstalled : Action → Bool
  | .generation _ (.draft attempt) => attempt == drafts
  | _ => true

theorem drafting_of_installed
    {action : Action}
    (world : World)
    (installed : draftsAsInstalled action = true) :
    Drafting Sample.deployment world action := by
  unfold Drafting
  split
  · next worker draft =>
      intro prepared _
      have same : DraftAttempt.drafted draft = drafts := beq_iff_eq.mp installed
      obtain rfl := DraftAttempt.drafted.inj same
      exact ⟨some "subject", "body", rfl⟩
  · trivial

end Sample

/-- The draft of a generated message and the check before it is sent agree. -/
theorem grounding_agrees_of_draft :
    ∃ before after,
      (system Sample.deployment).ReachableWhen (Drafting Sample.deployment) before ∧
      (system Sample.deployment).step before
        (.generation Sample.worker (.commit "r1" .committed)) = some after ∧
      ∃ row message, after.database.dispatches.get 0 = some row ∧
        after.database.messages.get 0 = some message ∧
        ∀ contactKey contact campaignKey campaign decision,
          evaluateExactMessageGrounding Sample.deployment.services 0 message contactKey
            contact campaignKey campaign row.groundingContext = .ok decision →
          decision.blocked = false := by
  have ran : ((system Sample.deployment).run {} Sample.draftedGeneration).any (fun before =>
      decide ((0, 0) ∉ before.attached) &&
        ((system Sample.deployment).step before
          (.generation Sample.worker (.commit "r1" .committed))).any fun after =>
            decide ((0, 0) ∈ after.attached)) = true := by
    decide +kernel
  obtain ⟨before, ran, checked⟩ := (Option.any_eq_true _ _).mp ran
  rw [Bool.and_eq_true, decide_eq_true_eq] at checked
  obtain ⟨new, checked⟩ := checked
  obtain ⟨after, stepped, generated⟩ := (Option.any_eq_true _ _).mp checked
  have installed : ∀ action ∈ Sample.draftedGeneration,
      Sample.draftsAsInstalled action = true :=
    List.all_eq_true.mp (by decide +kernel)
  have reachable : (system Sample.deployment).ReachableWhen (Drafting Sample.deployment)
      before := by
    refine ⟨{}, ⟨0, rfl⟩, Transition.System.reachesWhen_of_run (fun _ => True) trivial ?_
      (fun _ _ _ _ _ _ => trivial) ran⟩
    intro state action member _
    exact Sample.drafting_of_installed state (installed action member)
  obtain ⟨prepared, draft, remaining, validation, row, message, -, -, -, found, -,
    foundMessage, -, agreed⟩ := grounding_agrees Sample.deployment before after after
      Sample.worker _ 0 0 reachable stepped (of_decide_eq_true generated) new (.refl after)
  refine ⟨before, after, reachable, stepped, row, message, found, foundMessage, ?_⟩
  intro contactKey contact campaignKey campaign decision evaluated
  exact (agreed contactKey contact campaignKey campaign decision evaluated).2

end MailerAgent
