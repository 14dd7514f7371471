import MailerAgent.Access.Views
import MailerAgent.World.Tenants

/-!
# The conversation that an organization sees

In every state of the program the view of an outreach action shows the most recent messages
of its contact that the organization owns, each of them once: no two dispatches share a
message, so that the joins of the query give one row for each message. The view reads rows
of the organization only.
-/

namespace MailerAgent

open Concurrent Relational Dispatch Intake Native

/-- For every reachable state, organization, idempotency key of a dispatch of the
organization and limit, the response shows the most recent messages of the dispatch's
contact that the organization owns, oldest first and each of them once, and tells whether
there are others. The response, or its absence, is the same in every other reachable state
that agrees on the rows of the organization. -/
theorem conversation_view
    (deployment : Deployment)
    (world : World)
    (reachable : (system deployment).Reachable world)
    (organization : String) :
    (∀ dispatchKey dispatch, world.database.dispatches.get dispatchKey = some dispatch →
      dispatch.organizationId = organization → ∀ limit, ∃ response shown,
        getLeadboostOutreachConversation world.database organization dispatch.idempotencyKey
          limit = some response ∧
        ShowsAction world.database organization dispatch response.action ∧
        Window.Recent (OwnedMessage world.database organization dispatch.contactId)
          (Older world.database) limit shown response.hasMore ∧
        List.Forall₂ (fun key rendered => ∃ message,
          Shows world.database organization dispatch.contactId key message rendered)
          shown response.messages) ∧
      ∀ other, (system deployment).Reachable other →
        Database.AgreeOn organization world.database other.database →
        ∀ idempotencyKey limit,
          getLeadboostOutreachConversation other.database organization idempotencyKey limit =
            getLeadboostOutreachConversation world.database organization idempotencyKey
              limit := by
  have consistent := (Invariant.of_reachable reachable).current.consistent
  constructor
  · rintro dispatchKey dispatch found rfl limit
    have first : conversationRoot world.database dispatch.organizationId
        dispatch.idempotencyKey = some dispatchKey := by
      obtain ⟨contact, foundContact, campaign, -⟩ :=
        (consistent.linked dispatchKey dispatch found).contact
      obtain ⟨stored, foundCampaign, tenant⟩ :=
        (consistent.linked dispatchKey dispatch found).tenant
      refine conversationRoot_eq consistent.dispatchIdempotency found ⟨contact, foundContact, ?_⟩
      rw [Database.organizationOf, Database.campaignOf, campaign, foundCampaign]
      exact tenant
    exact conversation_of_root consistent.ownMessage first found limit
  · intro other _ agree idempotencyKey limit
    exact (Access.getLeadboostOutreachConversation_congr agree idempotencyKey limit).symm

/-- A message that was accepted is shown, whether or not another organization has a campaign. -/
theorem conversation_view_of_acceptance :
    ∃ left right response, (system Sample.deployment).Reachable left ∧
      (system Sample.deployment).Reachable right ∧ right.database.campaigns.size = 2 ∧
      getLeadboostOutreachConversation left.database "acme" "k1" 1 = some response ∧
      getLeadboostOutreachConversation right.database "acme" "k1" 1 = some response ∧
      response.messages.map LeadBoostConversationMessage.body = ["Hi"] ∧
      response.hasMore = false := by
  obtain ⟨left, reachable, ran⟩ := reachable_of_any Sample.deployment Sample.acceptance
    (fun left => ((system Sample.deployment).run left
      (Sample.perform 3 (.createCampaign "other" Sample.campaign) Sample.answer 3)).any
        fun right => decide (Database.AgreeOn "acme" left.database right.database) &&
          (right.database.campaigns.size == 2 &&
          ((left.database.dispatches.get 0).any (fun row =>
            row.organizationId == "acme" && row.idempotencyKey == "k1") &&
          (getLeadboostOutreachConversation left.database "acme" "k1" 1).any
            fun response => response.messages.map LeadBoostConversationMessage.body == ["Hi"] &&
              !response.hasMore))) (by decide +kernel)
  obtain ⟨right, reaches, checked⟩ := Transition.System.exists_reaches_of_run ran
  simp only [Bool.and_eq_true, decide_eq_true_eq, Option.any_eq_true, beq_iff_eq,
    Bool.not_eq_true'] at checked
  obtain ⟨agree, size, ⟨row, found, organization, key⟩, response, responded, shown, complete⟩ :=
    checked
  have reachableRight := reachable.reaches reaches
  obtain ⟨view, same⟩ := conversation_view Sample.deployment left reachable "acme"
  obtain ⟨viewed, _, answered, -⟩ := view 0 row found organization 1
  rw [key, responded] at answered
  cases answered
  refine ⟨left, right, response, reachable, reachableRight, size, responded, ?_, shown, complete⟩
  exact (same right reachableRight agree "k1" 1).trans responded

end MailerAgent
