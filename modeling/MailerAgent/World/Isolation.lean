import MailerAgent.World.Suppression

/-!
# Isolation of the integration

The contacts of an integration campaign are never scheduled, and whatever is sent to
them is sent for one of their dispatches.
-/

namespace MailerAgent

open Concurrent Relational Mail Dispatch Intake Native

/-- In every reachable state a contact of an integration campaign has no next
action, and every call made for it was made for a dispatch of it. -/
theorem integration_isolated
    (deployment : Deployment)
    (world : World)
    (reachable : (system deployment).Reachable world)
    (key : Nat)
    (contact : Contact)
    (campaign : Campaign)
    (found : world.database.contacts.get key = some contact)
    (foundCampaign : world.database.campaigns.get contact.campaignId = some campaign)
    (managed : campaign.integrationSource ≠ none) :
    contact.nextActionAt = none ∧
      ∀ call ∈ world.calls, call.contactId = key →
        ∃ dispatch row, call.origin = .dispatch dispatch ∧
          world.database.dispatches.get dispatch = some row ∧ row.contactId = key := by
  have invariant := Invariant.of_reachable reachable
  have isManaged : world.database.contactIsIntegrationManaged contact = true := by
    unfold Database.contactIsIntegrationManaged Database.campaignOf
    rw [foundCampaign]
    exact Option.isSome_iff_ne_none.mpr managed
  refine ⟨invariant.current.consistent.managedUnscheduled key contact found isManaged, ?_⟩
  rintro call member rfl
  have holds := (invariant.calls call member).1
  unfold CallHolds at holds
  split at holds
  · next dispatch origin =>
      obtain ⟨row, foundRow, belongs⟩ := holds
      exact ⟨dispatch, row, origin, foundRow, belongs⟩
  · obtain ⟨email, organization, native⟩ := holds
    rw [native.not_managed found] at isManaged
    cases isManaged

/-- The recipient of a dispatch that was sent. -/
theorem integration_isolated_after_delivery :
    ∃ world contact, (system Sample.deployment).Reachable world ∧
      world.database.contacts.get 0 = some contact ∧ contact.nextActionAt = none ∧
      ∃ call ∈ world.calls, call.contactId = 0 ∧
        ∃ dispatch row, call.origin = .dispatch dispatch ∧
          world.database.dispatches.get dispatch = some row ∧ row.contactId = 0 := by
  obtain ⟨world, reachable, holds⟩ := reachable_of_any Sample.deployment
    Sample.ambiguousDelivery
    (fun world =>
      (world.database.contacts.get 0).any (fun contact =>
        (world.database.campaigns.get contact.campaignId).any fun campaign =>
          campaign.integrationSource.isSome) &&
      world.calls.any fun call => call.contactId == 0) (by decide +kernel)
  simp only [Bool.and_eq_true, Option.any_eq_true, List.any_eq_true, beq_iff_eq] at holds
  obtain ⟨⟨contact, found, campaign, foundCampaign, managed⟩, call, member, here⟩ := holds
  obtain ⟨unscheduled, dispatched⟩ := integration_isolated Sample.deployment world reachable 0
    contact campaign found foundCampaign (Option.isSome_iff_ne_none.mp managed)
  exact ⟨world, contact, reachable, found, unscheduled, call, member, here,
    dispatched call member here⟩

end MailerAgent
