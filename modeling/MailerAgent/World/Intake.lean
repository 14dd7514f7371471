import MailerAgent.World.Delivery

/-!
# Idempotent intake

In every interleaving of requests on both routes with everything else, the
requests that carry one idempotency key of an organization converge on one
dispatch, and whoever loses leaves nothing behind.
-/

namespace MailerAgent

open Concurrent Relational Mail Dispatch Intake Native

variable {deployment : Deployment} {before after world : World}

/-- A step of a request and what it did. -/
theorem request_step
    {number : Nat}
    {choice : RequestChoice}
    (invariant : Invariant deployment before)
    (stepped : before.step deployment (.request number choice) = some after) :
    ∃ move, RequestStepOutcome deployment.services before.database
        (before.requests number) move ∧
      after.database = move.database ∧ after.requests number = move.phase := by
  obtain ⟨next, moved, rfl⟩ := Option.map_eq_some_iff.mp stepped
  obtain ⟨move, taken, rfl⟩ := Option.map_eq_some_iff.mp moved
  refine ⟨move, ?_, rfl, Function.update_self _ _ _⟩
  exact requestStep_outcome invariant.current.consistent (invariant.requests number) taken

/-- The effect of a step of a request, for the request it works on afterwards. -/
theorem request_effect
    {number : Nat}
    {choice : RequestChoice}
    {request : OutreachRequest}
    (invariant : Invariant deployment before)
    (stepped : before.step deployment (.request number choice) = some after)
    (working : (after.requests number).request = some request) :
    RequestEffect deployment.services request before.database after.database := by
  obtain ⟨move, outcome, database, phase⟩ := request_step invariant stepped
  rw [database]
  cases earlier : (before.requests number).request with
  | none =>
      rw [outcome.opened earlier]
      exact .none rfl rfl
  | some same =>
      obtain ⟨kept, effect⟩ := outcome.effect same earlier
      rw [phase, kept] at working
      obtain rfl := Option.some.inj working
      exact effect

/-- The dispatches of one idempotency key are one row. -/
theorem dispatch_unique
    {first second : Nat}
    {row other : ExternalDispatch}
    (consistent : Consistent world.database)
    (found : world.database.dispatches.get first = some row)
    (foundOther : world.database.dispatches.get second = some other)
    (organization : other.organizationId = row.organizationId)
    (idempotency : other.idempotencyKey = row.idempotencyKey) :
    first = second := by
  refine consistent.dispatchIdempotency first second row other
    (row.organizationId, row.idempotencyKey) found foundOther rfl ?_
  rw [ExternalDispatch.idempotency, organization, idempotency]

/-- The row that a request's key leads to keeps its fingerprint, so a request that
was accepted has the fingerprint of every later row of its key. -/
theorem fingerprint_of_stored
    {request : OutreachRequest}
    {reference : String}
    {final : World}
    {key : Nat}
    {row : ExternalDispatch}
    (reachable : (system deployment).Reachable world)
    (reaches : (system deployment).Reaches world final)
    (stored : Stored deployment.services world.database request reference)
    (found : final.database.dispatches.get key = some row)
    (organization : row.organizationId = request.organizationId)
    (idempotency : row.idempotencyKey = request.idempotencyKey) :
    row.requestFingerprint = request.fingerprint deployment.services := by
  have consistent := (Invariant.of_reachable (reachable.reaches reaches)).current.consistent
  obtain ⟨own, ownRow, foundOwn, ownOrganization, ownIdempotency, -, fingerprint⟩ :=
    stored.of_extends (extends_of_reaches reachable reaches)
  obtain rfl := dispatch_unique consistent foundOwn found
    (organization.trans ownOrganization.symm) (idempotency.trans ownIdempotency.symm)
  obtain rfl : ownRow = row := Option.some.inj (foundOwn.symm.trans found)
  exact fingerprint

/-- An accepted row is stored under the request's fingerprint. -/
theorem stored_of_accepted
    {services : Services}
    {request : OutreachRequest}
    {database : Database}
    {dispatches : Table ExternalDispatch}
    {row : ExternalDispatch}
    (organization : row.organizationId = request.organizationId)
    (idempotency : row.idempotencyKey = request.idempotencyKey)
    (fingerprint : row.requestFingerprint = request.fingerprint services)
    (inserted : database.dispatches = dispatches.insert row) :
    Stored services database request row.publicReference :=
  ⟨dispatches.size, row, by rw [inserted, Table.get_insert_size], organization, idempotency,
    rfl, fingerprint⟩

/-- In every reachable state: a key of an organization has at most one dispatch;
whoever was answered 202 holds the reference of the dispatch with its own key and
fingerprint; a step of a request changes no dispatch and no message unless it stores
the first dispatch of its key, with at most the message of that dispatch; a request
whose fingerprint differs from that of the dispatch, now or at any later time,
changes neither and is not answered 202; and an organization has at most one
integration campaign, with one contact for each address. -/
theorem intake_idempotent
    (deployment : Deployment)
    (world : World)
    (reachable : (system deployment).Reachable world) :
    (∀ first second row other, world.database.dispatches.get first = some row →
      world.database.dispatches.get second = some other →
      other.organizationId = row.organizationId →
      other.idempotencyKey = row.idempotencyKey → first = second) ∧
    (∀ number request reference,
      world.requests number = .answered request (.accepted reference) →
      ∃ key row, world.database.dispatches.get key = some row ∧
        row.organizationId = request.organizationId ∧
        row.idempotencyKey = request.idempotencyKey ∧
        row.publicReference = reference ∧
        row.requestFingerprint = request.fingerprint deployment.services) ∧
    (∀ number choice after request,
      (system deployment).step world (.request number choice) = some after →
      (after.requests number).request = some request →
      RequestEffect deployment.services request world.database after.database ∧
      ∀ final, (system deployment).Reaches after final →
        ∀ key row, final.database.dispatches.get key = some row →
          row.organizationId = request.organizationId →
          row.idempotencyKey = request.idempotencyKey →
          row.requestFingerprint ≠ request.fingerprint deployment.services →
          after.database.dispatches = world.database.dispatches ∧
            after.database.messages = world.database.messages ∧
            ∀ reference,
              after.requests number ≠ .answered request (.accepted reference)) ∧
    (∀ first second campaign other, world.database.campaigns.get first = some campaign →
      world.database.campaigns.get second = some other →
      campaign.integrationSource ≠ none → other.integrationSource ≠ none →
      other.organizationId = campaign.organizationId → first = second) ∧
    ∀ first second contact other, world.database.contacts.get first = some contact →
      world.database.contacts.get second = some other →
      other.campaignId = contact.campaignId → other.email = contact.email →
      first = second := by
  have invariant := Invariant.of_reachable reachable
  have consistent := invariant.current.consistent
  refine ⟨?_, ?_, ?_, ?_, ?_⟩
  · intro first second row other found foundOther organization idempotency
    exact dispatch_unique consistent found foundOther organization idempotency
  · intro number request reference answered
    have holds := invariant.requests number
    rw [answered] at holds
    exact holds
  · intro number choice after request stepped working
    have effect := request_effect invariant stepped working
    have reached := reachable.step stepped
    refine ⟨effect, ?_⟩
    intro final reaches key row found organization idempotency different
    have unstored : ∀ reference,
        ¬ Stored deployment.services after.database request reference :=
      fun reference stored => different
        (fingerprint_of_stored reached reaches stored found organization idempotency)
    have refused : ∀ reference,
        after.requests number ≠ .answered request (.accepted reference) := by
      intro reference answered
      have holds := (Invariant.of_reachable reached).requests number
      rw [answered] at holds
      exact unstored reference holds
    cases effect with
    | none dispatches messages => exact ⟨dispatches, messages, refused⟩
    | accepted own ownOrganization ownIdempotency fingerprint _ inserted _ =>
        exact absurd
          (stored_of_accepted ownOrganization ownIdempotency fingerprint inserted)
          (unstored _)
  · intro first second campaign other found foundOther source otherSource owner
    obtain ⟨named, owned⟩ := (consistent.knownSource _ _ found).resolve_left source
    obtain ⟨otherNamed, -⟩ := (consistent.knownSource _ _ foundOther).resolve_left otherSource
    obtain ⟨organization, owned⟩ := Option.ne_none_iff_exists'.mp owned
    refine consistent.campaignIntegration first second campaign other
      (organization, integrationSource) found foundOther ?_ ?_
    · rw [Campaign.integrationKey, owned, named]
      rfl
    · rw [Campaign.integrationKey, owner, owned, otherNamed]
      rfl
  · intro first second contact other found foundOther campaign email
    refine consistent.contactEmail first second contact other
      (contact.campaignId, contact.email) found foundOther rfl ?_
    rw [Contact.campaignEmail, campaign, email]

namespace Sample

/-- The same key with another body. -/
def conflictingRequest : OutreachRequest where
  organizationId := "acme"
  payload := .exact { idempotencyKey := "k1", recipientEmail := "p@x.test", body := "Ho" }

/-- Two requests with one key pass the lookup before either commits; the slower one
has a different body and meets the unique index. -/
def race : List Action :=
  .start 0 (.createMailbox "acme" mailbox) :: List.replicate 6 (proceed 0) ++
    [.request 0 (.receive exactRequest), .request 1 (.receive conflictingRequest),
      .request 0 .read, .request 1 .read, .request 0 .read, .request 1 .read,
      .request 0 .read, .request 0 (.commit .committed "" ""), .request 1 .read,
      .request 0 .read, .request 1 .read, .request 0 (.commit .committed "" ""),
      .request 1 (.commit .committed "" ""), .request 1 .read,
      .request 0 (.commit .committed "r1" "d1"), .request 1 (.commit .committed "r2" "d2"),
      .request 1 .read]

end Sample

/-- The winner of the race holds the reference of the only dispatch of the key. -/
theorem intake_of_race :
    ∃ world, (system Sample.deployment).Reachable world ∧
      world.requests 0 = .answered Sample.exactRequest (.accepted "d1") ∧
      world.requests 1 = .answered Sample.conflictingRequest
        (.rejected ⟨409, Sample.conflictingRequest.conflictDetail⟩) ∧
      world.database.messages.size = 1 ∧
      ∃ key row, world.database.dispatches.get key = some row ∧
        row.publicReference = "d1" := by
  obtain ⟨world, reachable, answers⟩ := reachable_of_any Sample.deployment Sample.race
    (fun world => decide
      (world.requests 0 = .answered Sample.exactRequest (.accepted "d1") ∧
        world.requests 1 = .answered Sample.conflictingRequest
          (.rejected ⟨409, Sample.conflictingRequest.conflictDetail⟩) ∧
        world.database.messages.size = 1)) (by decide +kernel)
  obtain ⟨won, lost, messages⟩ := of_decide_eq_true answers
  obtain ⟨-, accepted, -⟩ := intake_idempotent Sample.deployment world reachable
  obtain ⟨key, row, found, -, -, reference, -⟩ := accepted 0 _ _ won
  exact ⟨world, reachable, won, lost, messages, key, row, found, reference⟩

end MailerAgent
