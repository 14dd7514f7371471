import MailerAgent.Dispatch.Footprint
import MailerAgent.Intake.Idempotency
import MailerAgent.Native.Ownership

/-!
# Whose rows the pipeline writes

A worker rewrites the dispatch of its claim and the message of this dispatch, and a request
inserts rows for its organization. The contact of a dispatch is one of its organization, so
the rows of every other organization stay as they are.
-/

namespace MailerAgent
namespace Dispatch

open Concurrent Relational Mail Intake Native

/-- The claim that a thread works on. -/
def DispatchPhase.claim : DispatchPhase → Option ClaimedDispatch
  | .claimed _ claim | .registered _ claim | .decided _ claim _ | .prepared _ claim _
  | .reporting claim _ _ _ | .annotating claim _ _ | .closing claim => some claim
  | .idle | .attempting | .abandoning => none

/-- The organization of a dispatch. -/
def dispatchOwner
    (database : Database)
    (key : Nat) : Option String :=
  (database.dispatches.get key).map ExternalDispatch.organizationId

/-- A dispatch that is not one of the organization. -/
def ForeignDispatch
    (database : Database)
    (other : String)
    (key : Nat) : Prop :=
  ∀ row, database.dispatches.get key = some row → row.organizationId ≠ other

theorem foreignDispatch_of_dispatchOwner
    {database : Database}
    {other : String}
    {key : Nat}
    (different : dispatchOwner database key ≠ some other) :
    ForeignDispatch database other key := by
  rintro row found rfl
  exact different (by rw [dispatchOwner, found, Option.map_some])

section Writes

variable {deployment : Deployment} {services : Services} {database updated : Database}
variable {other : String} {key : Nat} {claim : ClaimedDispatch}

/-- The contact of a dispatch of one organization is not one of another. -/
theorem foreign_of_linked
    {row : ExternalDispatch}
    (linked : Linked database row)
    (foreign : row.organizationId ≠ other) :
    (database.contacts.get row.contactId).any (database.owns other) = false := by
  obtain ⟨contact, found, belongs, -⟩ := linked.contact
  obtain ⟨campaign, foundCampaign, owner⟩ := linked.tenant
  have owns : database.OwnsContact row.organizationId row.campaignId row.contactId :=
    ⟨⟨campaign, foundCampaign, owner⟩, contact, found, belongs⟩
  exact foreign_of_ownsContact foreign.symm owns

/-! ### Single writes -/

theorem agreeOn_dispatches
    {dispatches : Table ExternalDispatch}
    (agrees : database.dispatches.Agrees dispatches (fun row => row.organizationId == other)
      (fun row => row.organizationId == other)) :
    database.AgreeOn other { database with dispatches := dispatches } :=
  ⟨fun _ => rfl, fun _ => rfl, fun _ => rfl, agrees, fun _ => rfl, fun _ => rfl, fun _ => rfl⟩

theorem agreeOn_modifyDispatch
    {change : ExternalDispatch → ExternalDispatch}
    (foreign : ForeignDispatch database other key)
    (same : ∀ row, (change row).organizationId = row.organizationId) :
    database.AgreeOn other (database.modifyDispatch key change) := by
  refine agreeOn_dispatches ((Table.Agrees.of_same fun _ _ _ => rfl).modify ?_)
  intro row found
  have different := foreign row found
  rw [same row]
  simpa using different

theorem agreeOn_insertDispatch
    {row : ExternalDispatch}
    (foreign : row.organizationId ≠ other)
    (inserted : database.insertDispatch row = some updated) :
    database.AgreeOn other updated := by
  obtain ⟨-, rfl⟩ := Database.insertDispatch_eq_some inserted
  refine agreeOn_dispatches ((Table.Agrees.of_same fun _ _ _ => rfl).insert ?_)
  simpa using foreign

theorem agreeOn_modifyMessage
    {change : Message → Message}
    (foreign : ∀ message, database.messages.get key = some message →
      (database.contacts.get message.contactId).any (database.owns other) = false)
    (same : ∀ message, (change message).contactId = message.contactId) :
    database.AgreeOn other (database.modifyMessage key change) := by
  refine agreeOn_messages ((Table.Agrees.of_same fun _ _ _ => rfl).modify ?_)
  intro message found
  refine ⟨foreign message found, ?_⟩
  unfold inOrganization
  rw [same message]
  exact foreign message found

theorem agreeOn_insertMessage
    {row : Message}
    (foreign : (database.contacts.get row.contactId).any (database.owns other) = false)
    (inserted : database.insertMessage row = some updated) :
    database.AgreeOn other updated := by
  obtain ⟨-, rfl⟩ := Database.insertMessage_eq_some inserted
  exact agreeOn_messages ((Table.Agrees.of_same fun _ _ _ => rfl).insert foreign)

theorem agreeOn_updateDispatchWhere
    {condition : ExternalDispatch → Bool}
    {change : ExternalDispatch → ExternalDispatch}
    (foreign : ForeignDispatch database other key)
    (applied : database.updateDispatchWhere key condition change = some updated)
    (same : ∀ row, (change row).organizationId = row.organizationId) :
    database.AgreeOn other updated := by
  obtain ⟨row, -, -, rfl⟩ := updateDispatchWhere_eq_some applied
  exact agreeOn_modifyDispatch foreign same

/-! ### The message of a dispatch -/

/-- A dispatch and its message are rewritten together. -/
theorem agreeOn_modifyBoth
    {message : Nat}
    {row : ExternalDispatch}
    {change : ExternalDispatch → ExternalDispatch}
    {changeMessage : Message → Message}
    (consistent : Consistent database)
    (foreign : ForeignDispatch database other key)
    (found : database.dispatches.get key = some row)
    (attached : row.messageId = some message)
    (same : ∀ row, (change row).organizationId = row.organizationId)
    (sameContact : ∀ message, (changeMessage message).contactId = message.contactId) :
    database.AgreeOn other
      ((database.modifyDispatch key change).modifyMessage message changeMessage) := by
  refine (agreeOn_modifyDispatch foreign same).trans (agreeOn_modifyMessage ?_ sameContact)
  intro stored foundStored
  have linked := consistent.linked key row found
  obtain ⟨own, foundOwn, belongs, -⟩ := linked.message message attached
  obtain rfl : own = stored := Option.some.inj (foundOwn.symm.trans foundStored)
  have here := foreign_of_linked linked (foreign row found)
  rw [← belongs] at here
  exact here

theorem agreeOn_finishExternalDispatch
    {now : Instant}
    {outcome : SendOutcome}
    {error : Option String}
    (consistent : Consistent database)
    (foreign : ForeignDispatch database other claim.dispatchId)
    (finished : finishExternalDispatch database now claim outcome error = some updated) :
    database.AgreeOn other updated := by
  obtain ⟨row, message, stored, found, -, -, attached, -, -, rfl⟩ :=
    finishExternalDispatch_eq_some consistent finished
  exact agreeOn_modifyBoth consistent foreign found attached (fun _ => rfl) fun _ => rfl

theorem agreeOn_commitRefusal
    {now : Instant}
    {reason : String}
    (consistent : Consistent database)
    (foreign : ForeignDispatch database other claim.dispatchId)
    (refused : commitRefusal database now claim reason = some updated) :
    database.AgreeOn other updated := by
  obtain ⟨row, message, stored, found, -, attached, -, rfl⟩ :=
    commitRefusal_eq_some consistent refused
  exact agreeOn_modifyBoth consistent foreign found attached (fun _ => rfl) fun _ => rfl

theorem agreeOn_commitPrepared
    {ready : ReadySend}
    (consistent : Consistent database)
    (wired : Wired database claim ready)
    (foreign : ForeignDispatch database other claim.dispatchId)
    (prepared : commitPrepared database claim ready = some updated) :
    database.AgreeOn other updated := by
  obtain ⟨row, found, -, written⟩ := commitPrepared_eq_some prepared
  obtain ⟨rfl, -⟩ := Database.updateMessage_eq_some written
  obtain ⟨same, foundSame, attached, -⟩ := wired
  obtain rfl : same = row := Option.some.inj (foundSame.symm.trans found)
  exact agreeOn_modifyBoth consistent foreign found attached (fun _ => rfl) fun _ => rfl

/-! ### Commits -/

theorem agreeOn_store
    (outcome : CommitOutcome)
    (agree : database.AgreeOn other updated) :
    database.AgreeOn other (outcome.store database updated) :=
  outcome.store_cases (.refl other database) agree

theorem agreeOn_elim
    {result : Option Database}
    (outcome : CommitOutcome)
    (agree : ∀ updated, result = some updated → database.AgreeOn other updated) :
    database.AgreeOn other (result.elim database (outcome.store database)) := by
  cases result with
  | none => exact .refl other database
  | some updated => exact agreeOn_store outcome (agree updated rfl)

theorem agreeOn_commitDecision
    {now : Instant}
    {began : Nat}
    {outcome : CommitOutcome}
    {decision : Except String ReadySend}
    {calls : List SendCall}
    (consistent : Consistent database)
    (holds : (DispatchPhase.decided began claim decision).Holds database calls)
    (foreign : ForeignDispatch database other claim.dispatchId) :
    database.AgreeOn other (commitDecision database now began claim outcome decision).1 := by
  cases decision with
  | error reason =>
      exact agreeOn_elim outcome fun _ => agreeOn_commitRefusal consistent foreign
  | ok ready =>
      unfold commitDecision
      dsimp only
      split
      · exact .refl other database
      · next prepared =>
          exact agreeOn_store outcome (agreeOn_commitPrepared consistent holds foreign prepared)

theorem agreeOn_recordOutcome
    {now : Instant}
    {ready : ReadySend}
    {report : SendReport}
    {remaining : Nat}
    {outcome : CommitOutcome}
    (consistent : Consistent database)
    (foreign : ForeignDispatch database other claim.dispatchId) :
    database.AgreeOn other
      (recordOutcome database now claim ready report remaining outcome).1 := by
  unfold recordOutcome
  split
  · exact .refl other database
  · next finished =>
      exact agreeOn_store outcome (agreeOn_finishExternalDispatch consistent foreign finished)

/-- A step of a dispatch thread only writes rows of the organization of its dispatch. -/
theorem agreeOn_dispatchStep
    {clock : Instant}
    {position : Nat}
    {runtime : DispatchRuntime}
    {phase : DispatchPhase}
    {choice : DispatchChoice}
    {move : DispatchMove}
    {calls : List SendCall}
    (consistent : Consistent database)
    (holds : phase.Holds database calls)
    (foreign : ∀ claim, phase.claim = some claim →
      ForeignDispatch database other claim.dispatchId)
    (stepped : dispatchStep deployment database clock position runtime phase choice =
      some move) :
    database.AgreeOn other move.database := by
  unfold dispatchStep at stepped
  split at stepped
  · obtain ⟨admitted, -, rfl⟩ := Option.map_eq_some_iff.mp stepped
    exact .refl other database
  · split at stepped <;> cases stepped <;> exact .refl other database
  · cases stepped
    exact .refl other database
  · obtain ⟨registered, -, rfl⟩ := Option.map_eq_some_iff.mp stepped
    exact .refl other database
  · obtain ⟨row, -, rfl⟩ := Option.map_eq_some_iff.mp stepped
    exact .refl other database
  · cases stepped
    exact .refl other database
  · cases stepped
    exact agreeOn_commitDecision consistent holds (foreign _ rfl)
  · cases stepped
    exact .refl other database
  · cases stepped
    exact .refl other database
  · cases stepped
    exact agreeOn_recordOutcome consistent (foreign _ rfl)
  · cases stepped
    exact .refl other database
  · cases stepped
    exact agreeOn_elim _ fun _ annotated =>
      agreeOn_updateDispatchWhere (foreign _ rfl) annotated fun _ => rfl
  · cases stepped
    exact .refl other database
  · cases stepped
    exact .refl other database
  · obtain ⟨released, -, rfl⟩ := Option.map_eq_some_iff.mp stepped
    exact .refl other database
  · cases stepped

/-! ### Generation -/

theorem agreeOn_transactionG1
    {result : Except String PreparedGeneration}
    (foreign : ForeignDispatch database other claim.dispatchId)
    (taken : transactionG1 database claim = some (updated, result)) :
    database.AgreeOn other updated := by
  obtain ⟨claimed, guarded, rest⟩ := Option.bind_eq_some_iff.mp taken
  obtain ⟨row, -, rest⟩ := Option.bind_eq_some_iff.mp rest
  have first := agreeOn_updateDispatchWhere foreign guarded fun _ => rfl
  split at rest
  · cases rest
    exact first
  · obtain ⟨failed, refused, equal⟩ := Option.map_eq_some_iff.mp rest
    cases equal
    refine first.trans (agreeOn_updateDispatchWhere ?_ refused fun _ => rfl)
    obtain ⟨_, found, -, rfl⟩ := updateDispatchWhere_eq_some guarded
    intro later foundLater
    obtain ⟨stored, foundStored, rfl⟩ := Table.get_modify_cases foundLater
    rw [if_pos rfl]
    exact foreign stored foundStored

theorem agreeOn_transactionG2
    {prepared : PreparedGeneration}
    {result : Except String Draft}
    {createdAt : Instant}
    {replyReference : String}
    (consistent : Consistent database)
    (belongs : ∃ row, database.dispatches.get prepared.claim.dispatchId = some row ∧
      prepared.contactId = row.contactId)
    (foreign : ForeignDispatch database other prepared.claim.dispatchId)
    (written : transactionG2 database prepared result createdAt replyReference =
      .written updated) :
    database.AgreeOn other updated := by
  unfold transactionG2 at written
  split at written
  · split at written
    · cases written
    · next failed =>
        cases written
        exact agreeOn_updateDispatchWhere foreign failed fun _ => rfl
  · next draft =>
      split at written
      · cases written
      · next inserted insertion =>
          split at written
          · cases written
          · next completed =>
              cases written
              obtain ⟨row, found, contact⟩ := belongs
              have own : (generatedMessage prepared draft createdAt replyReference).contactId =
                  row.contactId := by
                rw [← contact]
                unfold generatedMessage
                dsimp only
                split <;> rfl
              have first : database.AgreeOn other inserted := by
                refine agreeOn_insertMessage ?_ insertion
                rw [own]
                exact foreign_of_linked (consistent.linked _ row found) (foreign row found)
              obtain ⟨-, rfl⟩ := Database.insertMessage_eq_some insertion
              exact first.trans (agreeOn_updateDispatchWhere foreign completed fun _ => rfl)

/-- A step of a generation thread only writes rows of the organization of its dispatch. -/
theorem agreeOn_generationStep
    {clock : Instant}
    {runtime : DispatchRuntime}
    {phase : GenerationPhase}
    {choice : GenerationChoice}
    {move : GenerationMove}
    (consistent : Consistent database)
    (holds : phase.Holds database)
    (claimed : ∀ workerId locked outcome claim, choice = .claim workerId locked outcome →
      claimNextGenerationDispatch database locked workerId clock = some claim →
      ForeignDispatch database other claim.dispatchId)
    (foreign : ∀ replyReference outcome prepared, choice = .commit replyReference outcome →
      phase.preparation = some prepared →
      ForeignDispatch database other prepared.claim.dispatchId)
    (stepped : generationStep database clock runtime phase choice = some move) :
    database.AgreeOn other move.database := by
  unfold generationStep at stepped
  split at stepped
  · split at stepped
    · cases stepped
    · obtain ⟨claim, chosen, rfl⟩ := Option.map_eq_some_iff.mp stepped
      have here := claimed _ _ _ claim rfl chosen
      unfold claimGeneration
      split
      · exact .refl other database
      · next taken => exact agreeOn_store _ (agreeOn_transactionG1 here taken)
      · next taken => exact agreeOn_store _ (agreeOn_transactionG1 here taken)
  · cases stepped
    exact .refl other database
  · cases stepped
    unfold writeGeneration
    split
    · exact .refl other database
    · exact .refl other database
    · next written =>
        exact agreeOn_store _
          (agreeOn_transactionG2 consistent (holds _ rfl) (foreign _ _ _ rfl rfl) written)
  · cases stepped
    exact .refl other database
  · cases stepped

/-! ### Requests -/

theorem agreeOn_insertIntegrationCampaign
    {settings : Settings}
    {organization : String}
    (foreign : organization ≠ other)
    (inserted : database.insertCampaign (integrationCampaign settings organization) =
      some updated) :
    database.AgreeOn other updated := by
  have owned : (Change.insertCampaign (integrationCampaign settings organization)).OwnedBy
      organization database := rfl
  exact owned.agreeOn foreign.symm inserted

theorem agreeOn_insertIntegrationContact
    {organization email : String}
    {campaign : Nat}
    {name : Option String}
    (own : OwnCampaign database organization campaign)
    (foreign : organization ≠ other)
    (inserted : database.insertContact (integrationContact campaign email name) =
      some updated) :
    database.AgreeOn other updated := by
  obtain ⟨row, found, owner, -⟩ := own
  have owned : (Change.insertContact (integrationContact campaign email name)).OwnedBy
      organization database := ⟨row, found, owner⟩
  exact owned.agreeOn foreign.symm inserted

theorem agreeOn_acceptOperation
    {request : OutreachRequest}
    {placement : Placement}
    {now : Instant}
    {replyReference publicReference : String}
    (own : OwnContact database request.organizationId placement.campaignId
      placement.contactId)
    (foreign : request.organizationId ≠ other)
    (accepted : acceptOperation services database request placement now replyReference
      publicReference = .written updated) :
    database.AgreeOn other updated := by
  unfold acceptOperation at accepted
  split at accepted
  · split at accepted
    · cases accepted
    · next inserted insertion =>
        split at accepted
        · cases accepted
        · next stored =>
            cases accepted
            obtain ⟨⟨campaign, foundCampaign, owner, -⟩, contact, found, belongs⟩ := own
            have owns : database.OwnsContact request.organizationId placement.campaignId
                placement.contactId :=
              ⟨⟨campaign, foundCampaign, owner⟩, contact, found, belongs⟩
            have first : database.AgreeOn other inserted :=
              agreeOn_insertMessage (foreign_of_ownsContact foreign.symm owns) insertion
            exact first.trans (agreeOn_insertDispatch foreign stored)
  · split at accepted
    · cases accepted
    · next stored =>
        cases accepted
        exact agreeOn_insertDispatch foreign stored

/-- A step of a request only writes rows of its organization. -/
theorem agreeOn_requestStep
    {clock : Instant}
    {phase : RequestPhase}
    {choice : RequestChoice}
    {move : RequestMove}
    (holds : PhaseHolds deployment.services database phase)
    (foreign : ∀ request, phase.request = some request → request.organizationId ≠ other)
    (stepped : requestStep deployment database clock phase choice = some move) :
    database.AgreeOn other move.database := by
  unfold requestStep at stepped
  split at stepped
  · cases stepped
    exact .refl other database
  · cases stepped
    exact .refl other database
  · obtain ⟨reference, -, rfl⟩ := Option.map_eq_some_iff.mp stepped
    exact .refl other database
  · cases stepped
    exact .refl other database
  · cases stepped
    exact .refl other database
  · split at stepped
    · cases stepped
      exact .refl other database
    · next inserted =>
        cases stepped
        exact agreeOn_store _ (agreeOn_insertIntegrationCampaign (foreign _ rfl) inserted)
  · cases stepped
    exact .refl other database
  · cases stepped
    exact .refl other database
  · split at stepped
    · cases stepped
      exact .refl other database
    · next inserted =>
        cases stepped
        exact agreeOn_store _ (agreeOn_insertIntegrationContact holds (foreign _ rfl) inserted)
  · cases stepped
    exact .refl other database
  · split at stepped
    · cases stepped
      exact .refl other database
    · cases stepped
      exact .refl other database
    · next written =>
        cases stepped
        exact agreeOn_store _ (agreeOn_acceptOperation holds (foreign _ rfl) written)
  · cases stepped
    exact .refl other database
  · obtain ⟨request, -, rfl⟩ := Option.map_eq_some_iff.mp stepped
    exact .refl other database
  · cases stepped

end Writes

end Dispatch
end MailerAgent
