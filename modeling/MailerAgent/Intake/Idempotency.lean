import MailerAgent.Dispatch.Writes
import MailerAgent.Intake.Requests

/-!
# Idempotent intake

What a step of a request does to the database, and what a phase knows about it.
A step either leaves dispatches and messages alone or commits the one operation of
its own request; the unique index on organization and idempotency key lets the
second kind happen once for each key.
-/

namespace MailerAgent
namespace Intake

open Concurrent Relational Mail Dispatch

/-! ## What the phases know -/

/-- An integration campaign of the organization. -/
def OwnCampaign
    (database : Database)
    (organization : String)
    (campaign : Nat) : Prop :=
  ∃ row, database.campaigns.get campaign = some row ∧
    row.organizationId = some organization ∧ row.integrationSource ≠ none

/-- A contact of an integration campaign of the organization. -/
def OwnContact
    (database : Database)
    (organization : String)
    (campaign contact : Nat) : Prop :=
  OwnCampaign database organization campaign ∧
    ∃ row, database.contacts.get contact = some row ∧ row.campaignId = campaign

/-- The dispatch of a request is stored under the reference. -/
def Stored
    (services : Services)
    (database : Database)
    (request : OutreachRequest)
    (reference : String) : Prop :=
  ∃ key row, database.dispatches.get key = some row ∧
    row.organizationId = request.organizationId ∧
    row.idempotencyKey = request.idempotencyKey ∧
    row.publicReference = reference ∧
    row.requestFingerprint = request.fingerprint services

/-- What is true of the database in each phase. -/
def PhaseHolds
    (services : Services)
    (database : Database) : RequestPhase → Prop
  | .choosingMailbox request (some target) =>
      OwnContact database request.organizationId target.campaignId target.contactId
  | .findingContact request _ campaign =>
      OwnCampaign database request.organizationId campaign
  | .insertingContact request _ campaign =>
      OwnCampaign database request.organizationId campaign
  | .rereadingContact request _ campaign =>
      OwnCampaign database request.organizationId campaign
  | .accepting request placement =>
      OwnContact database request.organizationId placement.campaignId placement.contactId
  | .answered request (.accepted reference) => Stored services database request reference
  | _ => True

section Extends

variable {before after : Database}

theorem OwnCampaign.of_extends
    {organization : String}
    {campaign : Nat}
    (own : OwnCampaign before organization campaign)
    (extended : before.Extends after) :
    OwnCampaign after organization campaign := by
  obtain ⟨row, found, organization, source⟩ := own
  obtain ⟨kept, foundKept, owner⟩ := extended.campaigns campaign row found
  exact ⟨kept, foundKept, owner.1.trans organization, owner.2 ▸ source⟩

theorem OwnContact.of_extends
    {organization : String}
    {campaign contact : Nat}
    (own : OwnContact before organization campaign contact)
    (extended : before.Extends after) :
    OwnContact after organization campaign contact := by
  obtain ⟨ownCampaign, row, found, belongs⟩ := own
  obtain ⟨kept, foundKept, person⟩ := extended.contacts contact row found
  exact ⟨ownCampaign.of_extends extended, kept, foundKept, person.1.trans belongs⟩

theorem Stored.of_extends
    {services : Services}
    {request : OutreachRequest}
    {reference : String}
    (stored : Stored services before request reference)
    (extended : before.Extends after) :
    Stored services after request reference := by
  obtain ⟨key, row, found, organization, idempotency, sameReference, fingerprint⟩ := stored
  obtain ⟨kept, foundKept, keeps⟩ := extended.dispatches key row found
  exact ⟨key, kept, foundKept, keeps.organizationId.trans organization,
    keeps.idempotencyKey.trans idempotency, keeps.publicReference.trans sameReference,
    keeps.requestFingerprint.trans fingerprint⟩

theorem PhaseHolds.of_extends
    {services : Services}
    {phase : RequestPhase}
    (holds : PhaseHolds services before phase)
    (extended : before.Extends after) :
    PhaseHolds services after phase := by
  cases phase with
  | choosingMailbox request parent =>
      cases parent with
      | none => trivial
      | some target => exact OwnContact.of_extends holds extended
  | findingContact | insertingContact | rereadingContact =>
      exact OwnCampaign.of_extends holds extended
  | accepting => exact OwnContact.of_extends holds extended
  | answered request response =>
      cases response with
      | accepted reference => exact Stored.of_extends holds extended
      | rejected | serverError => trivial
  | absent | received | resolving | findingCampaign | insertingCampaign
  | rereadingCampaign | converging => trivial

end Extends

/-! ## Lookups -/

theorem findDispatch_some
    {database : Database}
    {organization idempotencyKey : String}
    {row : ExternalDispatch}
    (found : (findDispatch database organization idempotencyKey).bind
      database.dispatches.get = some row) :
    ∃ key, database.dispatches.get key = some row ∧
      row.organizationId = organization ∧ row.idempotencyKey = idempotencyKey := by
  obtain ⟨key, first, here⟩ := Option.bind_eq_some_iff.mp found
  obtain ⟨same, foundSame, matching⟩ := Table.firstWhere_eq_some first
  obtain rfl : same = row := Option.some.inj (foundSame.symm.trans here)
  simp only [Bool.and_eq_true, beq_iff_eq] at matching
  exact ⟨key, here, matching⟩

theorem findIntegrationCampaign_some
    {database : Database}
    {organization : String}
    {campaign : Nat}
    (found : findIntegrationCampaign database organization = some campaign) :
    OwnCampaign database organization campaign := by
  obtain ⟨row, here, matching⟩ := Table.firstWhere_eq_some found
  simp only [Bool.and_eq_true, beq_iff_eq] at matching
  exact ⟨row, here, matching.1, by rw [matching.2]; nofun⟩

/-- The answer of the lookup and of the re-read after a lost race. -/
theorem phaseHolds_replayOrConflict
    {services : Services}
    {database : Database}
    {request : OutreachRequest}
    {row : ExternalDispatch}
    (found : (findDispatch database request.organizationId request.idempotencyKey).bind
      database.dispatches.get = some row) :
    PhaseHolds services database
      (.answered request (replayOrConflict services request row)) := by
  obtain ⟨key, here, organization, idempotency⟩ := findDispatch_some found
  unfold replayOrConflict
  split
  · next same => exact ⟨key, row, here, organization, idempotency, rfl, same⟩
  · trivial

/-- A rejection needs nothing of the database. -/
theorem phaseHolds_orAnswer
    {Value : Type}
    {services : Services}
    {database : Database}
    {request : OutreachRequest}
    {result : Except Rejection Value}
    {continuation : Value → RequestPhase}
    (continued : ∀ value, result = .ok value →
      PhaseHolds services database (continuation value)) :
    PhaseHolds services database (orAnswer request result continuation) := by
  cases result with
  | error rejection => trivial
  | ok value => exact continued value rfl

theorem phaseHolds_reuseContact
    {services : Services}
    {database : Database}
    {request : OutreachRequest}
    {mailbox campaign contact : Nat}
    (own : OwnCampaign database request.organizationId campaign)
    (found : findIntegrationContact database campaign request.recipientEmail =
      some contact) :
    PhaseHolds services database
      (reuseContact database request mailbox campaign contact) := by
  obtain ⟨row, here, matching⟩ := Table.firstWhere_eq_some found
  simp only [Bool.and_eq_true, beq_iff_eq] at matching
  unfold reuseContact
  rw [here]
  apply phaseHolds_orAnswer
  intro _ _
  exact ⟨own, row, here, matching.1⟩

/-- The contact of a resolved parent belongs to an integration campaign of the
organization. -/
theorem resolveReplyParent_ok
    {services : Services}
    {database : Database}
    {organization reference email : String}
    {target : ReplyTarget}
    (resolved : resolveReplyParent services database organization reference email =
      .ok target) :
    OwnContact database organization target.campaignId target.contactId := by
  unfold resolveReplyParent at resolved
  split at resolved
  · cases resolved
  next key first =>
  obtain ⟨parent, foundParent, visible⟩ := Table.firstWhere_eq_some first
  simp only [replyParentVisible, Bool.and_eq_true, beq_iff_eq] at visible
  obtain ⟨⟨-, visible⟩, -⟩ := visible
  obtain ⟨contact, foundContact, owner⟩ := Option.bind_eq_some_iff.mp visible
  obtain ⟨campaign, foundCampaign, organization⟩ := Option.bind_eq_some_iff.mp owner
  simp only [foundParent, foundContact, Option.bind_some, Option.map_some] at resolved
  split at resolved
  · cases resolved
  next managed =>
  split at resolved
  · cases resolved
  cases unscheduled : rejectIfContactHasActiveFollowup contact with
  | error rejection => simp [unscheduled, Except.bind] at resolved
  | ok _ =>
      cases snapshotted : replyParentSnapshot key parent with
      | error rejection =>
          simp [unscheduled, snapshotted, Except.bind, Except.map] at resolved
      | ok snapshot =>
          simp only [unscheduled, snapshotted, Except.bind, Except.map,
            Except.ok.injEq] at resolved
          subst resolved
          refine ⟨⟨campaign, foundCampaign, organization, ?_⟩, contact, foundContact, rfl⟩
          simpa [Database.contactIsIntegrationManaged, foundCampaign,
            Option.isSome_iff_ne_none] using managed

/-! ## The final transaction -/

/-- The effect of a step on dispatches and messages: none, or the acceptance of the
request's own operation, for which no dispatch existed. -/
inductive RequestEffect
    (services : Services)
    (request : OutreachRequest)
    (before after : Database) : Prop where
  | none
      (dispatches : after.dispatches = before.dispatches)
      (messages : after.messages = before.messages)
  | accepted
      (row : ExternalDispatch)
      (organizationId : row.organizationId = request.organizationId)
      (idempotencyKey : row.idempotencyKey = request.idempotencyKey)
      (fingerprint : row.requestFingerprint = request.fingerprint services)
      (fresh : ∀ key stored, before.dispatches.get key = some stored →
        stored.organizationId = request.organizationId →
        stored.idempotencyKey ≠ request.idempotencyKey)
      (dispatches : after.dispatches = before.dispatches.insert row)
      (messages : row.messageId = none ∧ after.messages = before.messages ∨
        row.messageId = some before.messages.size ∧
          ∃ message, after.messages = before.messages.insert message)

theorem Database.insertDispatch_extends
    {database updated : Database}
    {row : ExternalDispatch}
    (inserted : database.insertDispatch row = some updated) :
    database.Extends updated := by
  obtain ⟨-, rfl⟩ := Database.insertDispatch_eq_some inserted
  exact { Database.Extends.refl database with
    dispatches := .insert ExternalDispatch.Keeps.refl _ _ }

/-- A new dispatch is queued, and so it counted before. -/
theorem SilentChange.insertDispatch
    {database updated : Database}
    {row : ExternalDispatch}
    (queued : row.state = .queued)
    (inserted : database.insertDispatch row = some updated) :
    SilentChange database updated := by
  obtain ⟨-, rfl⟩ := Database.insertDispatch_eq_some inserted
  intro key
  unfold dispatchState
  rw [Table.get_insert]
  split
  · next here =>
      subst here
      rw [Table.get_eq_none_of_size_le _ (Nat.le_refl _)]
      simp only [Option.map_some, Option.map_none, Option.getD_some, Option.getD_none]
      rw [queued]
      exact .stay _
  · exact .stay _

/-- A new row is wired when its contact is one of the organization's integration
campaign and its message, if any, belongs to that contact. -/
theorem linked_acceptedDispatch
    {database : Database}
    {request : OutreachRequest}
    {placement : Placement}
    (services : Services)
    (source : Database)
    (now : Instant)
    (messageId : Option Nat)
    (publicReference : String)
    (own : OwnContact database request.organizationId placement.campaignId
      placement.contactId)
    (message : ∀ key, messageId = some key →
      ∃ stored, database.messages.get key = some stored ∧
        stored.contactId = placement.contactId ∧ stored.direction = .outbound ∧
        stored.mailboxId = none) :
    Linked database
      (acceptedDispatch services source request placement now messageId publicReference) := by
  obtain ⟨⟨campaign, foundCampaign, organization, source⟩, contact, foundContact,
    belongs⟩ := own
  refine ⟨⟨contact, foundContact, belongs, ?_⟩, ⟨campaign, foundCampaign, organization⟩,
    message⟩
  simp only [Database.contactIsIntegrationManaged, Database.campaignOf, belongs,
    foundCampaign, Option.any_some]
  exact Option.isSome_iff_ne_none.mpr source

theorem agrees_acceptedDispatch
    {now : Instant}
    {services : Services}
    {database : Database}
    {request : OutreachRequest}
    {placement : Placement}
    {messageId : Option Nat}
    {publicReference : String}
    {message : Option Message}
    (draft : ∀ stored, message = some stored → stored.status = .draft) :
    Agrees (acceptedDispatch services database request placement now messageId publicReference)
      message := by
  constructor <;> simp_all [acceptedDispatch]

/-- Inserting the dispatch of a request: no dispatch had its key. -/
theorem insert_acceptedDispatch
    {now : Instant}
    {services : Services}
    {database updated source : Database}
    {request : OutreachRequest}
    {placement : Placement}
    {messageId : Option Nat}
    {publicReference : String}
    (consistent : Consistent database)
    (linked : Linked database
      (acceptedDispatch services source request placement now messageId publicReference))
    (draft : ∀ stored, messageId.bind database.messages.get = some stored →
      stored.status = .draft)
    (unattached : ∀ key row message, database.dispatches.get key = some row →
      row.messageId = some message → messageId ≠ some message)
    (inserted : database.insertDispatch
      (acceptedDispatch services source request placement now messageId publicReference) =
        some updated) :
    Advances database updated ∧
      (∀ key stored, database.dispatches.get key = some stored →
        stored.organizationId = request.organizationId →
        stored.idempotencyKey ≠ request.idempotencyKey) ∧
      updated = { database with
        dispatches := database.dispatches.insert (acceptedDispatch services source
          request placement now messageId publicReference) } := by
  have own : database.dispatches.clashes ExternalDispatch.messageId
      (acceptedDispatch services source request placement now messageId publicReference) =
        false := by
    unfold Table.clashes
    cases messageId with
    | none => rfl
    | some message =>
        rw [← Bool.not_eq_true]
        intro taken
        obtain ⟨key, row, found, same⟩ := (Table.existsWhere_iff _ _).mp taken
        exact unattached key row message found (by simpa using same) rfl
  have advanced : Advances database updated :=
    ⟨consistent.insertDispatch inserted linked (agrees_acceptedDispatch draft) own,
      Database.insertDispatch_extends inserted,
      .of_same (by rw [(Database.insertDispatch_eq_some inserted).2])
        (by rw [(Database.insertDispatch_eq_some inserted).2])⟩
  obtain ⟨admissible, effect⟩ := Database.insertDispatch_eq_some inserted
  obtain ⟨-, -, -, free, -⟩ := Database.dispatchRejected_eq_false admissible
  refine ⟨advanced, ?_, effect⟩
  intro key stored found organization idempotency
  refine Table.not_clashes free rfl found ?_
  simp [ExternalDispatch.idempotency, acceptedDispatch, organization, idempotency]

/-- The row of an accepted operation is found in the table it was inserted in. -/
theorem stored_acceptedDispatch
    {now : Instant}
    {services : Services}
    {database source : Database}
    {request : OutreachRequest}
    {placement : Placement}
    {messageId : Option Nat}
    {publicReference : String}
    {table : Table ExternalDispatch}
    (dispatches : database.dispatches = table.insert
      (acceptedDispatch services source request placement now messageId publicReference)) :
    Stored services database request publicReference :=
  ⟨table.size, _, by rw [dispatches, Table.get_insert_size], rfl, rfl, rfl, rfl⟩

/-- Everything that a written final transaction did. -/
theorem acceptOperation_written
    {services : Services}
    {database updated : Database}
    {request : OutreachRequest}
    {placement : Placement}
    {now : Instant}
    {replyReference publicReference : String}
    (consistent : Consistent database)
    (own : OwnContact database request.organizationId placement.campaignId
      placement.contactId)
    (written : acceptOperation services database request placement now replyReference
      publicReference = .written updated) :
    Advances database updated ∧ SilentChange database updated ∧
      RequestEffect services request database updated ∧
      Stored services updated request publicReference := by
  unfold acceptOperation at written
  split at written
  · next payload _ =>
      split at written
      · cases written
      next inserted insertion =>
      split at written
      · cases written
      next result inserted =>
      obtain rfl := Acceptance.written.inj written
      have native := Database.NativeExtends.insertMessage insertion
      have middle := consistent.of_native (consistent.toSound.insertMessage insertion) native
      obtain ⟨-, rfl⟩ := Database.insertMessage_eq_some insertion
      have linked := linked_acceptedDispatch services database now
        (some database.messages.size) publicReference
        (own.of_extends native.toExtends) <| by
          rintro key ⟨⟩
          exact ⟨_, Table.get_insert_size _ _, rfl, rfl, rfl⟩
      obtain ⟨advanced, fresh, rfl⟩ := insert_acceptedDispatch middle linked
        (by
          intro stored found
          simp only [Option.bind_some, Table.get_insert_size, Option.some.injEq] at found
          rw [← found]
          rfl)
        (by
          rintro key row message found attached ⟨⟩
          exact Nat.lt_irrefl _ (consistent.dispatchMessage key row _ found attached))
        inserted
      have plain := Database.InboxKept.insertMessage rfl rfl rfl insertion
      refine ⟨⟨advanced.consistent, native.toExtends.trans advanced.extended,
          plain.trans advanced.inbox⟩,
        (SilentChange.of_same native.sameDispatches).trans
          (SilentChange.insertDispatch rfl inserted),
        .accepted _ rfl rfl rfl fresh rfl (.inr ⟨rfl, _, rfl⟩),
        stored_acceptedDispatch rfl⟩
  · split at written
    · cases written
    next result inserted =>
    obtain rfl := Acceptance.written.inj written
    have linked := linked_acceptedDispatch services database now none publicReference own
      (fun _ attached => by cases attached)
    obtain ⟨advanced, fresh, rfl⟩ := insert_acceptedDispatch consistent linked
      (fun _ found => by cases found) (fun _ _ _ _ _ same => by cases same) inserted
    exact ⟨advanced, SilentChange.insertDispatch rfl inserted,
      .accepted _ rfl rfl rfl fresh rfl (.inl ⟨rfl, rfl⟩), stored_acceptedDispatch rfl⟩

/-! ## Steps -/

/-- What a step of a request guarantees. -/
structure RequestStepOutcome
    (services : Services)
    (before : Database)
    (phase : RequestPhase)
    (move : RequestMove) : Prop where
  advances : Advances before move.database
  silent : SilentChange before move.database
  holds : PhaseHolds services move.database move.phase
  effect : ∀ request, phase.request = some request →
    move.phase.request = some request ∧
      RequestEffect services request before move.database
  opened : phase.request = none → move.database = before

theorem RequestStepOutcome.read_only
    {services : Services}
    {database : Database}
    {phase next : RequestPhase}
    (consistent : Consistent database)
    (holds : PhaseHolds services database next)
    (same : ∀ request, phase.request = some request → next.request = some request) :
    RequestStepOutcome services database phase ⟨database, next⟩ where
  advances := .refl consistent
  silent := .refl database
  holds := holds
  effect request working := ⟨same request working, .none rfl rfl⟩
  opened _ := rfl

/-- A commit that leaves dispatches and messages alone. -/
theorem RequestStepOutcome.native_commit
    {services : Services}
    {database updated : Database}
    {phase next : RequestPhase}
    {outcome : CommitOutcome}
    {request : OutreachRequest}
    (consistent : Consistent database)
    (sound : updated.Sound)
    (native : database.NativeExtends updated)
    (messages : updated.messages = database.messages)
    (unmatched : updated.unmatched = database.unmatched)
    (working : phase.request = some request)
    (sameRequest : next.request = some request)
    (holds : PhaseHolds services updated next) :
    RequestStepOutcome services database phase
      ⟨outcome.store database updated,
        if outcome.reported then next else .answered request .serverError⟩ where
  advances := outcome.store_cases (.refl consistent) 
    (.of_native consistent sound native (.of_same messages unmatched))
  silent := outcome.store_cases (.refl database) (.of_same native.sameDispatches)
  holds := by
    cases reported : outcome.reported with
    | true =>
        rw [CommitOutcome.store_of_reported reported]
        exact holds
    | false => trivial
  effect other workingOther := by
    obtain rfl : request = other := Option.some.inj (working.symm.trans workingOther)
    constructor
    · cases outcome.reported with
      | true => exact sameRequest
      | false => rfl
    · exact outcome.store_cases (.none rfl rfl) (.none native.sameDispatches messages)
  opened absent := by
    rw [working] at absent
    cases absent

theorem request_orAnswer
    {Value : Type}
    {request : OutreachRequest}
    {result : Except Rejection Value}
    {continuation : Value → RequestPhase}
    (continued : ∀ value, (continuation value).request = some request) :
    (orAnswer request result continuation).request = some request := by
  cases result with
  | error rejection => rfl
  | ok value => exact continued value

theorem request_reuseContact
    (database : Database)
    (request : OutreachRequest)
    (mailbox campaign contact : Nat) :
    (reuseContact database request mailbox campaign contact).request = some request := by
  unfold reuseContact
  split
  · rfl
  · exact request_orAnswer fun _ => rfl

theorem lookup_outcome
    {services : Services}
    {database : Database}
    (consistent : Consistent database)
    (request : OutreachRequest) :
    RequestStepOutcome services database (.received request)
      ⟨database, lookup services database request⟩ := by
  unfold lookup
  split
  · next existing found =>
      exact .read_only consistent (phaseHolds_replayOrConflict found) fun _ => id
  · split
    · exact .read_only consistent trivial fun _ => id
    · exact .read_only consistent trivial fun _ => id

theorem converge_outcome
    {services : Services}
    {database : Database}
    (consistent : Consistent database)
    (request : OutreachRequest) :
    RequestStepOutcome services database (.converging request)
      ⟨database, converge services database request⟩ := by
  unfold converge
  split
  · next winner found =>
      exact .read_only consistent (phaseHolds_replayOrConflict found) fun _ => id
  · exact .read_only consistent trivial fun _ => id

theorem chooseMailbox_outcome
    {services : Services}
    {database : Database}
    {request : OutreachRequest}
    {parent : Option ReplyTarget}
    (consistent : Consistent database)
    (holds : PhaseHolds services database (.choosingMailbox request parent)) :
    RequestStepOutcome services database (.choosingMailbox request parent)
      ⟨database, chooseMailbox database request parent⟩ := by
  refine .read_only consistent (phaseHolds_orAnswer ?_) ?_
  · intro mailbox _
    cases parent with
    | none => trivial
    | some target => exact holds
  · rintro _ ⟨⟩
    apply request_orAnswer
    intro mailbox
    cases parent <;> rfl

theorem findCampaign_outcome
    {services : Services}
    {settings : Settings}
    {database : Database}
    {request : OutreachRequest}
    {mailbox : Nat}
    (consistent : Consistent database) :
    RequestStepOutcome services database (.findingCampaign request mailbox)
      ⟨database, findCampaign settings database request mailbox⟩ := by
  unfold findCampaign
  split
  · next campaign found =>
      exact .read_only consistent (findIntegrationCampaign_some found) fun _ => id
  · split
    · exact .read_only consistent trivial fun _ => id
    · exact .read_only consistent trivial fun _ => id

/-- The integration campaign of an organization was inserted. -/
theorem insertCampaign_outcome
    {deployment : Deployment}
    {database updated : Database}
    {request : OutreachRequest}
    {mailbox : Nat}
    {outcome : CommitOutcome}
    (consistent : Consistent database)
    (inserted : database.insertCampaign
      (integrationCampaign deployment.settings request.organizationId) = some updated) :
    RequestStepOutcome deployment.services database (.insertingCampaign request mailbox)
      ⟨outcome.store database updated,
        if outcome.reported then .findingContact request mailbox database.campaigns.size
        else .answered request .serverError⟩ := by
  have sound := consistent.toSound.insertCampaign (.inr ⟨rfl, Option.some_ne_none _⟩)
    inserted
  have native := Database.NativeExtends.insertCampaign inserted
  obtain ⟨-, rfl⟩ := Database.insertCampaign_eq_some inserted
  refine .native_commit consistent sound native rfl rfl rfl rfl ?_
  exact ⟨_, Table.get_insert_size _ _, rfl, Option.some_ne_none _⟩

/-- The contact of a recipient was inserted. -/
theorem insertContact_outcome
    {services : Services}
    {database updated : Database}
    {request : OutreachRequest}
    {mailbox campaign : Nat}
    {outcome : CommitOutcome}
    (consistent : Consistent database)
    (own : OwnCampaign database request.organizationId campaign)
    (inserted : database.insertContact
      (integrationContact campaign request.recipientEmail request.recipientName) =
        some updated) :
    RequestStepOutcome services database (.insertingContact request mailbox campaign)
      ⟨outcome.store database updated,
        if outcome.reported then
          .accepting request ⟨mailbox, campaign, database.contacts.size, none⟩
        else .answered request .serverError⟩ := by
  have sound := consistent.toSound.insertContact (fun _ => rfl) inserted
  have native := Database.NativeExtends.insertContact inserted
  obtain ⟨-, -, rfl⟩ := Database.insertContact_eq_some inserted
  refine .native_commit consistent sound native rfl rfl rfl rfl ?_
  exact ⟨own.of_extends native.toExtends, _, Table.get_insert_size _ _, rfl⟩

/-- The final transaction was written and its commit ended in some way. -/
theorem accept_outcome
    {services : Services}
    {database updated : Database}
    {request : OutreachRequest}
    {placement : Placement}
    {now : Instant}
    {replyReference publicReference : String}
    {outcome : CommitOutcome}
    (consistent : Consistent database)
    (own : OwnContact database request.organizationId placement.campaignId
      placement.contactId)
    (written : acceptOperation services database request placement now replyReference
      publicReference = .written updated) :
    RequestStepOutcome services database (.accepting request placement)
      ⟨outcome.store database updated,
        if outcome.reported then .answered request (.accepted publicReference)
        else .answered request .serverError⟩ := by
  obtain ⟨advanced, silent, effect, stored⟩ :=
    acceptOperation_written consistent own written
  constructor
  · exact outcome.store_cases (.refl consistent) advanced
  · exact outcome.store_cases (.refl database) silent
  · cases reported : outcome.reported with
    | true =>
        rw [CommitOutcome.store_of_reported reported]
        exact stored
    | false => trivial
  · rintro _ ⟨⟩
    refine ⟨?_, outcome.store_cases (.none rfl rfl) effect⟩
    cases outcome.reported <;> rfl
  · intro absent
    cases absent

theorem requestStep_outcome
    {deployment : Deployment}
    {database : Database}
    {clock : Instant}
    {phase : RequestPhase}
    {choice : RequestChoice}
    {move : RequestMove}
    (consistent : Consistent database)
    (holds : PhaseHolds deployment.services database phase)
    (stepped : requestStep deployment database clock phase choice = some move) :
    RequestStepOutcome deployment.services database phase move := by
  unfold requestStep at stepped
  split at stepped
  · -- A new request.
    obtain rfl := Option.some.inj stepped
    exact .read_only consistent trivial fun _ absent => by cases absent
  · obtain rfl := Option.some.inj stepped
    exact lookup_outcome consistent _
  · obtain ⟨reference, -, rfl⟩ := Option.map_eq_some_iff.mp stepped
    refine .read_only consistent (phaseHolds_orAnswer ?_) ?_
    · intro target resolved
      exact resolveReplyParent_ok resolved
    · rintro _ ⟨⟩
      exact request_orAnswer fun _ => rfl
  · obtain rfl := Option.some.inj stepped
    exact chooseMailbox_outcome consistent holds
  · obtain rfl := Option.some.inj stepped
    exact findCampaign_outcome consistent
  · split at stepped
    · obtain rfl := Option.some.inj stepped
      exact .read_only consistent trivial fun _ => id
    · next inserted =>
        obtain rfl := Option.some.inj stepped
        exact insertCampaign_outcome consistent inserted
  · obtain rfl := Option.some.inj stepped
    split
    · next found =>
        exact .read_only consistent (findIntegrationCampaign_some found) fun _ => id
    · exact .read_only consistent trivial fun _ => id
  · obtain rfl := Option.some.inj stepped
    split
    · next found =>
        refine .read_only consistent (phaseHolds_reuseContact holds found) ?_
        rintro _ ⟨⟩
        exact request_reuseContact _ _ _ _ _
    · exact .read_only consistent holds fun _ => id
  · split at stepped
    · obtain rfl := Option.some.inj stepped
      exact .read_only consistent holds fun _ => id
    · next inserted =>
        obtain rfl := Option.some.inj stepped
        exact insertContact_outcome consistent holds inserted
  · obtain rfl := Option.some.inj stepped
    split
    · next found =>
        refine .read_only consistent (phaseHolds_reuseContact holds found) ?_
        rintro _ ⟨⟩
        exact request_reuseContact _ _ _ _ _
    · exact .read_only consistent trivial fun _ => id
  · split at stepped
    · obtain rfl := Option.some.inj stepped
      exact .read_only consistent trivial fun _ => id
    · obtain rfl := Option.some.inj stepped
      exact .read_only consistent trivial fun _ => id
    · next written =>
        obtain rfl := Option.some.inj stepped
        exact accept_outcome consistent holds written
  · obtain rfl := Option.some.inj stepped
    exact converge_outcome consistent _
  · -- A database error in any phase of an open request.
    obtain ⟨request, working, rfl⟩ := Option.map_eq_some_iff.mp stepped
    unfold RequestPhase.pending at working
    split at working
    · cases working
    · refine .read_only consistent trivial ?_
      intro other workingOther
      exact working.symm.trans workingOther ▸ rfl
  · cases stepped

end Intake
end MailerAgent
