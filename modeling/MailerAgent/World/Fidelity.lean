import MailerAgent.Intake.Content
import MailerAgent.World.Footprint
import MailerAgent.World.Inbound
import MailerAgent.World.Intake

/-!
# What is sent is what was accepted

Between the acceptance of a request and the call of the sender its content lives in rows
that every component can reach. In every interleaving the call carries the recipient, the
subject, the text and the threading headers that were fixed at acceptance, from the
mailbox of the dispatch, under the Message-ID that Transaction B stored.
-/

namespace MailerAgent

open Concurrent Relational Mail Dispatch Intake Native

variable {deployment : Deployment} {before after world : World}

/-! ## Steps of other components -/

section Frame

variable {action : Action}

/-- A dispatch thread other than the one that takes the step goes on as before, unless its
process dies. -/
theorem dispatchers_of_step
    (stepped : before.step deployment action = some after)
    (worker : Worker) :
    after.dispatchers worker = before.dispatchers worker ∨
      after.dispatchers worker = .idle ∨ ∃ choice, action = .dispatch worker choice := by
  obtain ⟨next, moved, rfl⟩ := Option.map_eq_some_iff.mp stepped
  cases action with
  | dispatch acting choice =>
      by_cases same : worker = acting
      · subst same
        exact .inr (.inr ⟨choice, rfl⟩)
      · obtain ⟨move, taken, rfl⟩ := Option.map_eq_some_iff.mp moved
        exact .inl (Function.update_of_ne same _ _)
  | crash process =>
      obtain rfl := Option.some.inj moved
      by_cases here : worker.process = process
      · exact .inr (.inl (if_pos here))
      · exact .inl (if_neg here)
  | generation | request =>
      obtain ⟨move, taken, rfl⟩ := Option.map_eq_some_iff.mp moved
      exact .inl rfl
  | sweepSends | sweepGenerations | requestShutdown | resume | drain | stop | setClock =>
      obtain rfl := Option.some.inj moved
      exact .inl rfl
  | resolve process outcome =>
      simp only [World.move] at moved
      split at moved
      · cases moved
      · obtain rfl := Option.some.inj moved
        exact .inl rfl
  | start number operation =>
      simp only [World.move] at moved
      split at moved
      · cases moved
      · obtain rfl := Option.some.inj moved
        exact .inl rfl
  | native number stimulus =>
      obtain ⟨running, -, rest⟩ := Option.bind_eq_some_iff.mp moved
      obtain ⟨_, -, rfl⟩ := Option.map_eq_some_iff.mp rest
      exact .inl rfl

/-- A request goes on as before unless it takes the step. -/
theorem requests_of_step
    (stepped : before.step deployment action = some after)
    (number : Nat) :
    after.requests number = before.requests number ∨
      ∃ choice, action = .request number choice := by
  obtain ⟨next, moved, rfl⟩ := Option.map_eq_some_iff.mp stepped
  cases action with
  | request acting choice =>
      by_cases same : number = acting
      · subst same
        exact .inr ⟨choice, rfl⟩
      · obtain ⟨move, taken, rfl⟩ := Option.map_eq_some_iff.mp moved
        exact .inl (Function.update_of_ne same _ _)
  | generation | dispatch =>
      obtain ⟨move, taken, rfl⟩ := Option.map_eq_some_iff.mp moved
      exact .inl rfl
  | sweepSends | sweepGenerations | requestShutdown | resume | drain | crash | stop
  | setClock =>
      obtain rfl := Option.some.inj moved
      exact .inl rfl
  | resolve process outcome =>
      simp only [World.move] at moved
      split at moved
      · cases moved
      · obtain rfl := Option.some.inj moved
        exact .inl rfl
  | start operation =>
      simp only [World.move] at moved
      split at moved
      · cases moved
      · obtain rfl := Option.some.inj moved
        exact .inl rfl
  | native other stimulus =>
      obtain ⟨running, -, rest⟩ := Option.bind_eq_some_iff.mp moved
      obtain ⟨_, -, rfl⟩ := Option.map_eq_some_iff.mp rest
      exact .inl rfl

/-- The sender is called for a dispatch only by dispatch threads. -/
theorem calls_of_step
    (invariant : Invariant deployment before)
    (stepped : before.step deployment action = some after)
    (other : ∀ worker choice, action ≠ .dispatch worker choice)
    {call : SendCall}
    {key : Nat}
    (member : call ∈ after.calls)
    (origin : call.origin = .dispatch key) :
    call ∈ before.calls := by
  obtain ⟨next, moved, rfl⟩ := Option.map_eq_some_iff.mp stepped
  cases action with
  | dispatch worker choice => exact absurd rfl (other worker choice)
  | generation | request =>
      obtain ⟨move, taken, rfl⟩ := Option.map_eq_some_iff.mp moved
      exact member
  | sweepSends | sweepGenerations | requestShutdown | resume | drain | crash | stop
  | setClock =>
      obtain rfl := Option.some.inj moved
      exact member
  | resolve process outcome =>
      simp only [World.move] at moved
      split at moved
      · cases moved
      · obtain rfl := Option.some.inj moved
        exact member
  | start number operation =>
      simp only [World.move] at moved
      split at moved
      · cases moved
      · obtain rfl := Option.some.inj moved
        exact member
  | native number stimulus =>
      obtain ⟨running, started, rest⟩ := Option.bind_eq_some_iff.mp moved
      obtain ⟨⟨database, thread, asked⟩, advanced, rfl⟩ := Option.map_eq_some_iff.mp rest
      obtain ⟨holds, -⟩ := invariant.natives number running started
      obtain ⟨-, allowed, -⟩ :=
        Thread.step_safe contract_lawful invariant.current holds.safe advanced
      rcases List.mem_append.mp member with old | new
      · exact old
      · obtain ⟨-, onOwnPath, -⟩ := calls_allowed deployment.settings allowed new
        rw [origin] at onOwnPath
        exact onOwnPath.elim

end Frame

/-! ## What stays true -/

section Later

variable {earlier later : Database}

theorem managed_of_linked
    {database : Database}
    {row : ExternalDispatch}
    {key : Nat}
    {message : Message}
    (linked : Linked database row)
    (attached : row.messageId = some key)
    (found : database.messages.get key = some message) :
    database.managedMessage message := by
  obtain ⟨contact, foundContact, -, managed⟩ := linked.contact
  obtain ⟨stored, foundStored, sameContact, -⟩ := linked.message key attached
  obtain rfl : stored = message := Option.some.inj (foundStored.symm.trans found)
  exact ⟨contact, by rw [sameContact]; exact foundContact, managed⟩

theorem addressed_later
    {key : Nat}
    {arguments : SendEmailArguments}
    (consistent : Consistent earlier)
    (extended : earlier.Extends later)
    (letters : Letters earlier later)
    (addressed : Addressed earlier key arguments) :
    Addressed later key arguments := by
  obtain ⟨row, found, carries⟩ := addressed
  obtain ⟨kept, foundKept, keeps⟩ := extended.dispatches key row found
  obtain ⟨contact, foundContact, toEmail⟩ := carries.recipient
  obtain ⟨messageKey, message, attached, foundMessage, said⟩ := carries.letter
  obtain ⟨mailboxKey, mailbox, chosen, foundMailbox, fromEmail⟩ := carries.sender
  obtain ⟨person, foundPerson, same⟩ := extended.contacts _ contact foundContact
  obtain ⟨text, foundText, sameText⟩ := letters.texts messageKey message foundMessage
  obtain ⟨again, foundAgain, sameSend⟩ := letters.sends messageKey message foundMessage
    (managed_of_linked (consistent.linked key row found) attached foundMessage)
  obtain rfl : again = text := Option.some.inj (foundAgain.symm.trans foundText)
  obtain ⟨address, foundAddress, sameAddress⟩ :=
    letters.addresses mailboxKey mailbox foundMailbox
  refine ⟨kept, foundKept,
    ⟨person, by rw [keeps.contactId]; exact foundPerson, by rw [same.2]; exact toEmail⟩,
    ⟨messageKey, again, ?_, foundText, ?_⟩,
    ⟨mailboxKey, address, keeps.mailboxId.trans chosen, foundAddress,
      fromEmail.trans (Eq.symm sameAddress)⟩⟩
  · rw [keeps.messageId (by rw [attached]; nofun)]
    exact attached
  · exact
      { subject := by rw [sameSend.subject]; exact said.subject
        bodyText := by rw [sameText.body]; exact said.bodyText
        inReplyToHeader := by rw [sameText.inReplyToHeader]; exact said.inReplyToHeader
        referencesHeader := by
          rw [sameText.inReplyToHeader, sameText.referencesHeader]
          exact said.referencesHeader }

theorem stamped_later
    {key : Nat}
    {arguments : SendEmailArguments}
    (consistent : Consistent earlier)
    (extended : earlier.Extends later)
    (letters : Letters earlier later)
    (stamped : Stamped earlier key arguments) :
    Stamped later key arguments := by
  obtain ⟨row, messageKey, message, header, found, attached, foundMessage, handed, stored,
    passed⟩ := stamped
  obtain ⟨kept, foundKept, keeps⟩ := extended.dispatches key row found
  obtain ⟨again, foundAgain, sameSend⟩ := letters.sends messageKey message foundMessage
    (managed_of_linked (consistent.linked key row found) attached foundMessage)
  obtain ⟨stillHanded, sameHeader⟩ := sameSend.stamped handed
  refine ⟨kept, messageKey, again, header, foundKept, ?_, foundAgain, stillHanded,
    sameHeader.trans stored, passed⟩
  rw [keeps.messageId (by rw [attached]; nofun)]
  exact attached

theorem faithful_later
    {phase : DispatchPhase}
    (consistent : Consistent earlier)
    (extended : earlier.Extends later)
    (letters : Letters earlier later)
    (faithful : phase.Faithful earlier) :
    phase.Faithful later := by
  unfold DispatchPhase.Faithful at faithful ⊢
  split at faithful
  · exact ⟨addressed_later consistent extended letters faithful.1, faithful.2⟩
  · exact ⟨addressed_later consistent extended letters faithful.1,
      stamped_later consistent extended letters faithful.2⟩
  · trivial

theorem callFaithful_later
    {call : SendCall}
    (consistent : Consistent earlier)
    (extended : earlier.Extends later)
    (letters : Letters earlier later)
    (faithful : CallFaithful earlier call) :
    CallFaithful later call := by
  intro key origin
  obtain ⟨addressed, stamped⟩ := faithful key origin
  exact ⟨addressed_later consistent extended letters addressed,
    stamped_later consistent extended letters stamped⟩

theorem parentOf_later
    {reference : String}
    {parent : ReplyParent}
    (wellFormed : earlier.WellFormed)
    (extended : earlier.Extends later)
    (letters : Letters earlier later)
    (parentOf : ParentOf earlier reference parent) :
    ParentOf later reference parent := by
  obtain ⟨message, found, named, inbound, managed, taken⟩ := parentOf
  obtain ⟨kept, foundKept, keeps⟩ := extended.messages _ message found
  obtain ⟨text, foundText, sameText⟩ := letters.texts _ message found
  obtain rfl : text = kept := Option.some.inj (foundText.symm.trans foundKept)
  obtain ⟨again, foundAgain, sameSend⟩ := letters.sends _ message found managed
  obtain rfl : again = text := Option.some.inj (foundAgain.symm.trans foundText)
  refine ⟨again, foundAgain, sameText.replyReference.trans named,
    keeps.direction.trans inbound, extended.managedMessage wellFormed keeps managed, ?_⟩
  unfold replyParentSnapshot at taken ⊢
  rw [keeps.identity inbound, sameText.inReplyToHeader, sameText.referencesHeader,
    sameSend.subject]
  exact taken

theorem placed_later
    {request : OutreachRequest}
    {placement : Placement}
    (wellFormed : earlier.WellFormed)
    (extended : earlier.Extends later)
    (letters : Letters earlier later)
    (placed : Placed earlier request placement) :
    Placed later request placement := by
  unfold Placed at placed ⊢
  split at placed
  · obtain ⟨unreplying, contact, found, address⟩ := placed
    obtain ⟨kept, foundKept, same⟩ := extended.contacts _ contact found
    exact ⟨unreplying, kept, foundKept, same.2.trans address⟩
  · obtain ⟨parent, chosen, parentOf⟩ := placed
    exact ⟨parent, chosen, parentOf_later wellFormed extended letters parentOf⟩

theorem aimed_later
    {phase : RequestPhase}
    (wellFormed : earlier.WellFormed)
    (extended : earlier.Extends later)
    (letters : Letters earlier later)
    (aimed : phase.Aimed earlier) :
    phase.Aimed later := by
  cases phase with
  | choosingMailbox request parent =>
      cases parent with
      | none => exact aimed
      | some target =>
          obtain ⟨reference, replies, parentOf⟩ := aimed
          exact ⟨reference, replies, parentOf_later wellFormed extended letters parentOf⟩
  | accepting request placement => exact placed_later wellFormed extended letters aimed
  | _ => exact aimed

/-- A step that leaves the dispatches alone keeps the answers. -/
theorem answered_later
    (consistent : Consistent earlier)
    (letters : Letters earlier later)
    (same : later.dispatches = earlier.dispatches)
    (answered : Answered earlier) :
    Answered later := by
  intro key row messageKey found attached
  rw [same] at found
  obtain ⟨message, foundMessage, answers⟩ := answered key row messageKey found attached
  obtain ⟨text, foundText, sameText⟩ := letters.texts messageKey message foundMessage
  obtain ⟨again, foundAgain, sameSend⟩ := letters.sends messageKey message foundMessage
    (managed_of_linked (consistent.linked key row found) attached foundMessage)
  obtain rfl : again = text := Option.some.inj (foundAgain.symm.trans foundText)
  refine ⟨again, foundText, ?_⟩
  intro snapshot parent stored chosen
  obtain ⟨subject, inReplyTo, references⟩ := answers snapshot parent stored chosen
  exact ⟨sameSend.subject.trans subject, sameText.inReplyToHeader.trans inReplyTo,
    sameText.referencesHeader.trans references⟩

end Later

/-! ## Runs -/

/-- Everything that is on its way to the sender, or was handed to it, is what the rows of
its dispatch say; and every request that is being handled knows whom it is for. -/
structure Faithful (world : World) : Prop where
  dispatchers : ∀ worker, (world.dispatchers worker).Faithful world.database
  calls : ∀ call ∈ world.calls, CallFaithful world.database call
  requests : ∀ number, (world.requests number).Aimed world.database
  answered : Answered world.database

theorem Faithful.initial (clock : Instant) : Faithful { clock := clock } where
  dispatchers _ := trivial
  calls _ member := by cases member
  requests _ := trivial
  answered _ _ _ found := by cases found

theorem answered_of_step
    {action : Action}
    (reachable : (system deployment).Reachable before)
    (answered : Answered before.database)
    (stepped : before.step deployment action = some after) :
    Answered after.database := by
  have invariant := Invariant.of_reachable reachable
  by_cases isNative : ∃ number stimulus, action = .native number stimulus
  · have letters := letters_of_step reachable stepped
    obtain ⟨number, stimulus, rfl⟩ := isNative
    obtain ⟨next, moved, rfl⟩ := Option.map_eq_some_iff.mp stepped
    obtain ⟨running, -, rest⟩ := Option.bind_eq_some_iff.mp moved
    obtain ⟨⟨store, thread, asked⟩, advanced, rfl⟩ := Option.map_eq_some_iff.mp rest
    refine answered_later invariant.current.consistent letters ?_ answered
    rcases Thread.step_store advanced with same | committed
    · exact congrArg Database.dispatches same
    · exact applyAll_dispatches committed
  · refine (edits_of_step invariant (fitted_of_reachable reachable) stepped ?_).answered answered
    rintro number stimulus rfl
    exact isNative ⟨number, stimulus, rfl⟩

theorem Faithful.step
    {action : Action}
    (reachable : (system deployment).Reachable before)
    (faithful : Faithful before)
    (stepped : before.step deployment action = some after) :
    Faithful after := by
  have invariant := Invariant.of_reachable reachable
  have consistent := invariant.current.consistent
  have extended := extends_of_reaches reachable (.of_step stepped)
  have letters := letters_of_step reachable stepped
  -- The thread that takes the step hands over what it knows; the database is after it.
  have acting : ∀ worker choice, action = .dispatch worker choice →
      (after.dispatchers worker).Faithful after.database ∧
        ∀ call ∈ after.calls, call ∈ before.calls ∨ CallFaithful after.database call := by
    rintro worker choice rfl
    obtain ⟨next, moved, rfl⟩ := Option.map_eq_some_iff.mp stepped
    obtain ⟨move, taken, rfl⟩ := Option.map_eq_some_iff.mp moved
    obtain ⟨phase, calls⟩ := faithful_dispatchStep consistent (invariant.dispatchers worker)
      (faithful.dispatchers worker)
      (fun _ _ addressed => addressed_later consistent extended letters addressed) taken
    constructor
    · change (Function.update before.dispatchers worker move.phase worker).Faithful _
      rw [Function.update_self]
      exact phase
    · intro call member
      rcases List.mem_append.mp member with old | new
      · exact .inl old
      · exact .inr (calls call new)
  constructor
  · intro worker
    rcases dispatchers_of_step stepped worker with same | idle | ⟨choice, acts⟩
    · rw [same]
      exact faithful_later consistent extended letters (faithful.dispatchers worker)
    · rw [idle]
      trivial
    · exact (acting worker choice acts).1
  · intro call member
    by_cases dispatches : ∃ worker choice, action = .dispatch worker choice
    · obtain ⟨worker, choice, acts⟩ := dispatches
      rcases (acting worker choice acts).2 call member with old | new
      · exact callFaithful_later consistent extended letters (faithful.calls call old)
      · exact new
    · intro key origin
      have old := calls_of_step invariant stepped
        (fun worker choice acts => dispatches ⟨worker, choice, acts⟩) member origin
      exact callFaithful_later consistent extended letters (faithful.calls call old) key origin
  · intro number
    rcases requests_of_step stepped number with same | ⟨choice, rfl⟩
    · rw [same]
      exact aimed_later consistent.toWellFormed extended letters (faithful.requests number)
    · obtain ⟨next, moved, rfl⟩ := Option.map_eq_some_iff.mp stepped
      obtain ⟨move, taken, rfl⟩ := Option.map_eq_some_iff.mp moved
      change (Function.update before.requests number move.phase number).Aimed _
      rw [Function.update_self]
      exact aimed_requestStep (faithful.requests number) taken
  · exact answered_of_step reachable faithful.answered stepped

theorem Faithful.of_reachable
    (reachable : (system deployment).Reachable world) :
    Faithful world := by
  refine reachable.invariant ?_ ?_
  · rintro _ ⟨clock, rfl⟩
    exact .initial clock
  · intro _ _ _ reached faithful stepped
    exact faithful.step reached stepped

/-! ## Acceptance -/

/-- A step of a request that stores a dispatch, with what it stores. -/
theorem acceptance_of_step
    {number : Nat}
    {choice : RequestChoice}
    {request : OutreachRequest}
    (reachable : (system deployment).Reachable before)
    (stepped : (system deployment).step before (.request number choice) = some after)
    (working : (after.requests number).request = some request)
    (grown : after.database.dispatches.size ≠ before.database.dispatches.size) :
    ∃ placement messageId publicReference replyReference,
      Placed before.database request placement ∧
      after.database.dispatches.get before.database.dispatches.size = some
        (acceptedDispatch deployment.services before.database request placement before.clock
          messageId publicReference) ∧
      after.database.contacts = before.database.contacts ∧
      ∀ payload, request.payload = .exact payload →
        messageId = some before.database.messages.size ∧
        after.database.messages.get before.database.messages.size = some
          (createAuthorizedMessage placement.contactId payload.subject payload.body
            before.clock replyReference) := by
  have aimed := (Faithful.of_reachable reachable).requests number
  obtain ⟨next, moved, rfl⟩ := Option.map_eq_some_iff.mp stepped
  obtain ⟨move, taken, rfl⟩ := Option.map_eq_some_iff.mp moved
  have changed : move.database.dispatches.size ≠ before.database.dispatches.size := grown
  obtain ⟨accepted, placement, outcome, replyReference, publicReference, phase, rfl, written⟩ :=
    acceptance_of_requestStep changed taken
  -- The phase is the answer to the request that was being accepted.
  have same : accepted = request := by
    have outcome := requestStep_outcome (Invariant.of_reachable reachable).current.consistent
      ((Invariant.of_reachable reachable).requests number) taken
    obtain ⟨kept, -⟩ := outcome.effect accepted (by rw [phase]; rfl)
    change (Function.update before.requests number move.phase number).request = _ at working
    rw [Function.update_self, kept] at working
    exact Option.some.inj working
  subst same
  rw [phase] at aimed
  obtain ⟨messageId, dispatches, contacts, exact⟩ := acceptOperation_eq_written written
  refine ⟨placement, messageId, publicReference, replyReference, aimed, ?_, contacts, exact⟩
  change move.database.dispatches.get _ = _
  rw [dispatches, Table.get_insert_size]

/-- The calls for a dispatch are what its rows say at any later time. -/
theorem carries_of_reaches
    {later : World}
    {key : Nat}
    {row : ExternalDispatch}
    {call : SendCall}
    (reachable : (system deployment).Reachable world)
    (found : world.database.dispatches.get key = some row)
    (reaches : (system deployment).Reaches world later)
    (member : call ∈ later.calls)
    (origin : call.origin = .dispatch key) :
    ∃ kept, later.database.dispatches.get key = some kept ∧ ExternalDispatch.Keeps row kept ∧
      Carries later.database kept call.arguments ∧
      Stamped later.database key call.arguments := by
  have faithful := Faithful.of_reachable (reachable.reaches reaches)
  obtain ⟨kept, foundKept, keeps⟩ := (extends_of_reaches reachable reaches).dispatches key row found
  obtain ⟨⟨same, foundSame, carries⟩, stamped⟩ := faithful.calls call member key origin
  obtain rfl : same = kept := Option.some.inj (foundSame.symm.trans foundKept)
  exact ⟨same, foundKept, keeps, carries, stamped⟩

/-- A step of a request that stores no dispatch changes nothing that is sent. -/
theorem request_changes_nothing
    {number : Nat}
    {choice : RequestChoice}
    {request : OutreachRequest}
    (reachable : (system deployment).Reachable before)
    (stepped : (system deployment).step before (.request number choice) = some after)
    (working : (after.requests number).request = some request)
    (same : after.database.dispatches.size = before.database.dispatches.size) :
    after.database.dispatches = before.database.dispatches ∧
      after.database.messages = before.database.messages ∧
      after.database.mailboxes = before.database.mailboxes ∧
      after.calls = before.calls ∧ after.dispatchers = before.dispatchers := by
  have invariant := Invariant.of_reachable reachable
  have mailboxes := (edits_of_step invariant (fitted_of_reachable reachable) stepped
    nofun).untouched.1
  have unchanged : after.calls = before.calls ∧ after.dispatchers = before.dispatchers := by
    obtain ⟨next, moved, rfl⟩ := Option.map_eq_some_iff.mp stepped
    obtain ⟨move, taken, rfl⟩ := Option.map_eq_some_iff.mp moved
    exact ⟨rfl, rfl⟩
  cases request_effect invariant stepped working with
  | none dispatches messages =>
      exact ⟨dispatches, messages, mailboxes, unchanged.1, unchanged.2⟩
  | accepted row _ _ _ _ dispatches _ =>
      rw [dispatches, Table.size_insert] at same
      exact absurd same (Nat.succ_ne_self _)

/-- A request of the exact route that is accepted is sent as it was accepted, in every run
from there: to its recipient, with its subject and text, without threading headers, from
the address of the mailbox of the dispatch, under the Message-ID that is stored with its
message. A step of such a request that stores no dispatch, as for a replay, changes
nothing that is sent. -/
theorem exact_message_fidelity
    (deployment : Deployment)
    (before after : World)
    (number : Nat)
    (choice : RequestChoice)
    (request : OutreachRequest)
    (payload : ExactPayload)
    (reachable : (system deployment).Reachable before)
    (stepped : (system deployment).step before (.request number choice) = some after)
    (working : (after.requests number).request = some request)
    (exact : request.payload = .exact payload) :
    (after.database.dispatches.size ≠ before.database.dispatches.size →
      ∃ accepted mailboxKey messageKey,
        after.database.dispatches.get before.database.dispatches.size = some accepted ∧
        accepted.organizationId = request.organizationId ∧
        accepted.idempotencyKey = payload.idempotencyKey ∧
        accepted.mailboxId = some mailboxKey ∧ accepted.messageId = some messageKey ∧
        ∀ later, (system deployment).Reaches after later → ∀ call ∈ later.calls,
          call.origin = .dispatch before.database.dispatches.size →
          call.arguments.toEmail = payload.recipientEmail ∧
          call.arguments.subject = payload.subject.getD "" ∧
          call.arguments.bodyText = payload.body ∧
          call.arguments.inReplyToHeader = none ∧
          call.arguments.referencesHeader = none ∧
          (∃ mailbox, later.database.mailboxes.get mailboxKey = some mailbox ∧
            call.arguments.fromEmail = mailbox.emailAddress) ∧
          ∃ message header, later.database.messages.get messageKey = some message ∧
            message.messageIdHeader = some header ∧
            call.arguments.messageIdHeader = some header) ∧
    (after.database.dispatches.size = before.database.dispatches.size →
      after.database.dispatches = before.database.dispatches ∧
      after.database.messages = before.database.messages ∧
      after.database.mailboxes = before.database.mailboxes ∧
      after.calls = before.calls ∧ after.dispatchers = before.dispatchers) := by
  refine ⟨?_, request_changes_nothing reachable stepped working⟩
  intro grown
  obtain ⟨placement, messageId, publicReference, replyReference, placed, stored, contacts,
    authorized⟩ := acceptance_of_step reachable stepped working grown
  obtain ⟨rfl, foundMessage⟩ := authorized payload exact
  have unreplying : request.inReplyTo = none := by
    unfold OutreachRequest.inReplyTo
    rw [exact]
  unfold Placed at placed
  rw [unreplying] at placed
  obtain ⟨-, contact, foundContact, address⟩ := placed
  have reached := reachable.step stepped
  refine ⟨_, placement.mailboxId, _, stored, rfl, ?_, rfl, rfl, ?_⟩
  · unfold acceptedDispatch OutreachRequest.idempotencyKey
    rw [exact]
  intro later reaches call member origin
  obtain ⟨kept, foundKept, keeps, carries, stamped⟩ :=
    carries_of_reaches reached stored reaches member origin
  have attached : kept.messageId = some before.database.messages.size := keeps.messageId nofun
  have extended := extends_of_reaches reached reaches
  have letters := letters_of_reaches reached reaches
  obtain ⟨person, foundPerson, toEmail⟩ := carries.recipient
  obtain ⟨messageKey, message, here, foundHere, said⟩ := carries.letter
  obtain rfl := Option.some.inj (here.symm.trans attached)
  obtain ⟨mailboxKey, mailbox, chosen, foundMailbox, fromEmail⟩ := carries.sender
  obtain rfl : mailboxKey = placement.mailboxId :=
    Option.some.inj (chosen.symm.trans keeps.mailboxId)
  -- The recipient is the contact of the request.
  have recipient : person.email = payload.recipientEmail := by
    rw [← contacts] at foundContact
    obtain ⟨same, foundSame, samePerson⟩ := extended.contacts _ contact foundContact
    rw [keeps.contactId] at foundPerson
    obtain rfl : same = person := Option.some.inj (foundSame.symm.trans foundPerson)
    rw [samePerson.2, address]
    unfold OutreachRequest.recipientEmail
    rw [exact]
  -- The message is the one that was stored.
  obtain ⟨text, foundText, sameText⟩ := letters.texts _ _ foundMessage
  obtain rfl : text = message := Option.some.inj (foundText.symm.trans foundHere)
  obtain ⟨again, foundAgain, sameSend⟩ := letters.sends _ _ foundMessage
    (managed_of_linked ((Invariant.of_reachable reached).current.consistent.linked _ _ stored)
      rfl foundMessage)
  obtain rfl : again = text := Option.some.inj (foundAgain.symm.trans foundText)
  refine ⟨toEmail.trans recipient, ?_, ?_, ?_, ?_, ⟨mailbox, foundMailbox, fromEmail⟩, ?_⟩
  · rw [said.subject, sameSend.subject]
    rfl
  · rw [said.bodyText, sameText.body]
    rfl
  · rw [said.inReplyToHeader, sameText.inReplyToHeader]
    rfl
  · rw [said.referencesHeader, sameText.inReplyToHeader]
    rfl
  · obtain ⟨row, messageKey, stampedMessage, header, foundRow, hasMessage, foundStamped, -,
      stamp, passed⟩ := stamped
    obtain rfl : row = kept := Option.some.inj (foundRow.symm.trans foundKept)
    obtain rfl := Option.some.inj (hasMessage.symm.trans attached)
    exact ⟨stampedMessage, header, foundStamped, stamp, passed⟩

namespace Sample

/-- The acceptance of the exact request, up to its commit. -/
def acceptancePrefix : List Action :=
  acceptance.dropLast

/-- The commit of the acceptance. -/
def acceptingChoice : RequestChoice :=
  .commit .committed "r1" "d1"

/-- The dispatch worker sends the only dispatch. -/
def delivery : List Action :=
  [.dispatch worker .begin, .dispatch worker (.claim "w" []), .dispatch worker .register,
    .dispatch worker (.evaluate fun domain => "<1@" ++ domain ++ ">"),
    .dispatch worker (.commit .committed), .dispatch worker (.send accepts)]

/-- The request stores its dispatch, and the sender is called for it. -/
def sentAfter
    (deployment : Deployment)
    (actions : List Action)
    (request : OutreachRequest)
    (choice : RequestChoice)
    (before : World) : Bool :=
  (((system deployment).step before (.request 0 choice)).any fun after =>
    decide ((after.requests 0).request = some request) &&
      decide (after.database.dispatches.size ≠ before.database.dispatches.size) &&
      ((system deployment).run after actions).any fun later =>
        later.calls.any fun call =>
          call.origin == .dispatch before.database.dispatches.size)

theorem exists_sent
    {actions delivered : List Action}
    {request : OutreachRequest}
    {choice : RequestChoice}
    (ran : ((system deployment).run {} actions).any
      (sentAfter deployment delivered request choice) = true) :
    ∃ before after later call, (system deployment).Reachable before ∧
      (system deployment).step before (.request 0 choice) = some after ∧
      (after.requests 0).request = some request ∧
      after.database.dispatches.size ≠ before.database.dispatches.size ∧
      (system deployment).Reaches after later ∧ call ∈ later.calls ∧
      call.origin = .dispatch before.database.dispatches.size := by
  obtain ⟨before, reachable, sent⟩ := reachable_of_any deployment actions _ ran
  obtain ⟨after, stepped, sent⟩ := (Option.any_eq_true _ _).mp sent
  rw [Bool.and_eq_true, Bool.and_eq_true] at sent
  obtain ⟨⟨working, grown⟩, sent⟩ := sent
  obtain ⟨later, reaches, called⟩ := Transition.System.exists_reaches_of_run sent
  obtain ⟨call, member, origin⟩ := List.any_eq_true.mp called
  exact ⟨before, after, later, call, reachable, stepped, of_decide_eq_true working,
    of_decide_eq_true grown, reaches, member, beq_iff_eq.mp origin⟩

end Sample

/-- An exact message that was sent is the one that was accepted. -/
theorem exact_message_delivered :
    ∃ before after later call, (system Sample.deployment).Reachable before ∧
      (system Sample.deployment).step before (.request 0 Sample.acceptingChoice) =
        some after ∧
      (system Sample.deployment).Reaches after later ∧ call ∈ later.calls ∧
      call.origin = .dispatch before.database.dispatches.size ∧
      call.arguments.toEmail = "p@x.test" ∧ call.arguments.subject = "" ∧
      call.arguments.bodyText = "Hi" := by
  obtain ⟨before, after, later, call, reachable, stepped, working, grown, reaches, member,
    origin⟩ := @Sample.exists_sent Sample.deployment Sample.acceptancePrefix Sample.delivery
      Sample.exactRequest Sample.acceptingChoice (by decide +kernel)
  obtain ⟨fidelity, -⟩ := exact_message_fidelity Sample.deployment before after 0
    Sample.acceptingChoice Sample.exactRequest _ reachable stepped working rfl
  obtain ⟨_, _, _, -, -, -, -, -, sent⟩ := fidelity grown
  obtain ⟨toEmail, subject, bodyText, -⟩ := sent later reaches call member origin
  exact ⟨before, after, later, call, reachable, stepped, reaches, member, origin, toEmail,
    subject, bodyText⟩

/-! ## Replies -/

/-- The threading headers of a message are those of its arguments. -/
theorem threading_of_buildMessage
    {arguments : SendEmailArguments}
    {messageId value : String} :
    (("In-Reply-To", value) ∈ (buildMessage arguments messageId).headers →
      truthy arguments.inReplyToHeader = some value) ∧
    (("References", value) ∈ (buildMessage arguments messageId).headers →
      (truthy arguments.referencesHeader).or (truthy arguments.inReplyToHeader) =
        some value) := by
  unfold buildMessage
  simp only [List.mem_append, List.mem_cons, List.not_mem_nil, or_false, Prod.mk.injEq,
    Option.mem_toList, Option.map_eq_some_iff, String.reduceEq, false_and,
    and_false, exists_const, false_or, true_and, exists_eq_right]
  exact ⟨id, id⟩

/-- A reply that is accepted is sent, in every run from there and so whatever the language
model returns, with the subject, the In-Reply-To and the References that were computed from
the row of its parent; and no header that is sent holds an id that is not a real
Message-ID. -/
theorem reply_threading_fixed
    (deployment : Deployment)
    (before after : World)
    (number : Nat)
    (choice : RequestChoice)
    (request : OutreachRequest)
    (reference : String)
    (reachable : (system deployment).Reachable before)
    (stepped : (system deployment).step before (.request number choice) = some after)
    (working : (after.requests number).request = some request)
    (replies : request.inReplyTo = some reference)
    (grown : after.database.dispatches.size ≠ before.database.dispatches.size) :
    ∃ parentKey message parent,
      before.database.messages.get parentKey = some message ∧
      message.replyReference = some reference ∧ message.direction = .inbound ∧
      replyParentSnapshot parentKey message = .ok parent ∧
      (∀ later, (system deployment).Reaches after later → ∀ call ∈ later.calls,
        call.origin = .dispatch before.database.dispatches.size →
        call.arguments.subject = parent.subject ∧
        call.arguments.inReplyToHeader = some parent.inReplyToHeader ∧
        call.arguments.referencesHeader = parent.referencesHeader ∧
        ∀ messageId value,
          (("In-Reply-To", value) ∈ (buildMessage call.arguments messageId).headers →
            RealMessageId value) ∧
          (("References", value) ∈ (buildMessage call.arguments messageId).headers →
            ∀ id ∈ PyText.split value, RealMessageId id)) ∧
      ∀ first second, (system deployment).Reaches after first →
        (system deployment).Reaches after second →
        ∀ call ∈ first.calls, ∀ other ∈ second.calls,
          call.origin = .dispatch before.database.dispatches.size →
          other.origin = .dispatch before.database.dispatches.size →
          call.arguments.subject = other.arguments.subject ∧
          call.arguments.inReplyToHeader = other.arguments.inReplyToHeader ∧
          call.arguments.referencesHeader = other.arguments.referencesHeader := by
  obtain ⟨placement, messageId, publicReference, replyReference, placed, stored, -, -⟩ :=
    acceptance_of_step reachable stepped working grown
  unfold Placed at placed
  rw [replies] at placed
  obtain ⟨parent, chosen, message, foundParent, named, inbound, -, taken⟩ := placed
  obtain ⟨realThread, nonempty, references, listed, filled, realReferences⟩ :=
    real_of_replyParentSnapshot taken
  have reached := reachable.step stepped
  -- The snapshot of the dispatch is the parent.
  obtain ⟨snapshot, snapshotted, parented⟩ : ∃ snapshot,
      (acceptedDispatch deployment.services before.database request placement before.clock
          messageId
        publicReference).groundingContext = some snapshot ∧
      snapshot.replyParent = some parent := by
    unfold acceptedDispatch
    cases payload : request.payload with
    | exact payload =>
        unfold OutreachRequest.inReplyTo at replies
        rw [payload] at replies
        cases replies
    | generated payload => exact ⟨_, rfl, chosen⟩
  have sent : ∀ later, (system deployment).Reaches after later → ∀ call ∈ later.calls,
      call.origin = .dispatch before.database.dispatches.size →
      call.arguments.subject = parent.subject ∧
      call.arguments.inReplyToHeader = some parent.inReplyToHeader ∧
      call.arguments.referencesHeader = parent.referencesHeader := by
    intro later reaches call member origin
    obtain ⟨kept, foundKept, keeps, carries, -⟩ :=
      carries_of_reaches reached stored reaches member origin
    obtain ⟨messageKey, answer, attached, foundAnswer, said⟩ := carries.letter
    obtain ⟨same, foundSame, answers⟩ :=
      (Faithful.of_reachable (reached.reaches reaches)).answered _ kept messageKey foundKept
        attached
    obtain rfl : same = answer := Option.some.inj (foundSame.symm.trans foundAnswer)
    obtain ⟨subject, inReplyTo, answerReferences⟩ :=
      answers snapshot parent (keeps.groundingContext.trans snapshotted) parented
    refine ⟨?_, ?_, ?_⟩
    · rw [said.subject, subject]
      rfl
    · rw [said.inReplyToHeader, inReplyTo, truthy_of_ne_empty nonempty]
    · rw [said.referencesHeader, inReplyTo, truthy_of_ne_empty nonempty, answerReferences,
        listed]
      exact truthy_of_ne_empty filled
  refine ⟨parent.messageId, message, parent, foundParent, named, inbound, taken, ?_, ?_⟩
  · intro later reaches call member origin
    obtain ⟨subject, inReplyTo, passed⟩ := sent later reaches call member origin
    refine ⟨subject, inReplyTo, passed, ?_⟩
    intro header value
    have headers := @threading_of_buildMessage call.arguments header value
    rw [inReplyTo, passed, listed, truthy_of_ne_empty nonempty, truthy_of_ne_empty filled]
      at headers
    refine ⟨?_, ?_⟩
    · intro present
      obtain rfl := Option.some.inj (headers.1 present)
      exact realThread
    · intro present
      obtain rfl := Option.some.inj (headers.2 present)
      exact realReferences
  · intro first second reachesFirst reachesSecond call member other memberOther origin
      originOther
    obtain ⟨subject, inReplyTo, passed⟩ := sent first reachesFirst call member origin
    obtain ⟨otherSubject, otherInReplyTo, otherPassed⟩ :=
      sent second reachesSecond other memberOther originOther
    exact ⟨subject.trans otherSubject.symm, inReplyTo.trans otherInReplyTo.symm,
      passed.trans otherPassed.symm⟩

namespace Sample

/-- A letter of the recipient. -/
def interestedLetter : InboundEmail where
  fromEmail := "p@x.test"
  subject := "Hello"
  bodyText := "Tell me more"
  messageId := some "<m1@x.test>"
  references := ["<m0@x.test>"]

/-- A server with the letter, and a classifier that understands it. -/
def offersLetter : (signal : Signal) → signal.Reply
  | .classify _ _ _ =>
      .ok { success := true, semanticIntent := some { intents := [.outOfOffice] } }
  | signal => offers interestedLetter signal

/-- A request to answer the letter. -/
def replyRequest : OutreachRequest where
  organizationId := "acme"
  payload := .generated
    { externalActionId := "a2", idempotencyKey := "k2", recipientEmail := "p@x.test",
      valueProposition := "Less work", inReplyTo := some "reference" }

/-- The letter is received, and the answer to it is about to be accepted. -/
def replyPrefix : List Action :=
  perform 1 (.createMailbox "acme" polledMailbox) answer 6 ++
    [.request 1 (.receive exactRequest), .request 1 .read, .request 1 .read,
      .request 1 .read, .request 1 (.commit .committed "" ""), .request 1 .read,
      .request 1 (.commit .committed "" ""), .request 1 (.commit .committed "r1" "d1")] ++
    perform 2 .pollMailboxInboxesJob offersLetter 26 ++
    [.request 0 (.receive replyRequest), .request 0 .read, .request 0 .read,
      .request 0 .read]

/-- The answer is generated and sent; the first dispatch is locked. -/
def replyDelivery : List Action :=
  [.generation worker (.claim "w1" [] .committed), .generation worker (.draft drafts),
    .generation worker (.commit "r2" .committed), .dispatch worker .begin,
    .dispatch worker (.claim "w" [0]), .dispatch worker .register,
    .dispatch worker (.evaluate fun domain => "<1@" ++ domain ++ ">"),
    .dispatch worker (.commit .committed), .dispatch worker (.send accepts)]

end Sample

/-- An answer that was sent is threaded as the row of its parent says. -/
theorem reply_threading_of_letter :
    ∃ before after later call parentKey message parent,
      (system Sample.deployment).Reachable before ∧
      (system Sample.deployment).step before
        (.request 0 (.commit .committed "" "d2")) = some after ∧
      (system Sample.deployment).Reaches after later ∧ call ∈ later.calls ∧
      call.origin = .dispatch before.database.dispatches.size ∧
      before.database.messages.get parentKey = some message ∧
      message.replyReference = some "reference" ∧
      replyParentSnapshot parentKey message = .ok parent ∧
      call.arguments.subject = parent.subject ∧
      call.arguments.inReplyToHeader = some parent.inReplyToHeader ∧
      call.arguments.referencesHeader = parent.referencesHeader := by
  obtain ⟨before, after, later, call, reachable, stepped, working, grown, reaches, member,
    origin⟩ := @Sample.exists_sent Sample.deployment Sample.replyPrefix Sample.replyDelivery
      Sample.replyRequest (.commit .committed "" "d2") (by decide +kernel)
  obtain ⟨parentKey, message, parent, found, named, -, taken, sent, -⟩ :=
    reply_threading_fixed Sample.deployment before after 0 _ Sample.replyRequest "reference"
      reachable stepped working rfl grown
  obtain ⟨subject, inReplyTo, references, -⟩ := sent later reaches call member origin
  exact ⟨before, after, later, call, parentKey, message, parent, reachable, stepped, reaches,
    member, origin, found, named, taken, subject, inReplyTo, references⟩

end MailerAgent
