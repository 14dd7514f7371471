import MailerAgent.Dispatch.History
import MailerAgent.Intake.Idempotency

/-!
# Whom a request is for

What the handler of a request has found out when it accepts: the contact has the address
of the request, or the parent of the reply is a message that was received from an
integration contact. The row of the parent fixes the subject and the threading headers of
the reply, and all of them are real Message-IDs.
-/

namespace MailerAgent
namespace Intake

open Concurrent Relational Mail Dispatch

/-! ## Threading -/

/-- A Message-ID that may be written into a header of outgoing mail: well formed, and not
one of the identities that stand for a missing Message-ID. -/
def RealMessageId (id : String) : Prop :=
  realMessageId (some id) = some id

instance (id : String) : Decidable (RealMessageId id) :=
  inferInstanceAs (Decidable (_ = _))

theorem word_of_usable
    {value : Option String}
    {id : String}
    (usable : usableMessageId value = some id) :
    PyText.Word id := by
  obtain ⟨-, clean⟩ := Option.filter_eq_some_iff.mp usable
  simp only [Bool.and_eq_true, bne_iff_ne, Bool.not_eq_true', List.any_eq_false] at clean
  obtain ⟨⟨nonempty, -⟩, characters⟩ := clean
  refine ⟨fun empty => nonempty (String.toList_eq_nil_iff.mp empty), ?_⟩
  intro character member
  have usableCharacter := characters character member
  unfold unusableInMessageId at usableCharacter
  simp only [Bool.or_eq_true, not_or] at usableCharacter
  exact Bool.not_eq_true _ ▸ usableCharacter.1.1

theorem realMessageId_of_word
    {id : String}
    (word : PyText.Word id)
    (usable : (realMessageId (some id)).isSome) :
    RealMessageId id := by
  obtain ⟨value, real⟩ := Option.isSome_iff_exists.mp usable
  obtain ⟨stripped, -⟩ := Option.filter_eq_some_iff.mp real
  obtain ⟨same, -⟩ := Option.filter_eq_some_iff.mp stripped
  rw [Option.map_some, PyText.strip_of_word word] at same
  obtain rfl := Option.some.inj same
  exact real

theorem real_of_realMessageId
    {value : Option String}
    {id : String}
    (real : realMessageId value = some id) :
    RealMessageId id ∧ PyText.Word id := by
  obtain ⟨usable, notSynthetic⟩ := Option.filter_eq_some_iff.mp real
  have word := word_of_usable usable
  refine ⟨?_, word⟩
  obtain ⟨-, clean⟩ := Option.filter_eq_some_iff.mp usable
  refine Option.filter_eq_some_iff.mpr ⟨Option.filter_eq_some_iff.mpr ⟨?_, clean⟩, notSynthetic⟩
  rw [Option.map_some, PyText.strip_of_word word]

theorem mem_of_mem_collectReferences
    {seen ids : List String}
    {id : String}
    (member : id ∈ collectReferences seen ids) :
    id ∈ ids := by
  induction ids generalizing seen with
  | nil => cases member
  | cons first ids inductionHypothesis =>
      unfold collectReferences at member
      split at member
      · exact List.mem_cons_of_mem _ (inductionHypothesis member)
      · rcases List.mem_cons.mp member with rfl | later
        · exact List.mem_cons_self
        · exact List.mem_cons_of_mem _ (inductionHypothesis later)

theorem collectReferences_ne_nil
    {ids : List String}
    {id : String}
    (member : id ∈ ids)
    (nonempty : id ≠ "") :
    collectReferences [] ids ≠ [] := by
  induction ids with
  | nil => cases member
  | cons first ids inductionHypothesis =>
      unfold collectReferences
      split
      · next skipped =>
          rcases skipped with empty | seen
          · rcases List.mem_cons.mp member with rfl | later
            · exact absurd empty nonempty
            · exact inductionHypothesis later
          · cases seen
      · nofun

/-- Every Message-ID in the threading headers of a reply is real, whatever is stored with
its parent. -/
theorem real_of_replyParentSnapshot
    {key : Nat}
    {message : Message}
    {parent : ReplyParent}
    (taken : replyParentSnapshot key message = .ok parent) :
    RealMessageId parent.inReplyToHeader ∧ parent.inReplyToHeader ≠ "" ∧
      ∃ references, parent.referencesHeader = some references ∧ references ≠ "" ∧
        ∀ id ∈ PyText.split references, RealMessageId id := by
  unfold replyParentSnapshot at taken
  dsimp only at taken
  split at taken
  · cases taken
  next threadTo chosen =>
  obtain rfl := Except.ok.inj taken
  -- The parent's own Message-ID is preferred; both are real.
  have members : threadTo ∈ (realMessageId message.inReplyToHeader).toList ++
      (realMessageId message.messageIdHeader).toList := by
    rw [List.mem_append, Option.mem_toList, Option.mem_toList]
    rcases Option.or_eq_some_iff.mp chosen with own | ⟨-, other⟩
    · exact .inr own
    · exact .inl other
  have ids : ∀ id ∈ (PyText.split (message.referencesHeader.getD "")).filter (fun id =>
      (realMessageId (some id)).isSome) ++ (realMessageId message.inReplyToHeader).toList ++
        (realMessageId message.messageIdHeader).toList,
      RealMessageId id ∧ PyText.Word id := by
    intro id member
    rw [List.append_assoc, List.mem_append] at member
    rcases member with chained | own
    · obtain ⟨split, usable⟩ := List.mem_filter.mp chained
      have word := PyText.word_of_mem_split split
      exact ⟨realMessageId_of_word word usable, word⟩
    · rw [List.mem_append, Option.mem_toList, Option.mem_toList] at own
      rcases own with real | real
      · exact real_of_realMessageId real
      · exact real_of_realMessageId real
  have thread := ids threadTo (by
    rw [List.append_assoc]
    exact List.mem_append_right _ members)
  have nonempty : threadTo ≠ "" := by
    rintro rfl
    exact thread.2.1 rfl
  refine ⟨thread.1, nonempty, ?_⟩
  dsimp only
  unfold buildReferencesHeader
  split
  · next empty =>
      refine absurd empty (collectReferences_ne_nil ?_ nonempty)
      rw [List.append_assoc]
      exact List.mem_append_right _ members
  · next collected gathered =>
      have words : ∀ id ∈ collectReferences [] _, _ := fun id member =>
        ids id (mem_of_mem_collectReferences member)
      refine ⟨_, rfl, ?_, ?_⟩
      · cases listed : collectReferences [] _ with
        | nil => exact absurd listed gathered
        | cons first rest =>
            refine PyText.joinSpace_ne_empty rest (words first ?_).2
            rw [listed]
            exact List.mem_cons_self
      · rw [PyText.split_joinSpace fun id member => (words id member).2]
        exact fun id member => (words id member).1

/-! ## Requests -/

/-- The parent of a reply is the snapshot of the received message that the request
refers to. -/
def ParentOf
    (database : Database)
    (reference : String)
    (parent : ReplyParent) : Prop :=
  ∃ message, database.messages.get parent.messageId = some message ∧
    message.replyReference = some reference ∧ message.direction = .inbound ∧
    database.managedMessage message ∧
    replyParentSnapshot parent.messageId message = .ok parent

/-- A placement serves its request: a reply has its parent, any other message goes to a
contact with the address of the request. -/
def Placed
    (database : Database)
    (request : OutreachRequest)
    (placement : Placement) : Prop :=
  match request.inReplyTo with
  | none => placement.replyParent = none ∧
      ∃ contact, database.contacts.get placement.contactId = some contact ∧
        contact.email = request.recipientEmail
  | some reference => ∃ parent, placement.replyParent = some parent ∧
      ParentOf database reference parent

/-- What the handler of a request knows. -/
def RequestPhase.Aimed (database : Database) : RequestPhase → Prop
  | choosingMailbox request none => request.inReplyTo = none
  | choosingMailbox request (some target) => ∃ reference,
      request.inReplyTo = some reference ∧ ParentOf database reference target.snapshot
  | findingCampaign request _ => request.inReplyTo = none
  | insertingCampaign request _ => request.inReplyTo = none
  | rereadingCampaign request _ => request.inReplyTo = none
  | findingContact request _ _ => request.inReplyTo = none
  | insertingContact request _ _ => request.inReplyTo = none
  | rereadingContact request _ _ => request.inReplyTo = none
  | accepting request placement => Placed database request placement
  | _ => True

theorem messageId_of_replyParentSnapshot
    {key : Nat}
    {message : Message}
    {parent : ReplyParent}
    (taken : replyParentSnapshot key message = .ok parent) :
    parent.messageId = key := by
  unfold replyParentSnapshot at taken
  dsimp only at taken
  split at taken
  · cases taken
  · obtain rfl := Except.ok.inj taken
    rfl

theorem resolveReplyParent_eq_ok
    {services : Services}
    {database : Database}
    {organization reference email : String}
    {target : ReplyTarget}
    (resolved : resolveReplyParent services database organization reference email =
      .ok target) :
    ParentOf database reference target.snapshot := by
  unfold resolveReplyParent at resolved
  split at resolved
  · cases resolved
  next key visible =>
  split at resolved
  · cases resolved
  next message contact read =>
  split at resolved
  · cases resolved
  next managed =>
  split at resolved
  · cases resolved
  obtain ⟨stored, found, joined⟩ := Option.bind_eq_some_iff.mp read
  obtain ⟨person, foundPerson, equal⟩ := Option.map_eq_some_iff.mp joined
  obtain ⟨rfl, rfl⟩ := Prod.mk.inj equal
  obtain ⟨row, foundRow, seen⟩ := Table.firstWhere_eq_some visible
  obtain rfl : row = stored := Option.some.inj (foundRow.symm.trans found)
  unfold replyParentVisible at seen
  simp only [Bool.and_eq_true, beq_iff_eq] at seen
  obtain ⟨⟨⟨named, inbound⟩, -⟩, -⟩ := seen
  obtain ⟨_, -, resolved⟩ := bind_eq_ok resolved
  cases taken : replyParentSnapshot key row with
  | error rejection =>
      rw [taken] at resolved
      cases resolved
  | ok snapshot =>
      rw [taken] at resolved
      obtain rfl := Except.ok.inj resolved
      have position := messageId_of_replyParentSnapshot taken
      refine ⟨row, by rw [position]; exact found, named, inbound, ⟨person, foundPerson, ?_⟩,
        by rw [position]; exact taken⟩
      simpa using managed

section Steps

variable {deployment : Deployment} {services : Services} {database : Database}
variable {request : OutreachRequest}

theorem aimed_orAnswer
    {Value : Type}
    {result : Except Rejection Value}
    {continuation : Value → RequestPhase}
    (continues : ∀ value, result = .ok value → (continuation value).Aimed database) :
    (orAnswer request result continuation).Aimed database := by
  unfold orAnswer
  split
  · next value => exact continues value rfl
  · trivial

theorem aimed_lookup : (lookup services database request).Aimed database := by
  unfold lookup
  split
  · trivial
  · split
    · trivial
    · next unreplying => exact Option.not_isSome_iff_eq_none.mp unreplying

theorem aimed_converge : (converge services database request).Aimed database := by
  unfold converge
  split <;> trivial

theorem aimed_chooseMailbox
    {parent : Option ReplyTarget}
    (aimed : (RequestPhase.choosingMailbox request parent).Aimed database) :
    (chooseMailbox database request parent).Aimed database := by
  refine aimed_orAnswer ?_
  intro mailbox _
  cases parent with
  | none => exact aimed
  | some target =>
      obtain ⟨reference, replies, parentOf⟩ := aimed
      change Placed database request _
      unfold Placed
      rw [replies]
      exact ⟨target.snapshot, rfl, parentOf⟩

theorem aimed_reuseContact
    {mailbox campaign contact : Nat}
    (unreplying : request.inReplyTo = none)
    (chosen : findIntegrationContact database campaign request.recipientEmail =
      some contact) :
    (reuseContact database request mailbox campaign contact).Aimed database := by
  unfold reuseContact
  split
  · trivial
  · next row found =>
      refine aimed_orAnswer ?_
      intro _ _
      change Placed database request _
      unfold Placed
      rw [unreplying]
      obtain ⟨same, foundSame, matching⟩ := Table.firstWhere_eq_some chosen
      obtain rfl : same = row := Option.some.inj (foundSame.symm.trans found)
      rw [Bool.and_eq_true, beq_iff_eq, beq_iff_eq] at matching
      exact ⟨rfl, same, found, matching.2⟩

/-- The handler of a request goes on with what it has found out. -/
theorem aimed_requestStep
    {clock : Instant}
    {phase : RequestPhase}
    {choice : RequestChoice}
    {move : RequestMove}
    (aimed : phase.Aimed database)
    (stepped : requestStep deployment database clock phase choice = some move) :
    move.phase.Aimed move.database := by
  unfold requestStep at stepped
  split at stepped
  · cases stepped
    trivial
  · cases stepped
    exact aimed_lookup
  · next asking =>
      obtain ⟨reference, replies, rfl⟩ := Option.map_eq_some_iff.mp stepped
      refine aimed_orAnswer ?_
      intro target resolved
      exact ⟨reference, replies, resolveReplyParent_eq_ok resolved⟩
  · cases stepped
    exact aimed_chooseMailbox aimed
  · cases stepped
    unfold findCampaign
    split
    · exact aimed
    · split
      · trivial
      · exact aimed
  · split at stepped
    · cases stepped
      exact aimed
    · cases stepped
      dsimp only
      split
      · exact aimed
      · trivial
  · cases stepped
    dsimp only
    split
    · exact aimed
    · trivial
  · cases stepped
    dsimp only
    split
    · next chosen => exact aimed_reuseContact aimed chosen
    · exact aimed
  · next asking mailbox campaign outcome _ _ =>
      split at stepped
      · cases stepped
        exact aimed
      · next inserted =>
          cases stepped
          obtain ⟨-, -, rfl⟩ := Database.insertContact_eq_some inserted
          cases outcome with
          | failed => trivial
          | appliedButReportedFailed => trivial
          | committed =>
              change Placed _ asking _
              unfold Placed
              rw [show asking.inReplyTo = none from aimed]
              exact ⟨rfl, _, Table.get_insert_size _ _, rfl⟩
  · cases stepped
    dsimp only
    split
    · next chosen => exact aimed_reuseContact aimed chosen
    · trivial
  · split at stepped
    · cases stepped
      trivial
    · cases stepped
      trivial
    · cases stepped
      dsimp only
      split <;> trivial
  · cases stepped
    exact aimed_converge
  · obtain ⟨pending, -, rfl⟩ := Option.map_eq_some_iff.mp stepped
    trivial
  · cases stepped

/-- What is stored when a request is accepted. -/
theorem acceptOperation_eq_written
    {updated : Database}
    {placement : Placement}
    {now : Instant}
    {replyReference publicReference : String}
    (written : acceptOperation services database request placement now replyReference
      publicReference = .written updated) :
    ∃ messageId, updated.dispatches = database.dispatches.insert
        (acceptedDispatch services database request placement now messageId publicReference) ∧
      updated.contacts = database.contacts ∧
      ∀ payload, request.payload = .exact payload →
        messageId = some database.messages.size ∧
        updated.messages.get database.messages.size = some
          (createAuthorizedMessage placement.contactId payload.subject payload.body now
            replyReference) := by
  unfold acceptOperation at written
  split at written
  · next payload exact =>
      split at written
      · cases written
      next inserted insertion =>
      split at written
      · cases written
      next result stored =>
      cases written
      obtain ⟨-, rfl⟩ := Database.insertMessage_eq_some insertion
      obtain ⟨-, rfl⟩ := Database.insertDispatch_eq_some stored
      refine ⟨_, rfl, rfl, ?_⟩
      intro same exactSame
      obtain rfl := OutreachPayload.exact.inj (exact.symm.trans exactSame)
      exact ⟨rfl, Table.get_insert_size _ _⟩
  · next payload generated =>
      split at written
      · cases written
      next result stored =>
      cases written
      obtain ⟨-, rfl⟩ := Database.insertDispatch_eq_some stored
      refine ⟨_, rfl, rfl, ?_⟩
      intro other exact
      cases generated.symm.trans exact

/-- A step of a request that stores a dispatch accepts the request. -/
theorem acceptance_of_requestStep
    {clock : Instant}
    {phase : RequestPhase}
    {choice : RequestChoice}
    {move : RequestMove}
    (grown : move.database.dispatches.size ≠ database.dispatches.size)
    (stepped : requestStep deployment database clock phase choice = some move) :
    ∃ accepted placement outcome replyReference publicReference,
      phase = .accepting accepted placement ∧
      choice = .commit outcome replyReference publicReference ∧
      acceptOperation deployment.services database accepted placement clock replyReference
        publicReference = .written move.database := by
  unfold requestStep at stepped
  split at stepped
  · cases stepped
    exact absurd rfl grown
  · cases stepped
    exact absurd rfl grown
  · obtain ⟨reference, -, rfl⟩ := Option.map_eq_some_iff.mp stepped
    exact absurd rfl grown
  · cases stepped
    exact absurd rfl grown
  · cases stepped
    exact absurd rfl grown
  · next outcome _ _ =>
      split at stepped
      · cases stepped
        exact absurd rfl grown
      · next inserted =>
          cases stepped
          obtain ⟨-, rfl⟩ := Database.insertCampaign_eq_some inserted
          cases outcome <;> exact absurd rfl grown
  · cases stepped
    exact absurd rfl grown
  · cases stepped
    exact absurd rfl grown
  · next outcome _ _ =>
      split at stepped
      · cases stepped
        exact absurd rfl grown
      · next inserted =>
          cases stepped
          obtain ⟨-, -, rfl⟩ := Database.insertContact_eq_some inserted
          cases outcome <;> exact absurd rfl grown
  · cases stepped
    exact absurd rfl grown
  · next accepted placement outcome replyReference publicReference =>
      split at stepped
      · cases stepped
        exact absurd rfl grown
      · cases stepped
        exact absurd rfl grown
      · next updated written =>
          cases stepped
          refine ⟨accepted, placement, outcome, replyReference, publicReference, rfl, rfl, ?_⟩
          cases outcome with
          | failed => exact absurd rfl grown
          | committed | appliedButReportedFailed => exact written
  · cases stepped
    exact absurd rfl grown
  · obtain ⟨pending, -, rfl⟩ := Option.map_eq_some_iff.mp stepped
    exact absurd rfl grown
  · cases stepped

end Steps

end Intake
end MailerAgent
