import MailerAgent.Dispatch.Footprint
import MailerAgent.World.Generation

/-!
# What never changes

The text of a stored message and its threading headers, the subject of a message of an
integration contact and its Message-ID once it was handed over, and the address of a
mailbox are written once. Every step of every component keeps them, so they are the same
at the end of a run as when they were stored.
-/

namespace MailerAgent

open Concurrent Relational Mail Dispatch Intake Native

/-! ## The pipeline -/

section Pipeline

variable {deployment : Deployment} {before after : World} {action : Action}

/-- Every generation is prepared from the snapshot of its dispatch. -/
def Fitted (world : World) : Prop :=
  ∀ worker, (world.generators worker).Fits world.database

theorem fitted_of_reachable
    {world : World}
    (reachable : (system deployment).Reachable world) :
    Fitted world := by
  refine reachable.invariant ?_ ?_
  · rintro _ ⟨clock, rfl⟩ worker
    exact GenerationPhase.fits_idle _
  · intro before action after reached fits stepped worker
    have extended := extends_of_reaches reached (.of_step stepped)
    rcases generators_of_step stepped worker with same | idle | ⟨choice, rfl⟩
    · rw [same]
      exact (fits worker).of_extends extended
    · rw [idle]
      exact GenerationPhase.fits_idle _
    · obtain ⟨moved, made, rfl⟩ := generation_step stepped
      change (Function.update before.generators worker moved.phase worker).Fits _
      rw [Function.update_self]
      exact (fits_generationStep (fits worker) made).of_extends extended

/-- A step that is not one of a native operation edits the database. -/
theorem edits_of_step
    (invariant : Invariant deployment before)
    (fits : Fitted before)
    (stepped : before.step deployment action = some after)
    (pipeline : ∀ number stimulus, action ≠ .native number stimulus) :
    Edits before.database after.database := by
  obtain ⟨next, moved, rfl⟩ := Option.map_eq_some_iff.mp stepped
  cases action with
  | dispatch worker choice =>
      obtain ⟨move, taken, rfl⟩ := Option.map_eq_some_iff.mp moved
      exact edits_dispatchStep invariant.current.consistent (invariant.dispatchers worker) taken
  | generation worker choice =>
      obtain ⟨move, taken, rfl⟩ := Option.map_eq_some_iff.mp moved
      exact edits_generationStep (fits worker) taken
  | request number choice =>
      obtain ⟨move, taken, rfl⟩ := Option.map_eq_some_iff.mp moved
      exact edits_requestStep taken
  | sweepSends locked limit outcome =>
      obtain rfl := Option.some.inj moved
      exact edits_store outcome edits_recoverExpiredSends
  | sweepGenerations locked limit outcome =>
      obtain rfl := Option.some.inj moved
      exact edits_store outcome edits_recoverExpiredGenerationRows
  | requestShutdown | resume | drain | crash | stop | setClock =>
      obtain rfl := Option.some.inj moved
      exact .refl
  | resolve process outcome =>
      simp only [World.move] at moved
      split at moved
      · cases moved
      · obtain rfl := Option.some.inj moved
        exact edits_elim outcome fun _ => edits_finishExternalDispatch
  | start number operation =>
      simp only [World.move] at moved
      split at moved
      · cases moved
      · obtain rfl := Option.some.inj moved
        exact .refl
  | native number stimulus => exact absurd rfl (pipeline number stimulus)

end Pipeline

/-! ## Letters -/

/-- The columns of a message that are written once. -/
structure SameText (before after : Message) : Prop where
  body : after.body = before.body
  inReplyToHeader : after.inReplyToHeader = before.inReplyToHeader
  referencesHeader : after.referencesHeader = before.referencesHeader
  replyReference : after.replyReference = before.replyReference

theorem SameText.refl (message : Message) : SameText message message :=
  ⟨rfl, rfl, rfl, rfl⟩

theorem SameText.trans
    (first second third : Message)
    (left : SameText first second)
    (right : SameText second third) :
    SameText first third :=
  ⟨right.body.trans left.body, right.inReplyToHeader.trans left.inReplyToHeader,
    right.referencesHeader.trans left.referencesHeader,
    right.replyReference.trans left.replyReference⟩

/-- What is fixed of a message of an integration contact besides. -/
structure SameSend (before after : Message) : Prop where
  subject : after.subject = before.subject
  stamped : before.status ≠ .draft →
    after.status ≠ .draft ∧ after.messageIdHeader = before.messageIdHeader

theorem SameSend.refl (message : Message) : SameSend message message :=
  ⟨rfl, fun handed => ⟨handed, rfl⟩⟩

theorem SameSend.trans
    {first second third : Message}
    (left : SameSend first second)
    (right : SameSend second third) :
    SameSend first third where
  subject := right.subject.trans left.subject
  stamped handed := by
    obtain ⟨between, earlier⟩ := left.stamped handed
    obtain ⟨last, later⟩ := right.stamped between
    exact ⟨last, later.trans earlier⟩

/-- A mailbox keeps its address. -/
def SameAddress (before after : Mailbox) : Prop :=
  after.emailAddress = before.emailAddress

theorem SameAddress.refl (mailbox : Mailbox) : SameAddress mailbox mailbox :=
  Eq.refl mailbox.emailAddress

/-- What is written once stays. -/
structure Letters (before after : Database) : Prop where
  texts : Table.Extends SameText before.messages after.messages
  sends : ∀ key message, before.messages.get key = some message →
    before.managedMessage message →
    ∃ kept, after.messages.get key = some kept ∧ SameSend message kept
  addresses : Table.Extends SameAddress before.mailboxes after.mailboxes

namespace Letters

theorem refl (database : Database) : Letters database database where
  texts := .refl SameText.refl _
  sends _ message found _ := ⟨message, found, .refl message⟩
  addresses := .refl SameAddress.refl _

theorem trans
    {before middle after : Database}
    (wellFormed : before.WellFormed)
    (extended : before.Extends middle)
    (left : Letters before middle)
    (right : Letters middle after) :
    Letters before after where
  texts := left.texts.trans SameText.trans right.texts
  sends key message found managed := by
    obtain ⟨between, foundBetween, first⟩ := left.sends key message found managed
    obtain ⟨same, foundSame, keeps⟩ := extended.messages key message found
    obtain rfl : same = between := Option.some.inj (foundSame.symm.trans foundBetween)
    obtain ⟨kept, foundKept, last⟩ := right.sends key same foundSame
      (extended.managedMessage wellFormed keeps managed)
    exact ⟨kept, foundKept, first.trans last⟩
  addresses := left.addresses.trans
    (fun _ _ _ first second => Eq.trans second first) right.addresses

/-- A step that touches neither messages nor mailboxes. -/
theorem of_same
    {before after : Database}
    (messages : after.messages = before.messages)
    (mailboxes : after.mailboxes = before.mailboxes) :
    Letters before after where
  texts := by
    rw [messages]
    exact .refl SameText.refl _
  sends key message found _ := ⟨message, by rw [messages]; exact found, .refl message⟩
  addresses := by
    rw [mailboxes]
    exact .refl SameAddress.refl _

/-- Rewriting one message. -/
theorem modifyMessage
    {database : Database}
    {key : Nat}
    {change : Message → Message}
    (text : ∀ row, SameText row (change row))
    (send : ∀ row, database.messages.get key = some row → database.managedMessage row →
      SameSend row (change row)) :
    Letters database (database.modifyMessage key change) where
  texts := .modify SameText.refl fun row _ => text row
  sends position row found managed := by
    unfold Database.modifyMessage
    by_cases here : position = key
    · subst here
      exact ⟨change row, by rw [Table.get_modify_self, found]; rfl, send row found managed⟩
    · refine ⟨row, ?_, .refl row⟩
      rw [Table.get_modify_of_ne _ _ here]
      exact found
  addresses := .refl SameAddress.refl _

theorem of_edits
    {before after : Database}
    (edits : Edits before after) :
    Letters before after where
  texts key message found := by
    obtain ⟨kept, foundKept, same⟩ := edits.letters key message found
    exact ⟨kept, foundKept, same.body, same.inReplyToHeader, same.referencesHeader,
      same.replyReference⟩
  sends key message found _ := by
    obtain ⟨kept, foundKept, same⟩ := edits.letters key message found
    exact ⟨kept, foundKept, same.subject, same.stamped⟩
  addresses := by
    rw [edits.untouched.1]
    exact .refl SameAddress.refl _

end Letters

/-! ## Native operations -/

section Native

variable {base view result : Database} {earlier : List Change}

/-- A permitted change keeps the letters. Only an approval rewrites a subject, and it is
for the draft of a native contact. -/
theorem letters_of_permitted
    {change : Change}
    (reached : base.Extends view)
    (permitted : Permitted base earlier change)
    (applied : change.apply view = some result) :
    Letters view result := by
  cases change with
  | insertCampaign row =>
      obtain ⟨-, rfl⟩ := Database.insertCampaign_eq_some applied
      exact .of_same rfl rfl
  | insertContact row =>
      obtain ⟨-, -, rfl⟩ := Database.insertContact_eq_some applied
      exact .of_same rfl rfl
  | insertMessage row =>
      obtain ⟨-, rfl⟩ := Database.insertMessage_eq_some applied
      exact
        { texts := .insert SameText.refl _ _
          sends := fun key message found _ =>
            ⟨message, Table.get_insert_of_get found row, .refl message⟩
          addresses := .refl SameAddress.refl _ }
  | insertSuppression row =>
      obtain ⟨-, rfl⟩ := Database.insertSuppression_eq_some applied
      exact .of_same rfl rfl
  | insertMailbox row =>
      obtain ⟨-, -, rfl⟩ := Database.insertMailbox_eq_some applied
      exact
        { texts := .refl SameText.refl _
          sends := fun _ message found _ => ⟨message, found, .refl message⟩
          addresses := .insert SameAddress.refl _ _ }
  | insertUnmatched row =>
      obtain ⟨-, -, rfl⟩ := Database.insertUnmatched_eq_some applied
      exact .of_same rfl rfl
  | updateContact key patch =>
      obtain rfl := Option.some.inj applied
      exact .of_same rfl rfl
  | recordSend key record =>
      obtain ⟨rfl, -⟩ := Database.updateMessage_eq_some applied
      obtain ⟨message, found, -, email, organization, native⟩ := permitted
      obtain ⟨kept, foundKept, keeps⟩ := reached.messages key message found
      refine .modifyMessage (fun _ => ⟨rfl, rfl, rfl, rfl⟩) ?_
      rintro row foundRow ⟨contact, foundContact, managed⟩
      obtain rfl : row = kept := Option.some.inj (foundRow.symm.trans foundKept)
      rw [keeps.contactId] at foundContact
      rw [(native.of_extends reached).not_managed foundContact] at managed
      cases managed
  | interpretMessage contactId reference interpretation =>
      obtain rfl := Option.some.inj applied
      cases messageByReference view contactId reference with
      | none => exact .refl view
      | some key =>
          exact .modifyMessage (fun _ => ⟨rfl, rfl, rfl, rfl⟩)
            fun _ _ _ => ⟨rfl, fun handed => ⟨handed, rfl⟩⟩
  | updateMailbox key patch =>
      obtain rfl := Option.some.inj applied
      exact
        { texts := .refl SameText.refl _
          sends := fun _ message found _ => ⟨message, found, .refl message⟩
          addresses := .modify SameAddress.refl fun _ _ => rfl }
  | resolveRetained mailboxId identity resolvedAt =>
      obtain rfl := Option.some.inj applied
      cases unresolvedRetained view mailboxId identity with
      | none => exact .refl view
      | some key => exact .of_same rfl rfl

theorem letters_of_permittedAll
    {store : Database}
    {writes : List Change}
    (reached : Later base view)
    (seen : applyAll Change.apply store earlier = some view)
    (permitted : contract.PermittedAll base earlier writes)
    (applied : applyAll Change.apply view writes = some result) :
    Letters view result := by
  induction writes generalizing earlier view with
  | nil =>
      cases applied
      exact .refl _
  | cons write writes inductionHypothesis =>
      obtain ⟨middle, first, rest⟩ := Option.bind_eq_some_iff.mp applied
      have step : Later view middle := permitted_advances reached seen permitted.1 first
      have letters := letters_of_permitted reached.extended permitted.1 first
      refine letters.trans reached.consistent.toWellFormed step.extended
        (inductionHypothesis (reached.trans step) ?_ permitted.2 rest)
      rw [applyAll_append, seen]
      simp [applyAll, first]

end Native

/-! ## Runs -/

section Runs

variable {deployment : Deployment} {before after world final : World} {action : Action}

theorem letters_of_step
    (reachable : (system deployment).Reachable before)
    (stepped : before.step deployment action = some after) :
    Letters before.database after.database := by
  have invariant := Invariant.of_reachable reachable
  by_cases isNative : ∃ number stimulus, action = .native number stimulus
  · obtain ⟨number, stimulus, rfl⟩ := isNative
    obtain ⟨next, moved, rfl⟩ := Option.map_eq_some_iff.mp stepped
    obtain ⟨running, started, rest⟩ := Option.bind_eq_some_iff.mp moved
    obtain ⟨⟨store, thread, asked⟩, advanced, rfl⟩ := Option.map_eq_some_iff.mp rest
    obtain ⟨base, later, permitted, -⟩ := (invariant.natives number running started).1.safe
    rcases Thread.step_store advanced with same | applied
    · rw [show store = before.database from same]
      exact .refl _
    · exact letters_of_permittedAll later rfl permitted applied
  · refine .of_edits (edits_of_step invariant (fitted_of_reachable reachable) stepped ?_)
    rintro number stimulus rfl
    exact isNative ⟨number, stimulus, rfl⟩

theorem letters_of_reaches
    (reachable : (system deployment).Reachable world)
    (reaches : (system deployment).Reaches world final) :
    Letters world.database final.database := by
  have wellFormed := (Invariant.of_reachable reachable).current.consistent.toWellFormed
  suffices both : world.database.Extends final.database ∧
      Letters world.database final.database from both.2
  refine reaches.invariant
    (fun state => world.database.Extends state.database ∧
      Letters world.database state.database)
    reachable ⟨.refl _, .refl _⟩ ?_
  rintro state action next reached ⟨extended, letters⟩ stepped
  exact ⟨extended.trans (extends_of_reaches reached (.of_step stepped)),
    letters.trans wellFormed extended (letters_of_step reached stepped)⟩

end Runs
end MailerAgent
