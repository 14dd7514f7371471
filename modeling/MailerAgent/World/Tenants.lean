import MailerAgent.Native.Correlation
import MailerAgent.World.Suppression

/-!
# Noninterference between organizations

An inbound handler acts for one organization. On two states of the program that agree
on the rows of this organization it behaves alike, up to the keys of new rows: it
returns the same, and the same changes to rows of the organization are made. A poll of
a mailbox satisfies this without exception. The webhook stores messages without a
mailbox, whose Message-IDs are unique across all organizations.
-/

namespace MailerAgent

open Concurrent Relational Mail Dispatch Intake Native

/-- The changes that touch only rows of an organization. -/
def Native.Change.BelongsTo
    (database : Database)
    (organization : String) : Change → Prop
  | .insertMessage row => inOrganization database (some organization) row = true
  | .insertSuppression row => row.organizationId = some organization
  | .insertUnmatched row => row.organizationId = organization
  | .updateContact key _ =>
      (database.contacts.get key).any (database.owns organization) = true
  | .interpretMessage contactId _ _ =>
      (database.contacts.get contactId).any (database.owns organization) = true
  | .resolveRetained mailboxId _ _ =>
      (database.mailboxes.get mailboxId).any (fun mailbox =>
        mailbox.organizationId == organization) = true
  | _ => False

theorem Native.Change.Within.belongsTo
    {left right : Database}
    {organization : String}
    {change : Change}
    (within : change.Within (left.scope right organization)) :
    change.BelongsTo left organization := by
  cases change with
  | insertMessage row => exact within.1
  | insertSuppression row => exact within
  | insertUnmatched row => exact within.2
  | updateContact key patch => exact within
  | interpretMessage contactId reference interpretation => exact within
  | resolveRetained mailboxId identity resolvedAt => exact within
  | _ => exact within.elim

/-- The environment of a handler: what the language model answers is determined by its
prompt. -/
abbrev Surroundings := Environment Signal Prompt Signal.Reply

/-- Random handles and Message-IDs are not in use. -/
structure FreshTokens
    (settings : Settings)
    (surroundings : Surroundings)
    (database : Database) : Prop where
  references : ∀ position prompt,
    database.referenceTaken (surroundings.answer position .newReference prompt) = false
  identities : ∀ position origin contactId arguments prompt result identity,
    SendBehaviour.report settings arguments
        (surroundings.answer position (.sendEmail origin contactId arguments) prompt) =
      .returned result →
    result.messageId = some identity → database.identityTaken identity = false

theorem FreshTokens.admitted
    {settings : Settings}
    {surroundings : Surroundings}
    {left right : Database}
    (freshLeft : FreshTokens settings surroundings left)
    (freshRight : FreshTokens settings surroundings right)
    (organization : String)
    (position : Nat)
    (signal : Signal)
    (prompt : Option Prompt) :
    (tenancy settings (left.scope right organization)).admits signal
      (surroundings.answer position signal prompt) := by
  cases signal with
  | newReference =>
      exact (freshLeft.references position prompt).trans
        (freshRight.references position prompt).symm
  | sendEmail origin contactId arguments =>
      intro result identity reported present
      exact (freshLeft.identities _ _ _ _ _ result identity reported present).trans
        (freshRight.identities _ _ _ _ _ result identity reported present).symm
  | _ => trivial

/-- `process_mailbox_inbound` on a state of the database. -/
def mailboxInbound
    (deployment : Deployment)
    (surroundings : Surroundings)
    (mailboxId : Nat)
    (organization : String)
    (email : InboundEmail)
    (database : Database) :
    Outcome Database Change Signal (Except Failure InboundResult × List Change) :=
  Process.alone Change.apply Signal.prompt surroundings
    (processMailboxInbound deployment mailboxId organization email []) 0 database {}

/-- `process_inbound_email_v2` for an organization on a state of the database, and the
commit of its caller. -/
def webhookInbound
    (deployment : Deployment)
    (surroundings : Surroundings)
    (organization : String)
    (payload : InboundEmail)
    (database : Database) :
    Outcome Database Change Signal (Except Failure InboundResult × List Change) :=
  Process.alone Change.apply Signal.prompt surroundings
    (receiveInboundEmail deployment organization payload []) 0 database {}

namespace Sample

/-- An organization with a campaign, a mailbox and a contact. -/
def tenant : List Action :=
  perform 0 (.createCampaign "acme" campaign) answer 3 ++
    perform 1 (.createMailbox "acme" polledMailbox) answer 6 ++
    perform 2 (.ingestLeads "acme" 0 [[("email", .text "p@x.test")]]) answer 6

/-- Another organization, which receives a letter from its own contact. -/
def neighbour : List Action :=
  perform 3 (.createCampaign "other" campaign) answer 3 ++
    perform 4 (.ingestLeads "other" 1 [[("email", .text "q@x.test")]]) answer 6 ++
    perform 5 (.receiveInboundEmail "other" (letter "q@x.test" "<m@x.test>"))
      (understands [.outOfOffice]) 15

/-- An environment with a new handle and no mail server. -/
def surroundings : Surroundings where
  answer _
    | .newReference, _ => "fresh"
    | .sendEmail _ _ _, _ => .raises "no server"
    | signal, _ => understands [.outOfOffice] signal

theorem fresh_surroundings
    {database : Database}
    (unused : database.referenceTaken "fresh" = false) :
    FreshTokens Sample.deployment.settings surroundings database where
  references _ _ := unused
  identities _ _ _ _ _ _ _ reported _ := by cases reported

theorem ok_of_toOption
    {Value : Type}
    {result : Except Failure Value}
    {value : Value}
    (present : result.toOption = some value) :
    result = .ok value := by
  cases result with
  | error failure => cases present
  | ok other => exact congrArg Except.ok (Option.some.inj present)

/-- The organization alone, and with its neighbour. -/
theorem exists_neighbours
    (property : Database → Database → Bool)
    (holds : ((system Sample.deployment).run {} tenant).any (fun left =>
      ((system Sample.deployment).run left neighbour).any fun right =>
        decide (Database.AgreeOn "acme" left.database right.database) &&
          !left.database.referenceTaken "fresh" && !right.database.referenceTaken "fresh" &&
          property left.database right.database) = true) :
    ∃ left right, (system Sample.deployment).Reachable left ∧
      (system Sample.deployment).Reachable right ∧
      Database.AgreeOn "acme" left.database right.database ∧
      FreshTokens Sample.deployment.settings surroundings left.database ∧
      FreshTokens Sample.deployment.settings surroundings right.database ∧
      property left.database right.database = true := by
  obtain ⟨left, reachable, ran⟩ := reachable_of_any Sample.deployment tenant _ holds
  obtain ⟨right, reaches, checked⟩ := Transition.System.exists_reaches_of_run ran
  simp only [Bool.and_eq_true, decide_eq_true_eq, Bool.not_eq_true'] at checked
  obtain ⟨⟨⟨agree, unusedLeft⟩, unusedRight⟩, further⟩ := checked
  exact ⟨left, right, reachable, reachable.reaches reaches, agree,
    fresh_surroundings unusedLeft, fresh_surroundings unusedRight, further⟩

end Sample

/-- For every mailbox of an organization and every inbound message, two reachable states
that agree on the organization's rows give the same result and the same writes, all of
them to rows of the organization; and every message received through the mailbox belongs
to a contact of the organization. -/
theorem mailbox_noninterference
    (deployment : Deployment)
    (left right : World)
    (reachableLeft : (system deployment).Reachable left)
    (reachableRight : (system deployment).Reachable right)
    (mailboxId : Nat)
    (mailbox : Mailbox)
    (found : left.database.mailboxes.get mailboxId = some mailbox)
    (agree : Database.AgreeOn mailbox.organizationId left.database right.database)
    (email : InboundEmail)
    (surroundings : Surroundings)
    (freshLeft : FreshTokens deployment.settings surroundings left.database)
    (freshRight : FreshTokens deployment.settings surroundings right.database) :
    let first := mailboxInbound deployment surroundings mailboxId mailbox.organizationId email
      left.database
    let second := mailboxInbound deployment surroundings mailboxId mailbox.organizationId email
      right.database
    second.value = first.value ∧ second.session = first.session ∧
      second.trace = first.trace ∧
      first.store = left.database ∧ second.store = right.database ∧
      (∀ change ∈ first.session.writes ++ first.value.2,
        change.BelongsTo left.database mailbox.organizationId) ∧
      ∀ key message, left.database.messages.get key = some message →
        message.mailboxId = some mailboxId →
        ∃ contact, left.database.contacts.get message.contactId = some contact ∧
          left.database.organizationOf contact = some mailbox.organizationId := by
  have soundLeft := (Invariant.of_reachable reachableLeft).current.inbox
  have soundRight := (Invariant.of_reachable reachableRight).current.inbox
  have inside : (left.database.scope right.database mailbox.organizationId).mailboxes
      mailboxId = true := by
    refine (Option.any_eq_true _ _).mpr ⟨mailbox, found, beq_self_eq_true _⟩
  have paired := paired_processMailboxInbound deployment agree
    (agree.matched soundLeft soundRight) inside email [] ⟨left.database, right.database, {}⟩
    ⟨rfl, rfl, rfl, rfl⟩
  have together := paired.together
    (freshLeft.admitted freshRight mailbox.organizationId) 0 (.of_empty _ _ _)
  obtain ⟨level, -⟩ := together.ensures
  refine ⟨together.value, together.session, together.trace, level.left, level.right, ?_, ?_⟩
  · intro change member
    rcases List.mem_append.mp member with written | waiting
    · exact (level.written change written).belongsTo
    · exact (level.within change waiting).belongsTo
  · intro key message stored bound
    obtain ⟨-, other, contact, foundMailbox, foundContact, owner⟩ :=
      soundLeft.delivered key message mailboxId stored bound
    rw [found] at foundMailbox
    cases foundMailbox
    exact ⟨contact, foundContact, owner⟩

/-- A neighbour holds a message with the same Message-ID; the poll stores the letter
all the same. -/
theorem mailbox_noninterference_of_shared_identity :
    ∃ left right, (system Sample.deployment).Reachable left ∧
      (system Sample.deployment).Reachable right ∧
      left.database.identityTaken "<m@x.test>" = false ∧
      right.database.identityTaken "<m@x.test>" = true ∧
      (mailboxInbound Sample.deployment Sample.surroundings 0 "acme"
        (Sample.letter "p@x.test" "<m@x.test>") left.database).value.1 =
          .ok (.matched 0 .ignoredOos) ∧
      (mailboxInbound Sample.deployment Sample.surroundings 0 "acme"
        (Sample.letter "p@x.test" "<m@x.test>") right.database).value.1 =
          .ok (.matched 0 .ignoredOos) := by
  obtain ⟨left, right, reachableLeft, reachableRight, agree, freshLeft, freshRight, holds⟩ :=
    Sample.exists_neighbours
      (fun left right =>
        (left.mailboxes.get 0).any (fun mailbox => mailbox.organizationId == "acme") &&
          !left.identityTaken "<m@x.test>" && right.identityTaken "<m@x.test>" &&
          (mailboxInbound Sample.deployment Sample.surroundings 0 "acme"
            (Sample.letter "p@x.test" "<m@x.test>") left).value.1.toOption ==
              some (.matched 0 .ignoredOos)) (by decide +kernel)
  simp only [Bool.and_eq_true, Bool.not_eq_true', Option.any_eq_true, beq_iff_eq] at holds
  obtain ⟨⟨⟨⟨mailbox, found, owner⟩, free⟩, taken⟩, result⟩ := holds
  have same := mailbox_noninterference Sample.deployment left right reachableLeft
    reachableRight 0 mailbox found (owner ▸ agree) (Sample.letter "p@x.test" "<m@x.test>")
    Sample.surroundings freshLeft freshRight
  rw [owner] at same
  have onLeft := Sample.ok_of_toOption result
  exact ⟨left, right, reachableLeft, reachableRight, free, taken, onLeft,
    (congrArg Prod.fst same.1).trans onLeft⟩

/-- For every organization and every payload, two reachable states that agree on the
organization's rows, and on whether a message without a mailbox has the payload's
Message-ID, give the same result; and either nothing is stored on both, or the same
changes to rows of the organization. -/
theorem webhook_noninterference
    (deployment : Deployment)
    (left right : World)
    (reachableLeft : (system deployment).Reachable left)
    (reachableRight : (system deployment).Reachable right)
    (organization : String)
    (agree : Database.AgreeOn organization left.database right.database)
    (payload : InboundEmail)
    (shared : ∀ identity, payload.normalized.messageId = some identity →
      left.database.identityTaken identity = right.database.identityTaken identity)
    (surroundings : Surroundings)
    (freshLeft : FreshTokens deployment.settings surroundings left.database)
    (freshRight : FreshTokens deployment.settings surroundings right.database) :
    let first := webhookInbound deployment surroundings organization payload left.database
    let second := webhookInbound deployment surroundings organization payload right.database
    second.value = first.value ∧ second.trace = first.trace ∧
      (first.store = left.database ∧ second.store = right.database ∨
        ∃ writes, (∀ change ∈ writes, change.BelongsTo left.database organization) ∧
          applyAll Change.apply left.database writes = some first.store ∧
          applyAll Change.apply right.database writes = some second.store) := by
  have soundLeft := (Invariant.of_reachable reachableLeft).current.inbox
  have soundRight := (Invariant.of_reachable reachableRight).current.inbox
  have paired := paired_receiveInboundEmail deployment agree
    (agree.matched soundLeft soundRight) shared [] ⟨left.database, right.database, {}⟩
    ⟨rfl, rfl, rfl, rfl⟩
  have together := paired.together
    (freshLeft.admitted freshRight organization) 0 (.of_empty _ _ _)
  obtain ⟨ended, -⟩ := together.ensures
  refine ⟨together.value, together.trace, ?_⟩
  rcases ended with unchanged | ⟨writes, within, onLeft, onRight⟩
  · exact .inl unchanged
  · exact .inr ⟨writes, fun change member => (within change member).belongsTo, onLeft, onRight⟩

/-- A letter with a Message-ID of its own is stored, whatever the neighbour holds. -/
theorem webhook_noninterference_of_own_identity :
    ∃ left right, (system Sample.deployment).Reachable left ∧
      (system Sample.deployment).Reachable right ∧
      (webhookInbound Sample.deployment Sample.surroundings "acme"
        (Sample.letter "p@x.test" "<n@x.test>") left.database).value.1 =
          .ok (.matched 0 .ignoredOos) ∧
      (webhookInbound Sample.deployment Sample.surroundings "acme"
        (Sample.letter "p@x.test" "<n@x.test>") right.database).value.1 =
          .ok (.matched 0 .ignoredOos) := by
  obtain ⟨left, right, reachableLeft, reachableRight, agree, freshLeft, freshRight, holds⟩ :=
    Sample.exists_neighbours
      (fun left right =>
        !left.identityTaken "<n@x.test>" && !right.identityTaken "<n@x.test>" &&
          (webhookInbound Sample.deployment Sample.surroundings "acme"
            (Sample.letter "p@x.test" "<n@x.test>") left).value.1.toOption ==
              some (.matched 0 .ignoredOos)) (by decide +kernel)
  simp only [Bool.and_eq_true, Bool.not_eq_true', beq_iff_eq] at holds
  obtain ⟨⟨freeLeft, freeRight⟩, result⟩ := holds
  have named : (Sample.letter "p@x.test" "<n@x.test>").normalized.messageId =
      some "<n@x.test>" := by decide +kernel
  have shared : ∀ identity,
      (Sample.letter "p@x.test" "<n@x.test>").normalized.messageId = some identity →
      left.database.identityTaken identity = right.database.identityTaken identity := by
    intro identity present
    rw [named] at present
    cases present
    exact freeLeft.trans freeRight.symm
  have same := webhook_noninterference Sample.deployment left right reachableLeft
    reachableRight "acme" agree (Sample.letter "p@x.test" "<n@x.test>")
    shared Sample.surroundings freshLeft freshRight
  have onLeft := Sample.ok_of_toOption result
  exact ⟨left, right, reachableLeft, reachableRight, onLeft,
    (congrArg Prod.fst same.1).trans onLeft⟩

/-- The states agree on the organization; because another organization holds a message
with the Message-ID, the letter of the organization's contact is dropped on one of
them. -/
theorem webhook_reply_dropped :
    ∃ left right, (system Sample.deployment).Reachable left ∧
      (system Sample.deployment).Reachable right ∧
      Database.AgreeOn "acme" left.database right.database ∧
      FreshTokens Sample.deployment.settings Sample.surroundings left.database ∧
      FreshTokens Sample.deployment.settings Sample.surroundings right.database ∧
      (webhookInbound Sample.deployment Sample.surroundings "acme"
        (Sample.letter "p@x.test" "<m@x.test>") left.database).value.1 =
          .ok (.matched 0 .ignoredOos) ∧
      (webhookInbound Sample.deployment Sample.surroundings "acme"
        (Sample.letter "p@x.test" "<m@x.test>") right.database).value.1 =
          .ok (.unmatched .noMatch) ∧
      (webhookInbound Sample.deployment Sample.surroundings "acme"
        (Sample.letter "p@x.test" "<m@x.test>") right.database).store = right.database := by
  obtain ⟨left, right, reachableLeft, reachableRight, agree, freshLeft, freshRight, holds⟩ :=
    Sample.exists_neighbours
      (fun left right =>
        (webhookInbound Sample.deployment Sample.surroundings "acme"
          (Sample.letter "p@x.test" "<m@x.test>") left).value.1.toOption ==
            some (.matched 0 .ignoredOos) &&
        (webhookInbound Sample.deployment Sample.surroundings "acme"
          (Sample.letter "p@x.test" "<m@x.test>") right).value.1.toOption ==
            some (.unmatched .noMatch) &&
        (webhookInbound Sample.deployment Sample.surroundings "acme"
          (Sample.letter "p@x.test" "<m@x.test>") right).store == right) (by decide +kernel)
  simp only [Bool.and_eq_true, beq_iff_eq] at holds
  obtain ⟨⟨onLeft, onRight⟩, unchanged⟩ := holds
  exact ⟨left, right, reachableLeft, reachableRight, agree, freshLeft, freshRight,
    Sample.ok_of_toOption onLeft, Sample.ok_of_toOption onRight, unchanged⟩

end MailerAgent
