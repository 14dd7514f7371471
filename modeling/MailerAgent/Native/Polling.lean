import MailerAgent.Native.Inbound

/-!
# Polling of mailboxes

`process_mailbox_inbound` of `mail/reply_handler_v2.py`, the drain loop of
`mail/imap_reader.py` and the poll of `mail/mailbox_inbound.py`. Every message is
handled in a session of its own; the Seen flag is stored only after the handler
returned, that is after its commit.
-/

namespace MailerAgent
namespace Native

open Relational Mail Program

/-! ## One message -/

/-- The identity of a message received through a mailbox. -/
def inboundIdentity (email : InboundEmail) : Option String :=
  (truthy email.messageId).or (truthy email.syntheticId)

/-- A message that the tenant received through a mailbox under an identity. -/
def isInboundMessage
    (view : Database)
    (mailboxId : Nat)
    (organizationId identity : String)
    (message : Message) : Bool :=
  message.mailboxId == some mailboxId && message.messageIdHeader == some identity &&
    message.direction == .inbound && inOrganization view (some organizationId) message

/-- `_find_inbound_message`. -/
def findInboundMessage
    (mailboxId : Nat)
    (organizationId identity : String)
    (view : Database) : Option Message :=
  (view.messages.firstWhere (isInboundMessage view mailboxId organizationId identity)).bind
    view.messages.get

/-- The stored messages that a message refers to, inside the organization. -/
def referredMessages
    (organizationId : String)
    (email : InboundEmail)
    (view : Database) : List (Nat × Message) :=
  (view.messages.keysWhere fun message =>
      message.messageIdHeader.any (fun header =>
        ((threadReferences email).filter fun id => !isSyntheticId (some id)).contains header &&
          !isSyntheticId (some header)) &&
        inOrganization view (some organizationId) message).filterMap fun key =>
    (view.messages.get key).map fun message => (key, message)

/-- The mailbox of the dispatch that produced a message, if any did. -/
def dispatchMailbox
    (organizationId : String)
    (messageId : Nat)
    (view : Database) : Option (Option Nat) :=
  (view.dispatches.firstWhere fun dispatch =>
      dispatch.messageId == some messageId && dispatch.organizationId == organizationId).bind
    fun key => (view.dispatches.get key).map ExternalDispatch.mailboxId

/-- The contacts of the referred messages that belong to the polled mailbox. -/
def eligibleContacts
    (mailboxId : Nat)
    (organizationId : String) :
    List (Nat × Message) → Program (List Nat)
  | [] => pure []
  | (key, message) :: rest => do
      let eligible ←
        if message.direction = .inbound then pure (message.mailboxId == some mailboxId)
        else do
          let dispatched ← query (dispatchMailbox organizationId key)
          pure (dispatched.all fun mailbox => mailbox == some mailboxId)
      let others ← eligibleContacts mailboxId organizationId rest
      pure (if eligible then message.contactId :: others else others)

/-- The non-suppressed contacts of an organization with an address. -/
def contactsBySender
    (services : Services)
    (organizationId : String)
    (fromEmail : String)
    (view : Database) : List Nat :=
  view.contacts.keysWhere fun contact =>
    view.organizationOf contact == some organizationId &&
      services.sqlLower contact.email == fromEmail && contact.status != .suppressed

/-- The only one of several candidates. -/
def soleCandidate : List Nat → Except UnmatchedReason Nat
  | [] => .error .noMatch
  | [only] => .ok only
  | _ => .error .ambiguous

/-- `_correlate_mailbox_inbound` once the messages of the thread are known. -/
def correlateReferred
    (deployment : Deployment)
    (mailboxId : Nat)
    (organizationId : String)
    (email : InboundEmail)
    (referred : List (Nat × Message)) : Program (Except UnmatchedReason Nat) := do
  let threads ← eligibleContacts mailboxId organizationId referred
  match threads.eraseDups with
  | [only] => pure (.ok only)
  | _ :: _ :: _ => pure (.error .ambiguous)
  | [] =>
      if email.fromEmail = "" then pure (.error .noMatch)
      else do
        let senders ←
          query (contactsBySender deployment.services organizationId email.fromEmail)
        pure (soleCandidate senders)

/-- `_correlate_mailbox_inbound`. -/
def correlateMailboxInbound
    (deployment : Deployment)
    (mailboxId : Nat)
    (organizationId : String)
    (email : InboundEmail) : Program (Except UnmatchedReason Nat) := do
  let referred ←
    if ((threadReferences email).filter fun id => !isSyntheticId (some id)) = [] then pure []
    else query (referredMessages organizationId email)
  correlateReferred deployment mailboxId organizationId email referred

theorem correlateMailboxInbound_eq
    (deployment : Deployment)
    (mailboxId : Nat)
    (organizationId : String)
    (email : InboundEmail) :
    correlateMailboxInbound deployment mailboxId organizationId email =
      if ((threadReferences email).filter fun id => !isSyntheticId (some id)) = [] then
        pure [] >>= correlateReferred deployment mailboxId organizationId email
      else
        query (referredMessages organizationId email) >>=
          correlateReferred deployment mailboxId organizationId email := rfl

/-- `_insert_correlated_message`; the result says whether the row is new. -/
def insertCorrelatedMessage
    (mailboxId : Nat)
    (organizationId identity : String)
    (row : Message) : Program (Option Message) := do
  let taken ← execute
    (fun view =>
      if view.messages.clashes Message.mailboxIdentity row then [] else [.insertMessage row])
    (fun view => view.messages.clashes Message.mailboxIdentity row)
  if taken then do
    match ← query (findInboundMessage mailboxId organizationId identity) with
    | some existing => pure (some existing)
    | none => raise (.raised "MessagePersistenceNotConfirmedError")
  else do
    query fun _ => ()
    pure none

/-- The retained copy of a message that was not attached to a contact. -/
def retainedMessage
    (mailboxId : Nat)
    (organizationId identity : String)
    (email : InboundEmail)
    (reason : UnmatchedReason) : UnmatchedInboundMessage where
  mailboxId := mailboxId
  organizationId := organizationId
  messageIdHeader := identity
  reason := reason.value
  fromEmail := some email.fromEmail
  subject := some email.subject
  body := email.bodyText
  inReplyToHeader := email.inReplyTo
  referencesHeader := referencesText email.references

/-- `_retained_row_exists`. -/
def retainedRowExists
    (mailboxId : Nat)
    (organizationId identity : String)
    (view : Database) : Bool :=
  view.unmatched.existsWhere fun row =>
    row.mailboxId == mailboxId && row.messageIdHeader == identity &&
      row.organizationId == organizationId

/-- `_retain_unmatched`. -/
def retainUnmatched (row : UnmatchedInboundMessage) : Program Unit := do
  execute
    (fun view =>
      if view.unmatched.clashes UnmatchedInboundMessage.mailboxIdentity row then []
      else [.insertUnmatched row])
    (fun _ => ())
  let retained ←
    query (retainedRowExists row.mailboxId row.organizationId row.messageIdHeader)
  if retained then pure () else raise (.raised "RetentionNotConfirmedError")

/-- Whether a message is retained and not resolved. -/
def hasUnresolvedCopy
    (mailboxId : Nat)
    (identity : String)
    (view : Database) : Bool :=
  view.unmatched.existsWhere fun row =>
    row.mailboxId == mailboxId && row.messageIdHeader == identity && row.resolvedAt.isNone

/-- The `UPDATE` that marks the retained copy of an attached message as resolved. It is
about the rows that exist when it runs. -/
def resolveRetainedCopy
    (mailboxId : Nat)
    (identity : String)
    (now : Instant) :
    Program Unit :=
  execute
    (fun view =>
      if hasUnresolvedCopy mailboxId identity view then
        [.resolveRetained mailboxId identity now]
      else [])
    (fun _ => ())

/-- A message that was correlated with a contact. -/
def storeCorrelated
    (deployment : Deployment)
    (mailboxId : Nat)
    (organizationId identity : String)
    (email : InboundEmail)
    (key : Nat) : Program InboundResult := do
  let contact ← required (← loadContact key)
  let campaign ← loadCampaign contact
  let reference ← ask .newReference
  let createdAt ← utcnow
  let row :=
    inboundMessage key (some mailboxId) (some identity) email createdAt reference
  match ← insertCorrelatedMessage mailboxId organizationId identity row with
  | some existing => pure (.matched existing.contactId .skippedDuplicate)
  | none => do
      let now ← utcnow
      resolveRetainedCopy mailboxId identity now
      let action ← classifyAndApplyInbound deployment key contact campaign email reference
      pure (.matched key action)

/-- `process_mailbox_inbound`. -/
def processMailboxInbound
    (deployment : Deployment)
    (mailboxId : Nat)
    (organizationId : String)
    (received : InboundEmail) : Program InboundResult := do
  let email := received.normalized
  match inboundIdentity email with
  | none => raise (.raised "ValueError")
  | some identity =>
      match ← query (findInboundMessage mailboxId organizationId identity) with
      | some existing => pure (.matched existing.contactId .skippedDuplicate)
      | none =>
          match ← correlateMailboxInbound deployment mailboxId organizationId email with
          | .error reason => do
              retainUnmatched
                (retainedMessage mailboxId organizationId identity email reason)
              pure (.unmatched reason)
          | .ok key => storeCorrelated deployment mailboxId organizationId identity email key

/-! ## One mailbox -/

/-- `MailboxImapTarget`. -/
structure MailboxImapTarget where
  mailboxId : Nat
  organizationId : String
  publicReference : String
  imapHost : String
  imapPort : Nat
  imapUsername : String
  imapPasswordEnc : String
  deriving DecidableEq, Repr

/-- The target of an eligible mailbox. -/
def pollableTarget
    (mailboxId : Nat)
    (mailbox : Mailbox) : Option MailboxImapTarget :=
  match mailbox.status, mailbox.imapHost, mailbox.imapPort, mailbox.imapUsername,
      mailbox.imapPasswordEnc with
  | .active, some host, some port, some username, some password =>
      if PyText.strip host = "" ∨ port = 0 ∨ PyText.strip username = "" ∨ password = "" then
        none
      else
        some
          { mailboxId := mailboxId
            organizationId := mailbox.organizationId
            publicReference := mailbox.publicReference
            imapHost := PyText.strip host
            imapPort := port
            imapUsername := PyText.strip username
            imapPasswordEnc := password }
  | _, _, _, _, _ => none

/-- A target is polled under the key and the organization of its mailbox. -/
theorem pollableTarget_owner
    {mailboxId : Nat}
    {mailbox : Mailbox}
    {target : MailboxImapTarget}
    (eligible : pollableTarget mailboxId mailbox = some target) :
    target.mailboxId = mailboxId ∧ target.organizationId = mailbox.organizationId := by
  unfold pollableTarget at eligible
  split at eligible
  · split at eligible
    · cases eligible
    · obtain rfl := Option.some.inj eligible
      exact ⟨rfl, rfl⟩
  · cases eligible

/-- `load_pollable_target`. -/
def loadPollableTarget (mailboxId : Nat) : Program (Option MailboxImapTarget) :=
  session (query fun view =>
    (view.mailboxes.get mailboxId).bind (pollableTarget mailboxId))

/-- `list_pollable_mailbox_ids`. -/
def listPollableMailboxIds : Program (List Nat) :=
  session (query fun view => view.mailboxes.keysWhere fun mailbox =>
    (pollableTarget 0 mailbox).isSome)

/-- `_persist_inbound`: it returns only after the commit. -/
def persistInbound
    (deployment : Deployment)
    (target : MailboxImapTarget)
    (email : InboundEmail) : Program InboundResult :=
  session do
    let handled ← attempt do
      let result ← processMailboxInbound deployment target.mailboxId target.organizationId
        email
      commit
      pure result
    match handled with
    | .ok result => pure result
    | .error failure => do
        rollback
        raise failure

/-- The end of `_persist_inbound`. -/
def persisted (handled : Except Failure InboundResult) : Program InboundResult :=
  match handled with
  | .ok result => pure result
  | .error failure => do
      rollback
      raise failure

/-- `DrainStats`. -/
structure DrainStats where
  seenMarked : Nat := 0
  leftUnseen : Nat := 0
  deriving DecidableEq, Repr

/-- A reply of the server that must be a success. -/
def imapValue (refusal : String) : ImapReply α → Except Failure α
  | .ok value => .ok value
  | .refused => .error (.raised refusal)
  | .raised name => .error (.raised name)

/-- Fetch, parse and handle one message. -/
def fetchAndHandle
    (handler : InboundEmail → Program α)
    (uid : Nat) :
    Program InboundEmail := do
  let email ← ofExcept (imapValue "ValueError" (← ask (.fetch uid)))
  let _ ← handler email
  pure email

/-- One message of `drain_unseen`: whether it was marked Seen. -/
def drainMessage
    (mailboxId : Nat)
    (handler : InboundEmail → Program α)
    (uid : Nat) :
    Program Bool := do
  match ← attempt (fetchAndHandle handler uid) with
  | .error _ => do
      ask (.leftUnseen uid)
      pure false
  | .ok email => do
      match ← ask (.storeSeen mailboxId uid email) with
      | .ok _ => pure true
      | _ => pure false

/-- The loop of `drain_unseen`. -/
def drainMessages
    (mailboxId : Nat)
    (handler : InboundEmail → Program α) :
    List Nat → DrainStats → Program DrainStats
  | [], stats => pure stats
  | uid :: rest, stats => do
      let seen ← drainMessage mailboxId handler uid
      drainMessages mailboxId handler rest
        (if seen then { stats with seenMarked := stats.seenMarked + 1 }
        else { stats with leftUnseen := stats.leftUnseen + 1 })

/-- `drain_unseen` of the authenticated connection of a mailbox. -/
def drainUnseen
    (mailboxId : Nat)
    (handler : InboundEmail → Program α) :
    Program DrainStats := do
  let _ ← ofExcept (imapValue "ImapPollError" (← ask .select))
  let uids ← ofExcept (imapValue "ImapPollError" (← ask .search))
  drainMessages mailboxId handler uids {}

/-- `MailboxPollOutcome.status`. -/
inductive PollStatus where
  | ok
  | skippedIneligible
  | credentialUnavailable
  | imapError
  | unexpectedError
  deriving DecidableEq, Repr

/-- `MailboxPollOutcome`, without the tally of handler results. -/
structure MailboxPollOutcome where
  mailboxId : Nat
  status : PollStatus := .ok
  processed : Nat := 0
  leftUnseen : Nat := 0
  deriving DecidableEq, Repr

/-- `poll_mailbox`. -/
def pollMailbox
    (deployment : Deployment)
    (target : MailboxImapTarget) :
    Program MailboxPollOutcome :=
  match deployment.services.decryptSecret target.imapPasswordEnc with
  | .plaintext _ => do
      let polled ← attempt do
        let _ ← ofExcept (imapValue "IMAP4.error" (← ask (.login target.mailboxId)))
        drainUnseen target.mailboxId (persistInbound deployment target)
      match polled with
      | .ok stats =>
          pure
            { mailboxId := target.mailboxId
              processed := stats.seenMarked
              leftUnseen := stats.leftUnseen }
      | .error _ => pure { mailboxId := target.mailboxId, status := .imapError }
  | _ => pure { mailboxId := target.mailboxId, status := .credentialUnavailable }

/-- The poll of a mailbox, if it still can be polled. -/
def pollIfEligible
    (deployment : Deployment)
    (mailboxId : Nat) :
    Program MailboxPollOutcome := do
  match ← loadPollableTarget mailboxId with
  | none => pure { mailboxId := mailboxId, status := .skippedIneligible }
  | some target => pollMailbox deployment target

/-- One mailbox of `poll_all_mailboxes_report`. -/
def pollListedMailbox
    (deployment : Deployment)
    (mailboxId : Nat) :
    Program MailboxPollOutcome := do
  let polled ← attempt do
    match ← loadPollableTarget mailboxId with
    | none => pure { mailboxId := mailboxId, status := .skippedIneligible }
    | some target => pollMailbox deployment target
  match polled with
  | .ok outcome => pure outcome
  | .error _ => pure { mailboxId := mailboxId, status := .unexpectedError }

/-- The loop of `poll_all_mailboxes_report`. -/
def pollListedMailboxes (deployment : Deployment) :
    List Nat → Program (List MailboxPollOutcome)
  | [] => pure []
  | mailboxId :: rest => do
      let outcome ← pollListedMailbox deployment mailboxId
      let outcomes ← pollListedMailboxes deployment rest
      pure (outcome :: outcomes)

/-- `poll_all_mailboxes_report`; `none` is a listing that failed. -/
def pollAllMailboxesReport (deployment : Deployment) :
    Program (Option (List MailboxPollOutcome)) := do
  match ← attempt listPollableMailboxIds with
  | .error _ => pure none
  | .ok ids => do
      let outcomes ← pollListedMailboxes deployment ids
      pure (some outcomes)

end Native
end MailerAgent
