import MailerAgent.Foundation.Selection
import MailerAgent.Foundation.Window
import MailerAgent.Models.Database
import Mathlib.Data.List.Sort
import Mathlib.Data.Prod.Lex

/-!
# The conversation of an outreach action

`get_leadboost_outreach_conversation` of `api/integrations_conversation.py`: the dispatch of
an organization under its idempotency key, and the most recent messages of its contact that
the organization owns. The read runs in one snapshot. The timestamps of a dispatch, which no
other modelled code reads, are given beside the database.
-/

namespace MailerAgent
namespace Intake

open Relational

/-- `BODY_CAP_CHARS`. -/
def bodyCapChars : Nat := 20000

/-- `_PUBLIC_STATES`. -/
def publicStates : List ExternalDispatchState :=
  [.queued, .generating, .sending, .sent, .failed, .unknown].filter fun state =>
    state != .generating

/-- `_public_state`. -/
def publicState (internal : ExternalDispatchState) : Option ExternalDispatchState :=
  if internal = .generating then some .queued
  else if publicStates.contains internal then some internal else none

theorem publicState_isSome (internal : ExternalDispatchState) :
    (publicState internal).isSome = true := by
  cases internal <;> rfl

/-- `LeadBoostConversationMessage`. -/
structure LeadBoostConversationMessage where
  direction : MessageDirection
  messageType : Option MessageType
  subject : Option String
  body : String
  bodyTruncated : Bool
  createdAt : Instant
  deliveryState : Option ExternalDispatchState
  mailingAgentReference : Option String
  mailboxReference : Option String
  messageReference : Option String
  deriving DecidableEq, Repr

/-- `LeadBoostConversationAction`. -/
structure LeadBoostConversationAction where
  state : ExternalDispatchState
  mailingAgentReference : String
  createdAt : Instant
  updatedAt : Instant
  mailboxReference : Option String
  deriving DecidableEq, Repr

/-- `LeadBoostConversation`. -/
structure LeadBoostConversation where
  action : LeadBoostConversationAction
  messages : List LeadBoostConversationMessage
  hasMore : Bool
  deriving DecidableEq, Repr

/-- A row of the query for messages: a message with what is joined to it. -/
structure ConversationRow where
  key : Nat
  message : Message
  dispatch : Option ExternalDispatch
  inboundMailbox : Option Mailbox
  outboundMailbox : Option Mailbox
  deriving DecidableEq, Repr

/-- The rows that an outer join finds, or nothing. -/
def outerJoin
    {Row : Type}
    (found : List Row) : List (Option Row) :=
  if found.isEmpty then [none] else found.map some

section Query

variable (database : Database) (organization : String)

/-- The mailbox under a key, if it belongs to the organization. -/
def ownMailbox (mailboxId : Option Nat) : Option Mailbox :=
  (mailboxId.bind database.mailboxes.get).filter fun mailbox =>
    mailbox.organizationId == organization

/-- The dispatch under the idempotency key, with a contact in a campaign of the
organization. -/
def conversationRoot (idempotencyKey : String) : Option Nat :=
  database.dispatches.firstWhere fun row =>
    row.organizationId == organization && row.idempotencyKey == idempotencyKey &&
      (database.contacts.get row.contactId).any fun contact =>
        database.organizationOf contact == some organization

/-- A dispatch of the organization for the contact that produced the message. -/
def produces
    (contactId messageKey : Nat)
    (row : ExternalDispatch) : Bool :=
  row.messageId == some messageKey && row.organizationId == organization &&
    row.contactId == contactId

/-- The rows that a message is joined to. -/
def joinedRows
    (contactId key : Nat)
    (message : Message) : List ConversationRow :=
  (outerJoin (database.dispatches.select (produces organization contactId key))).map
    fun dispatch =>
      { key := key
        message := message
        dispatch := dispatch
        inboundMailbox := ownMailbox database organization message.mailboxId
        outboundMailbox :=
          ownMailbox database organization (dispatch.bind ExternalDispatch.mailboxId) }

/-- The filter for what the organization owns. -/
def ConversationRow.owned (row : ConversationRow) : Bool :=
  (row.message.direction == .outbound && row.dispatch.isSome) ||
    (row.message.direction == .inbound && row.message.mailboxId.isSome &&
      row.inboundMailbox.isSome)

/-- `(created_at, id)`. -/
def ConversationRow.stamp (row : ConversationRow) : Instant ×ₗ Nat :=
  toLex (row.message.createdAt, row.key)

/-- The owned messages of the contact before they are ordered. -/
def ownedRows (contactId : Nat) : List ConversationRow :=
  ((database.messages.keysWhere fun message => message.contactId == contactId).flatMap
    fun key =>
      match database.messages.get key with
      | some message => joinedRows database organization contactId key message
      | none => []).filter ConversationRow.owned

/-- The query for messages, without its limit. -/
def conversationRows (contactId : Nat) : List ConversationRow :=
  (ownedRows database organization contactId).mergeSort fun first second =>
    decide (second.stamp ≤ first.stamp)

/-- The row is an outbound message. -/
def ConversationRow.outbound (row : ConversationRow) : Bool :=
  row.message.direction == .outbound

/-- The message of the response for a row. -/
def ConversationRow.render
    (row : ConversationRow)
    (deliveryState : Option ExternalDispatchState) : LeadBoostConversationMessage :=
  let bodyHead := row.message.body.toList.take (bodyCapChars + 1)
  { direction := row.message.direction
    messageType := row.message.messageType
    subject := row.message.subject
    body := String.ofList (bodyHead.take bodyCapChars)
    bodyTruncated := bodyCapChars < bodyHead.length
    createdAt := row.message.createdAt
    deliveryState := deliveryState
    mailingAgentReference :=
      if row.outbound then row.dispatch.map ExternalDispatch.publicReference else none
    mailboxReference :=
      (if row.outbound then row.outboundMailbox else row.inboundMailbox).map
        Mailbox.publicReference
    messageReference := if row.outbound then none else row.message.replyReference }

/-- The message of the response, unless the state of its dispatch is not recognised. -/
def ConversationRow.shown (row : ConversationRow) : Option LeadBoostConversationMessage :=
  if row.outbound then
    (row.dispatch.bind fun dispatch => publicState dispatch.state).map fun state =>
      row.render (some state)
  else some (row.render none)

/-- `get_leadboost_outreach_conversation`; there is no response for what is not found. -/
def getLeadboostOutreachConversation
    (idempotencyKey : String)
    (limit : Nat) : Option LeadBoostConversation := do
  let key ← conversationRoot database organization idempotencyKey
  let root ← database.dispatches.get key
  let actionState ← publicState root.state
  let rows := (conversationRows database organization root.contactId).take (limit + 1)
  let window := (rows.take limit).reverse
  let messages ← window.mapM ConversationRow.shown
  pure
    { action :=
        { state := actionState
          mailingAgentReference := root.publicReference
          createdAt := root.createdAt
          updatedAt := root.updatedAt
          mailboxReference :=
            (ownMailbox database organization root.mailboxId).map Mailbox.publicReference }
      messages := messages
      hasMore := limit < rows.length }

end Query

/-! ## What an organization owns -/

/-- The message under a key belongs to the contact, and the organization owns it: one of its
dispatches for the contact produced it, or one of its mailboxes received it. -/
def OwnedMessage
    (database : Database)
    (organization : String)
    (contactId key : Nat) : Prop :=
  ∃ message, database.messages.get key = some message ∧ message.contactId = contactId ∧
    ((message.direction = .outbound ∧
        ∃ dispatchKey row, database.dispatches.get dispatchKey = some row ∧
          row.messageId = some key ∧ row.organizationId = organization ∧
          row.contactId = contactId) ∨
      (message.direction = .inbound ∧
        ∃ mailboxKey mailbox, message.mailboxId = some mailboxKey ∧
          database.mailboxes.get mailboxKey = some mailbox ∧
          mailbox.organizationId = organization))

/-- The order by `(created_at, id)`. -/
def Older
    (database : Database)
    (first second : Nat) : Prop :=
  ∃ message other, database.messages.get first = some message ∧
    database.messages.get second = some other ∧
    (message.createdAt < other.createdAt ∨
      message.createdAt = other.createdAt ∧ first < second)

/-- What the response says about the dispatch itself. -/
structure ShowsAction
    (database : Database)
    (organization : String)
    (row : ExternalDispatch)
    (shown : LeadBoostConversationAction) : Prop where
  state : publicState row.state = some shown.state
  mailingAgentReference : shown.mailingAgentReference = row.publicReference
  createdAt : shown.createdAt = row.createdAt
  updatedAt : shown.updatedAt = row.updatedAt
  mailboxReference : shown.mailboxReference =
    (ownMailbox database organization row.mailboxId).map Mailbox.publicReference

/-- What the response says about an outbound message, from the dispatch that produced it. -/
structure ShowsOutbound
    (database : Database)
    (organization : String)
    (contactId key : Nat)
    (row : ExternalDispatch)
    (shown : LeadBoostConversationMessage) : Prop where
  stored : ∃ dispatchKey, database.dispatches.get dispatchKey = some row
  messageId : row.messageId = some key
  organizationId : row.organizationId = organization
  contactId : row.contactId = contactId
  deliveryState : shown.deliveryState = publicState row.state
  mailingAgentReference : shown.mailingAgentReference = some row.publicReference
  mailboxReference : shown.mailboxReference =
    (ownMailbox database organization row.mailboxId).map Mailbox.publicReference
  messageReference : shown.messageReference = none

/-- What the response says about an inbound message, from the mailbox that received it. -/
structure ShowsInbound
    (database : Database)
    (organization : String)
    (message : Message)
    (mailbox : Mailbox)
    (shown : LeadBoostConversationMessage) : Prop where
  stored : ∃ mailboxKey, message.mailboxId = some mailboxKey ∧
    database.mailboxes.get mailboxKey = some mailbox
  organizationId : mailbox.organizationId = organization
  deliveryState : shown.deliveryState = none
  mailingAgentReference : shown.mailingAgentReference = none
  mailboxReference : shown.mailboxReference = some mailbox.publicReference
  messageReference : shown.messageReference = message.replyReference

/-- What the response says about a message. -/
structure Shows
    (database : Database)
    (organization : String)
    (contactId key : Nat)
    (message : Message)
    (shown : LeadBoostConversationMessage) : Prop where
  stored : database.messages.get key = some message
  direction : shown.direction = message.direction
  messageType : shown.messageType = message.messageType
  subject : shown.subject = message.subject
  body : shown.body = String.ofList (message.body.toList.take bodyCapChars)
  bodyTruncated : shown.bodyTruncated = true ↔ bodyCapChars < message.body.toList.length
  createdAt : shown.createdAt = message.createdAt
  outbound : message.direction = .outbound →
    ∃ row, ShowsOutbound database organization contactId key row shown
  inbound : message.direction = .inbound →
    ∃ mailbox, ShowsInbound database organization message mailbox shown

section Rows

variable {database : Database} {organization : String} {contactId key : Nat}
variable {message : Message} {row : ConversationRow}

theorem mem_outerJoin
    {Row : Type}
    {found : List Row}
    {joined : Option Row} :
    joined ∈ outerJoin found ↔
      (∃ present ∈ found, joined = some present) ∨ found = [] ∧ joined = none := by
  unfold outerJoin
  cases found with
  | nil => simp
  | cons first rest => simp [eq_comm]

theorem exists_mem_outerJoin
    {Row : Type}
    (found : List Row) :
    ∃ joined, joined ∈ outerJoin found := by
  cases found with
  | nil => exact ⟨none, List.mem_singleton_self none⟩
  | cons first rest => exact ⟨some first, List.mem_cons_self⟩

theorem length_outerJoin_le_one
    {Row : Type}
    {found : List Row}
    (single : found.length ≤ 1) :
    (outerJoin found).length ≤ 1 := by
  unfold outerJoin
  split
  · exact Nat.le_refl 1
  · simpa using single

theorem produces_iff {dispatch : ExternalDispatch} :
    produces organization contactId key dispatch = true ↔
      dispatch.messageId = some key ∧ dispatch.organizationId = organization ∧
        dispatch.contactId = contactId := by
  simp [produces, and_assoc]

theorem ownMailbox_isSome_iff {mailboxId : Option Nat} :
    (ownMailbox database organization mailboxId).isSome = true ↔
      ∃ mailboxKey mailbox, mailboxId = some mailboxKey ∧
        database.mailboxes.get mailboxKey = some mailbox ∧
        mailbox.organizationId = organization := by
  rw [Option.isSome_iff_exists]
  unfold ownMailbox
  simp only [Option.filter_eq_some_iff, Option.bind_eq_some_iff, beq_iff_eq]
  constructor
  · rintro ⟨mailbox, ⟨mailboxKey, named, found⟩, own⟩
    exact ⟨mailboxKey, mailbox, named, found, own⟩
  · rintro ⟨mailboxKey, mailbox, named, found, own⟩
    exact ⟨mailbox, ⟨mailboxKey, named, found⟩, own⟩

/-- What a row of a message is joined to. -/
theorem mem_joinedRows (inside : row ∈ joinedRows database organization contactId key message) :
    row.key = key ∧ row.message = message ∧
      row.inboundMailbox = ownMailbox database organization message.mailboxId ∧
      row.outboundMailbox =
        ownMailbox database organization (row.dispatch.bind ExternalDispatch.mailboxId) ∧
      ∀ dispatch, row.dispatch = some dispatch →
        ∃ dispatchKey, database.dispatches.get dispatchKey = some dispatch ∧
          dispatch.messageId = some key ∧ dispatch.organizationId = organization ∧
          dispatch.contactId = contactId := by
  obtain ⟨joined, member, rfl⟩ := List.mem_map.mp inside
  refine ⟨rfl, rfl, rfl, rfl, ?_⟩
  rintro dispatch ⟨rfl⟩
  rcases mem_outerJoin.mp member with ⟨present, selected, same⟩ | ⟨-, wrong⟩
  · cases same
    obtain ⟨holds, dispatchKey, found⟩ := Table.mem_select.mp selected
    exact ⟨dispatchKey, found, produces_iff.mp holds⟩
  · exact nomatch wrong

/-- The owned rows are joined rows of the contact's messages. -/
theorem mem_ownedRows :
    row ∈ ownedRows database organization contactId ↔
      ∃ key message, database.messages.get key = some message ∧
        message.contactId = contactId ∧
        row ∈ joinedRows database organization contactId key message ∧ row.owned = true := by
  simp only [ownedRows, List.mem_filter, List.mem_flatMap, Table.mem_keysWhere, beq_iff_eq]
  constructor
  · rintro ⟨⟨key, ⟨message, found, same⟩, inside⟩, owned⟩
    rw [found] at inside
    exact ⟨key, message, found, same, inside, owned⟩
  · rintro ⟨key, message, found, same, inside, owned⟩
    refine ⟨⟨key, ⟨message, found, same⟩, ?_⟩, owned⟩
    rw [found]
    exact inside

/-- A message has a row exactly when the organization owns it. -/
theorem mem_keys_ownedRows :
    key ∈ (ownedRows database organization contactId).map ConversationRow.key ↔
      OwnedMessage database organization contactId key := by
  rw [List.mem_map]
  constructor
  · rintro ⟨row, inside, rfl⟩
    obtain ⟨key, message, found, same, joined, owned⟩ := mem_ownedRows.mp inside
    obtain ⟨keyed, rfl, inbound, -, dispatched⟩ := mem_joinedRows joined
    rw [keyed]
    refine ⟨row.message, found, same, ?_⟩
    simp only [ConversationRow.owned, Bool.or_eq_true, Bool.and_eq_true, beq_iff_eq] at owned
    rcases owned with ⟨outbound, present⟩ | ⟨⟨inboundDirection, -⟩, present⟩
    · obtain ⟨dispatch, present⟩ := Option.isSome_iff_exists.mp present
      obtain ⟨dispatchKey, stored, facts⟩ := dispatched dispatch present
      exact .inl ⟨outbound, dispatchKey, dispatch, stored, facts⟩
    · rw [inbound] at present
      exact .inr ⟨inboundDirection, ownMailbox_isSome_iff.mp present⟩
  · rintro ⟨message, found, same, ⟨outbound, dispatchKey, dispatch, stored, facts⟩ |
      ⟨inbound, mailbox⟩⟩
    · have joined : some dispatch ∈ outerJoin
          (database.dispatches.select (produces organization contactId key)) :=
        mem_outerJoin.mpr (.inl ⟨dispatch,
          Table.mem_select.mpr ⟨produces_iff.mpr facts, dispatchKey, stored⟩, rfl⟩)
      refine ⟨_, mem_ownedRows.mpr ⟨key, message, found, same,
        List.mem_map.mpr ⟨some dispatch, joined, rfl⟩, ?_⟩, rfl⟩
      simp [ConversationRow.owned, outbound]
    · obtain ⟨joined, member⟩ := exists_mem_outerJoin
        (database.dispatches.select (produces organization contactId key))
      refine ⟨_, mem_ownedRows.mpr ⟨key, message, found, same,
        List.mem_map.mpr ⟨joined, member, rfl⟩, ?_⟩, rfl⟩
      have received := ownMailbox_isSome_iff.mpr mailbox
      have named : message.mailboxId.isSome = true := by
        obtain ⟨mailboxKey, -, named, -⟩ := mailbox
        rw [named]
        rfl
      simp [ConversationRow.owned, inbound, received, named]

/-- No two dispatches share a message, so an outbound message is joined to one of them. -/
theorem length_select_produces_le_one
    (unique : database.dispatches.UniqueBy ExternalDispatch.messageId) :
    (database.dispatches.select (produces organization contactId key)).length ≤ 1 :=
  unique.length_select_le_one fun _ holds => (produces_iff.mp holds).1

/-- Every owned message has one row. -/
theorem nodup_keys_ownedRows
    (unique : database.dispatches.UniqueBy ExternalDispatch.messageId) :
    ((ownedRows database organization contactId).map ConversationRow.key).Nodup := by
  have single : ∀ key, List.Sublist
      ((match database.messages.get key with
        | some message => joinedRows database organization contactId key message
        | none => []).map ConversationRow.key) [key] := by
    intro key
    cases database.messages.get key with
    | none => exact List.nil_sublist _
    | some message =>
        have short : (outerJoin (database.dispatches.select
            (produces organization contactId key))).length ≤ 1 :=
          length_outerJoin_le_one (length_select_produces_le_one unique)
        simp only [joinedRows, List.map_map, Function.comp_def]
        generalize outerJoin (database.dispatches.select
          (produces organization contactId key)) = joined at short ⊢
        rcases joined with _ | ⟨first, _ | ⟨second, rest⟩⟩
        · exact List.nil_sublist _
        · exact List.Sublist.refl _
        · simp at short
  have keys := Window.map_flatMap_sublist single
    (database.messages.keysWhere fun message => message.contactId == contactId)
  have distinct := database.messages.nodup_keysWhere fun message => message.contactId == contactId
  exact distinct.sublist (((List.filter_sublist).map _).trans keys)

/-! ## The order -/

theorem mem_conversationRows :
    row ∈ conversationRows database organization contactId ↔
      row ∈ ownedRows database organization contactId :=
  (List.mergeSort_perm _ _).mem_iff

/-- A row carries the message under its key. -/
theorem get_of_mem_conversationRows
    (inside : row ∈ conversationRows database organization contactId) :
    database.messages.get row.key = some row.message := by
  obtain ⟨key, message, found, -, joined, -⟩ := mem_ownedRows.mp (mem_conversationRows.mp inside)
  obtain ⟨rfl, rfl, -⟩ := mem_joinedRows joined
  exact found

theorem conversationRows_sorted :
    (conversationRows database organization contactId).Pairwise fun first second =>
      second.stamp ≤ first.stamp := by
  have sorted : (conversationRows database organization contactId).Pairwise
      fun first second => decide (second.stamp ≤ first.stamp) = true := by
    refine List.pairwise_mergeSort ?_ ?_ _
    · intro first second third newer older
      exact decide_eq_true ((of_decide_eq_true older).trans (of_decide_eq_true newer))
    · intro first second
      simpa using le_total second.stamp first.stamp
  exact sorted.imp of_decide_eq_true

theorem nodup_keys_conversationRows
    (unique : database.dispatches.UniqueBy ExternalDispatch.messageId) :
    ((conversationRows database organization contactId).map ConversationRow.key).Nodup :=
  ((List.mergeSort_perm _ _).map _).nodup_iff.mpr (nodup_keys_ownedRows unique)

/-- The rows are listed from the most recent message on. -/
theorem keys_conversationRows_pairwise
    (unique : database.dispatches.UniqueBy ExternalDispatch.messageId) :
    ((conversationRows database organization contactId).map ConversationRow.key).Pairwise
      fun first second => Older database second first := by
  have distinct : ((conversationRows database organization contactId).map
      ConversationRow.key).Nodup := nodup_keys_conversationRows unique
  rw [List.Nodup, List.pairwise_map] at distinct
  rw [List.pairwise_map]
  refine (conversationRows_sorted.and distinct).imp_of_mem ?_
  rintro first second inside insideToo ⟨sorted, different⟩
  refine ⟨second.message, first.message, get_of_mem_conversationRows insideToo,
    get_of_mem_conversationRows inside, ?_⟩
  have unequal : second.stamp ≠ first.stamp := by
    intro same
    exact different (congrArg (fun stamp => (ofLex stamp).2) same).symm
  exact Prod.Lex.lt_iff.mp (lt_of_le_of_ne sorted unequal)

/-- The window of the response. -/
theorem conversationRows_recent
    (unique : database.dispatches.UniqueBy ExternalDispatch.messageId)
    (limit : Nat) :
    Window.Recent (OwnedMessage database organization contactId) (Older database) limit
      (((conversationRows database organization contactId).take limit).reverse.map
        ConversationRow.key)
      (decide (limit < (conversationRows database organization contactId).length)) := by
  have listed (key : Nat) :
      key ∈ (conversationRows database organization contactId).map ConversationRow.key ↔
        OwnedMessage database organization contactId key := by
    rw [← mem_keys_ownedRows]
    exact ((List.mergeSort_perm _ _).map _).mem_iff
  have recent := Window.Recent.of_sorted listed (keys_conversationRows_pairwise unique)
    (nodup_keys_conversationRows unique) limit
  rwa [List.length_map, ← List.map_take, ← List.map_reverse] at recent

/-! ## The response -/

/-- The columns of the message itself. -/
theorem shows_render
    {deliveryState : Option ExternalDispatchState}
    (found : database.messages.get row.key = some row.message)
    (outbound : row.message.direction = .outbound →
      ∃ dispatch, ShowsOutbound database organization contactId row.key dispatch
        (row.render deliveryState))
    (inbound : row.message.direction = .inbound →
      ∃ mailbox, ShowsInbound database organization row.message mailbox
        (row.render deliveryState)) :
    Shows database organization contactId row.key row.message (row.render deliveryState) where
  stored := found
  direction := rfl
  messageType := rfl
  subject := rfl
  body := by
    simp only [ConversationRow.render, List.take_take]
    congr 2
  bodyTruncated := by
    simp only [ConversationRow.render, List.length_take, decide_eq_true_iff]
    omega
  createdAt := rfl
  outbound := outbound
  inbound := inbound

/-- Every row of the query is shown. -/
theorem shows_of_mem_conversationRows
    (inside : row ∈ conversationRows database organization contactId) :
    ∃ shown, row.shown = some shown ∧
      Shows database organization contactId row.key row.message shown := by
  have found := get_of_mem_conversationRows inside
  obtain ⟨key, message, -, -, joined, owned⟩ := mem_ownedRows.mp (mem_conversationRows.mp inside)
  obtain ⟨rfl, rfl, inbound, outbound, dispatched⟩ := mem_joinedRows joined
  simp only [ConversationRow.owned, Bool.or_eq_true, Bool.and_eq_true, beq_iff_eq] at owned
  rcases owned with ⟨direction, present⟩ | ⟨⟨direction, -⟩, present⟩
  · obtain ⟨dispatch, joinedTo⟩ := Option.isSome_iff_exists.mp present
    obtain ⟨dispatchKey, stored, messageId, organizationId, contact⟩ := dispatched dispatch joinedTo
    obtain ⟨state, recognised⟩ :=
      Option.isSome_iff_exists.mp (publicState_isSome dispatch.state)
    have sent : row.outbound = true := beq_iff_eq.mpr direction
    refine ⟨row.render (some state), by simp [ConversationRow.shown, sent, joinedTo, recognised],
      shows_render found (fun _ => ⟨dispatch, ?_⟩) fun other =>
        nomatch direction.symm.trans other⟩
    exact
      { stored := ⟨dispatchKey, stored⟩
        messageId := messageId
        organizationId := organizationId
        contactId := contact
        deliveryState := recognised.symm
        mailingAgentReference := by simp [ConversationRow.render, sent, joinedTo]
        mailboxReference := by simp [ConversationRow.render, sent, outbound, joinedTo]
        messageReference := by simp [ConversationRow.render, sent] }
  · rw [inbound] at present
    obtain ⟨mailbox, received⟩ := Option.isSome_iff_exists.mp present
    obtain ⟨named, own⟩ := Option.filter_eq_some_iff.mp received
    obtain ⟨mailboxKey, keyed, stored⟩ := Option.bind_eq_some_iff.mp named
    have arrived : row.outbound = false := by simp [ConversationRow.outbound, direction]
    refine ⟨row.render none, by simp [ConversationRow.shown, arrived],
      shows_render found (fun other => nomatch direction.symm.trans other)
        fun _ => ⟨mailbox, ?_⟩⟩
    exact
      { stored := ⟨mailboxKey, keyed, stored⟩
        organizationId := beq_iff_eq.mp own
        deliveryState := rfl
        mailingAgentReference := by simp [ConversationRow.render, arrived]
        mailboxReference := by simp [ConversationRow.render, arrived, inbound, received]
        messageReference := by simp [ConversationRow.render, arrived] }

/-- A dispatch is found under its idempotency key. -/
theorem conversationRoot_eq
    {root : ExternalDispatch}
    (unique : database.dispatches.UniqueBy ExternalDispatch.idempotency)
    (found : database.dispatches.get key = some root)
    (own : ∃ contact, database.contacts.get root.contactId = some contact ∧
      database.organizationOf contact = some root.organizationId) :
    conversationRoot database root.organizationId root.idempotencyKey = some key := by
  unfold conversationRoot
  cases first : database.dispatches.firstWhere _ with
  | none =>
      have absent := Table.firstWhere_eq_none.mp first key root found
      obtain ⟨contact, foundContact, owner⟩ := own
      simp [foundContact, owner] at absent
  | some other =>
      obtain ⟨row, foundRow, holds⟩ := Table.firstWhere_eq_some first
      simp only [Bool.and_eq_true, beq_iff_eq] at holds
      have same : row.idempotency = some (root.organizationId, root.idempotencyKey) := by
        rw [ExternalDispatch.idempotency, holds.1.1, holds.1.2]
      exact congrArg some (unique _ _ _ _ _ foundRow found same rfl)

/-- The response for a dispatch that is found. -/
theorem conversation_of_root
    {idempotencyKey : String}
    {root : ExternalDispatch}
    (unique : database.dispatches.UniqueBy ExternalDispatch.messageId)
    (first : conversationRoot database organization idempotencyKey = some key)
    (found : database.dispatches.get key = some root)
    (limit : Nat) :
    ∃ response shown,
      getLeadboostOutreachConversation database organization idempotencyKey limit =
        some response ∧
      ShowsAction database organization root response.action ∧
      Window.Recent (OwnedMessage database organization root.contactId) (Older database) limit
        shown response.hasMore ∧
      List.Forall₂ (fun key rendered =>
        ∃ message, Shows database organization root.contactId key message rendered)
        shown response.messages := by
  obtain ⟨state, recognised⟩ := Option.isSome_iff_exists.mp (publicState_isSome root.state)
  have recent : Window.Recent (OwnedMessage database organization root.contactId) _ limit _ _ :=
    conversationRows_recent unique limit
  have rendered : ∀ row ∈
      ((conversationRows database organization root.contactId).take limit).reverse,
      ∃ shown, row.shown = some shown ∧
        Shows database organization root.contactId row.key row.message shown := by
    intro row inside
    exact shows_of_mem_conversationRows (List.mem_of_mem_take (List.mem_reverse.mp inside))
  obtain ⟨messages, mapped, related⟩ := Window.exists_mapM rendered
  have cut : ((conversationRows database organization root.contactId).take (limit + 1)).take
      limit = (conversationRows database organization root.contactId).take limit := by
    rw [List.take_take, Nat.min_eq_left (Nat.le_succ limit)]
  have others : decide (limit <
        ((conversationRows database organization root.contactId).take (limit + 1)).length) =
      decide (limit < (conversationRows database organization root.contactId).length) := by
    rw [decide_eq_decide, List.length_take]
    omega
  let action : LeadBoostConversationAction :=
    { state := state
      mailingAgentReference := root.publicReference
      createdAt := root.createdAt
      updatedAt := root.updatedAt
      mailboxReference :=
        (ownMailbox database organization root.mailboxId).map Mailbox.publicReference }
  refine ⟨⟨action, messages, _⟩, _, ?_, ⟨recognised, rfl, rfl, rfl, rfl⟩, recent, ?_⟩
  · simp only [getLeadboostOutreachConversation, first, found, recognised, cut, mapped, others,
      Option.bind_eq_bind, Option.bind_some, Option.pure_def]
    rfl
  · rw [List.forall₂_map_left_iff]
    exact related.imp fun row _ shows => ⟨row.message, shows⟩

end Rows

end Intake
end MailerAgent
