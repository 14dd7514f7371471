import MailerAgent.Foundation.Progress
import MailerAgent.Native.Confinement
import MailerAgent.World.Coupling
import MailerAgent.World.Tenants

/-!
# Correlation by the sender's address

A message without thread headers and without a known inbox is attached by the address of
its sender, by the webhook and by the poll of a mailbox. The webhook looks for contacts
that are stored with the address in lower case, the poll for contacts whose address is it
once the database has lowered it. What either handler does with a message that is new is
the only answer of its lookup; the two agree with the address up to letter case exactly if
these three notions of having the address single out the same contact.
-/

namespace MailerAgent

open Concurrent Relational Mail Native Program

/-! ## The contacts with an address -/

/-- The contacts of an organization that are not suppressed and have an address of a
kind. -/
def contactsAddressed
    (database : Database)
    (organization : String)
    (addressed : String → Bool) : List Nat :=
  database.contacts.keysWhere fun contact =>
    database.organizationOf contact == some organization && contact.status != .suppressed &&
      addressed contact.email

/-- The only one, if there is exactly one. -/
def onlyOne : List Nat → Option Nat
  | [only] => some only
  | _ => none

theorem onlyOne_eq_some
    {keys : List Nat}
    {key : Nat} :
    onlyOne keys = some key ↔ keys = [key] := by
  unfold onlyOne
  split
  · simp
  · next absent =>
      constructor
      · exact fun impossible => (Option.some_ne_none _ impossible.symm).elim
      · exact fun alone => (absent key alone).elim

theorem onlyOne_eq_none {keys : List Nat} : onlyOne keys = none ↔ keys.length ≠ 1 := by
  rw [Option.eq_none_iff_forall_ne_some, ne_eq, List.length_eq_one_iff, not_exists]
  exact forall_congr' fun key => not_congr onlyOne_eq_some

/-- The address of a sender as both handlers receive it. -/
def senderAddress
    (services : Services)
    (sender : String) : String :=
  services.lower (PyText.strip sender)

/-- The contact that has an address up to letter case, if exactly one has. -/
def addressee
    (services : Services)
    (database : Database)
    (organization address : String) : Option Nat :=
  onlyOne (contactsAddressed database organization fun stored =>
    services.lower stored == address)

/-- Contacts that are stored with the address, or whose stored address the database
lowers to it, are singled out like those that have it up to letter case. -/
structure SingledOutAlike
    (services : Services)
    (database : Database)
    (organization address : String) : Prop where
  stored : onlyOne (contactsAddressed database organization fun stored => stored == address) =
    addressee services database organization address
  lowered : onlyOne (contactsAddressed database organization fun stored =>
    services.sqlLower stored == address) = addressee services database organization address

section Spelling

variable {services : Services} {database : Database} {organization : String}

theorem contactsAddressed_sublist
    {narrow wide : String → Bool}
    (implies : ∀ stored, narrow stored = true → wide stored = true) :
    (contactsAddressed database organization narrow).Sublist
      (contactsAddressed database organization wide) := by
  refine List.monotone_filter_right _ fun key holds => ?_
  obtain ⟨contact, found, fits⟩ := (Option.any_eq_true _ _).mp holds
  rw [Bool.and_eq_true] at fits
  exact (Option.any_eq_true _ _).mpr
    ⟨contact, found, Bool.and_eq_true_iff.mpr ⟨fits.1, implies contact.email fits.2⟩⟩

/-- Where the database lowers as the program does, contacts are singled out alike exactly
if one contact has the address just when one contact is stored with it in lower case. -/
theorem singledOutAlike_iff
    (folds : ∀ text, services.sqlLower text = services.lower text)
    (lowered : ∀ text, services.lower (services.lower text) = services.lower text)
    (sender : String) :
    SingledOutAlike services database organization (senderAddress services sender) ↔
      ((contactsAddressed database organization fun stored =>
          stored == senderAddress services sender).length = 1 ↔
        (contactsAddressed database organization fun stored =>
          services.lower stored == senderAddress services sender).length = 1) := by
  have sublist : (contactsAddressed database organization fun stored =>
        stored == senderAddress services sender).Sublist
      (contactsAddressed database organization fun stored =>
        services.lower stored == senderAddress services sender) := by
    refine contactsAddressed_sublist fun stored same => ?_
    rw [beq_iff_eq] at same ⊢
    rw [same]
    exact lowered (PyText.strip sender)
  constructor
  · rintro ⟨stored, -⟩
    unfold addressee at stored
    rw [← not_iff_not, ← ne_eq, ← ne_eq, ← onlyOne_eq_none, ← onlyOne_eq_none, stored]
  · intro alike
    refine ⟨?_, ?_⟩
    · unfold addressee
      by_cases one : (contactsAddressed database organization fun stored =>
          stored == senderAddress services sender).length = 1
      · rw [sublist.eq_of_length (one.trans (alike.mp one).symm)]
      · rw [onlyOne_eq_none.mpr one, onlyOne_eq_none.mpr (mt alike.mpr one)]
    · unfold addressee
      simp only [folds]

end Spelling

/-! ## Attachment -/

/-- The contact of the inbound message that a run inserts. -/
def attachedTo (written : List Change) : Option Nat :=
  written.findSome? fun
    | .insertMessage row => if row.direction = .inbound then some row.contactId else none
    | _ => none

/-- The contact to which the webhook attaches a message of an organization. -/
def attachedByWebhook
    (deployment : Deployment)
    (surroundings : Surroundings)
    (organization : String)
    (message : InboundEmail)
    (database : Database) : Option Nat :=
  attachedTo ((receiveInboundEmail deployment organization message []).written Change.apply
    Signal.prompt surroundings 0 database {})

/-- A message as both handlers receive it: the webhook strips and lowers the address of
the sender, the reader of a mailbox parses and lowers it. -/
def addressed
    (services : Services)
    (message : InboundEmail) : InboundEmail :=
  { message with fromEmail := senderAddress services message.fromEmail }

/-- The contact to which the poll of a mailbox attaches it. -/
def attachedByMailbox
    (deployment : Deployment)
    (surroundings : Surroundings)
    (mailboxId : Nat)
    (organization : String)
    (message : InboundEmail)
    (database : Database) : Option Nat :=
  attachedTo
    ((processMailboxInbound deployment mailboxId organization
      (addressed deployment.services message) []).written Change.apply Signal.prompt
      surroundings 0 database {})

/-- The identifiers under which the handlers store a message. -/
def CarriesIdentity
    (message : InboundEmail)
    (header : String) : Prop :=
  message.normalized.messageId = some header ∨
    inboundIdentity message.normalized = some header

/-- A message with a sender, without thread headers and a known inbox, arrives at a
mailbox and is not stored yet; the database answers, and the new public handle is not in
use. -/
structure Arrives
    (deployment : Deployment)
    (surroundings : Surroundings)
    (mailboxId : Nat)
    (message : InboundEmail)
    (database : Database) : Prop where
  works : ∀ position, surroundings.fault position = false
  unthreaded : threadReferences message.normalized = []
  inbox : truthy message.toEmail = none
  sender : senderAddress deployment.services message.fromEmail ≠ ""
  identified : ∃ identity, inboundIdentity message.normalized = some identity
  unseen : ∀ header, CarriesIdentity message header → ∀ key stored,
    database.messages.get key = some stored → stored.messageIdHeader ≠ some header
  unused : ∀ position prompt,
    database.referenceTaken (surroundings.answer position .newReference prompt) = false
  mailbox : mailboxId < database.mailboxes.size

/-! ## The lookups -/

theorem correlate_unthreaded
    {organization : Option String}
    {email : InboundEmail}
    (unthreaded : threadReferences email = []) :
    correlate organization email = query (findContactByEmail organization email) := by
  unfold correlate
  rw [unthreaded, if_pos rfl]
  rfl

theorem correlateMailboxInbound_unthreaded
    {deployment : Deployment}
    {mailboxId : Nat}
    {organization : String}
    {email : InboundEmail}
    (unthreaded : threadReferences email = [])
    (sender : email.fromEmail ≠ "") :
    correlateMailboxInbound deployment mailboxId organization email = (do
      let senders ← query (contactsBySender deployment.services organization email.fromEmail)
      pure (soleCandidate senders)) := by
  unfold correlateMailboxInbound
  rw [unthreaded, List.filter_nil, if_pos rfl]
  change (if email.fromEmail = "" then _ else _) = _
  rw [if_neg sender]

theorem findContactByEmail_eq
    {database : Database}
    {organization : String}
    {email : InboundEmail}
    (inbox : truthy email.toEmail = none) :
    findContactByEmail (some organization) email database =
      onlyOne (contactsAddressed database organization fun stored =>
        stored == email.fromEmail) := by
  have same : contactsByEmail (some organization) email database =
      contactsAddressed database organization fun stored => stored == email.fromEmail := by
    unfold contactsByEmail contactsAddressed
    congr 1
    funext contact
    rw [inbox, Option.all_none, Bool.and_true, Option.all_some]
    beta_reduce
    ac_rfl
  unfold findContactByEmail
  rw [inbox, same]
  rfl

theorem contactsBySender_eq
    {services : Services}
    {database : Database}
    {organization address : String} :
    contactsBySender services organization address database =
      contactsAddressed database organization fun stored =>
        services.sqlLower stored == address := by
  unfold contactsBySender contactsAddressed
  congr 1
  funext contact
  beta_reduce
  ac_rfl

theorem soleCandidate_toOption (keys : List Nat) :
    (soleCandidate keys).toOption = onlyOne keys := by
  match keys with
  | [] => rfl
  | [only] => rfl
  | first :: second :: rest => rfl

/-! ## The handlers -/

section Handlers

variable {deployment : Deployment} {surroundings : Surroundings} {mailboxId : Nat}
variable {organization : String} {message : InboundEmail} {database : Database}

/-- A program comes to another one without writing. -/
abbrev Settling
    (surroundings : Surroundings)
    (database : Database)
    (first : Nat)
    (start : Program Value)
    (last : Nat)
    (finish : Program Value) : Prop :=
  Process.Settles Signal.prompt surroundings database first (start []) last (finish [])

theorem settling_query
    {read : Database → Value}
    {rest : Value → Program Result}
    {position : Nat}
    (works : surroundings.fault position = false) :
    Settling surroundings database position (query read >>= rest) (position + 1)
      (rest (read database)) :=
  .read works rfl .refl

/-- The next thing that a process does is to insert an inbound message of a contact. -/
def Inserts
    (surroundings : Surroundings)
    (database : Database)
    (first : Nat)
    (start : Script Value)
    (key : Nat) : Prop :=
  ∃ last run next row after,
    Process.Settles Signal.prompt surroundings database first start
      last (.statement run next) ∧
    run database = some [.insertMessage row] ∧
    database.insertMessage row = some after ∧
    row.direction = .inbound ∧ row.contactId = key

theorem Inserts.of_settles
    {start finish : Script Value}
    {first last key : Nat}
    (inserts : Inserts surroundings database last finish key)
    (settles : Process.Settles Signal.prompt surroundings database first start last finish) :
    Inserts surroundings database first start key := by
  obtain ⟨position, run, next, row, after, reached, made, accepted, inbound, owner⟩ := inserts
  exact ⟨position, run, next, row, after, settles.trans reached, made, accepted, inbound, owner⟩

theorem Inserts.andThen
    {start : Script Value}
    {first key : Nat}
    (inserts : Inserts surroundings database first start key)
    (rest : Value → Script Result) :
    Inserts surroundings database first (start.andThen rest) key := by
  obtain ⟨last, run, next, row, after, settles, made, accepted, inbound, owner⟩ := inserts
  exact ⟨last, run, _, row, after, settles.andThen rest, made, accepted, inbound, owner⟩

/-- What inserts the message is what the process does first. -/
theorem Inserts.attached
    {start : Script Value}
    {key : Nat}
    (inserts : Inserts surroundings database 0 start key)
    (works : ∀ position, surroundings.fault position = false) :
    attachedTo (start.written Change.apply Signal.prompt surroundings 0 database {}) =
      some key := by
  obtain ⟨last, run, next, row, after, settles, made, accepted, inbound, owner⟩ := inserts
  have applied : applyAll Change.apply database [.insertMessage row] = some after := by
    simp [applyAll, Change.apply, accepted]
  obtain ⟨more, written⟩ : ∃ more, (Process.statement run next).written Change.apply
      Signal.prompt surroundings last database {} = [.insertMessage row] ++ more :=
    Process.written_statement (works last) made applied
  rw [settles.written, written]
  unfold attachedTo
  rw [List.singleton_append, List.findSome?_cons]
  simp [inbound, owner]

/-- A new message of an existing contact is accepted. -/
theorem Arrives.accepted
    (arrives : Arrives deployment surroundings mailboxId message database)
    (row : Message)
    (contact : row.contactId < database.contacts.size)
    (mailbox : ∀ mailbox, row.mailboxId = some mailbox → mailbox = mailboxId)
    (header : ∀ header, row.messageIdHeader = some header → CarriesIdentity message header)
    {position : Nat}
    {prompt : Option Prompt}
    (reference : row.replyReference =
      some (surroundings.answer position .newReference prompt)) :
    ∃ after, database.insertMessage row = some after := by
  have stored : row.mailboxId.all (fun mailbox => mailbox < database.mailboxes.size) = true := by
    rw [Option.all_eq_true]
    intro known is
    exact decide_eq_true (mailbox known is ▸ arrives.mailbox)
  have fresh : ∀ {Key : Type} [DecidableEq Key] (identity : Message → Option Key),
      (∀ first second value, identity first = some value → identity second = some value →
        ∃ header, first.messageIdHeader = some header ∧
          second.messageIdHeader = some header) →
      database.messages.clashes identity row = false := by
    intro Key _ identity determined
    rw [← Bool.not_eq_true]
    intro taken
    obtain ⟨value, valued, present⟩ := (Option.any_eq_true _ _).mp taken
    obtain ⟨key, other, found, same⟩ := (Table.existsWhere_iff _ _).mp present
    obtain ⟨text, first, second⟩ := determined row other value valued (by simpa using same)
    exact arrives.unseen text (header text first) key other found second
  have global : database.messages.clashes Message.globalIdentity row = false := by
    refine fresh Message.globalIdentity fun first second value left right => ?_
    unfold Message.globalIdentity at left right
    split at left
    · split at right
      · exact ⟨value, left, right⟩
      · cases right
    · cases left
  have polled : database.messages.clashes Message.mailboxIdentity row = false := by
    refine fresh Message.mailboxIdentity fun first second value left right => ?_
    exact ⟨value.2, (mailboxIdentity_eq_some.mp left).2, (mailboxIdentity_eq_some.mp right).2⟩
  have handle : database.messages.clashes Message.replyReference row = false := by
    unfold Table.clashes
    rw [reference]
    exact arrives.unused position prompt
  refine ⟨_, if_neg ?_⟩
  unfold Database.messageRejected
  rw [global, polled, handle, stored, decide_eq_true contact]
  simp

theorem of_truthy
    {text : Option String}
    {value : String}
    (kept : truthy text = some value) :
    text = some value :=
  (Option.filter_eq_some_iff.mp kept).1

/-- The webhook does not take the message for one that it has. -/
theorem Arrives.findDuplicate
    (arrives : Arrives deployment surroundings mailboxId message database)
    {header : String}
    (carried : message.normalized.messageId = some header) :
    findDuplicate (some organization) message.normalized.messageId database = none := by
  have absent : (database.messages.firstWhere fun stored =>
      stored.messageIdHeader == message.normalized.messageId && stored.direction == .inbound &&
        inOrganization database (some organization) stored) = none := by
    refine Table.firstWhere_eq_none.mpr fun key stored found => ?_
    have other := arrives.unseen header (.inl carried) key stored found
    rw [carried, beq_eq_false_iff_ne.mpr other]
    rfl
  unfold Native.findDuplicate
  rw [absent]
  rfl

/-- The poll does not take the message for one that it has. -/
theorem Arrives.findInboundMessage
    (arrives : Arrives deployment surroundings mailboxId message database)
    {identity : String}
    (identified : inboundIdentity message.normalized = some identity) :
    findInboundMessage mailboxId organization identity database = none := by
  have absent : database.messages.firstWhere
      (isInboundMessage database mailboxId organization identity) = none := by
    refine Table.firstWhere_eq_none.mpr fun key stored found => ?_
    have other := arrives.unseen identity (.inr identified) key stored found
    unfold isInboundMessage
    rw [beq_eq_false_iff_ne.mpr other, Bool.and_false]
    rfl
  unfold Native.findInboundMessage
  rw [absent]
  rfl

theorem settling_required
    {rest : Contact → Program Result}
    {position key : Nat}
    {contact : Contact}
    (works : surroundings.fault position = false)
    (found : database.contacts.get key = some contact) :
    Settling surroundings database position
      (loadContact key >>= fun loaded => required loaded >>= rest) (position + 1)
      (rest contact) := by
  have present : required ((database.contacts.get key).map (inSession [] key)) =
      (pure contact : Program Contact) := by
    rw [found]
    rfl
  refine .read works rfl ?_
  change Settling surroundings database (position + 1)
    (required ((database.contacts.get key).map (inSession [] key)) >>= rest) _ (rest contact)
  rw [present]
  exact .refl

theorem receiveCorrelated_inserts
    (arrives : Arrives deployment surroundings mailboxId message database)
    {key : Nat}
    {contact : Contact}
    (found : database.contacts.get key = some contact)
    (position : Nat) :
    Inserts surroundings database position
      (receiveCorrelated deployment (some organization)
        (addressed deployment.services message).normalized key []) key := by
  refine Inserts.of_settles ?_ (settling_required (arrives.works position) found)
  let createdAt : Instant :=
    surroundings.answer (position + 3) .utcnow (some (Signal.utcnow.prompt database))
  let reference : String :=
    surroundings.answer (position + 2) .newReference (some (Signal.newReference.prompt database))
  obtain ⟨after, accepted⟩ := arrives.accepted
    (inboundMessage key none message.normalized.messageId
      (addressed deployment.services message).normalized createdAt reference)
    (Table.lt_size_of_get found) (fun _ => nofun) (fun header is => .inl is) rfl
  exact ⟨position + 4, _, _, _, after, .read (arrives.works _) rfl (.ask (.ask .refl)), rfl,
    accepted, rfl, rfl⟩

theorem storeCorrelated_inserts
    (arrives : Arrives deployment surroundings mailboxId message database)
    {email : InboundEmail}
    {identity : String}
    (identified : inboundIdentity message.normalized = some identity)
    {key : Nat}
    {contact : Contact}
    (found : database.contacts.get key = some contact)
    (position : Nat) :
    Inserts surroundings database position
      (storeCorrelated deployment mailboxId organization identity email key []) key := by
  refine Inserts.of_settles ?_ (settling_required (arrives.works position) found)
  let createdAt : Instant :=
    surroundings.answer (position + 3) .utcnow (some (Signal.utcnow.prompt database))
  let reference : String :=
    surroundings.answer (position + 2) .newReference (some (Signal.newReference.prompt database))
  obtain ⟨after, accepted⟩ := arrives.accepted
    (inboundMessage key (some mailboxId) (some identity) email createdAt reference)
    (Table.lt_size_of_get found) (fun _ known => (Option.some.inj known).symm)
    (fun header is => .inr (is ▸ identified)) rfl
  have admissible := (Database.insertMessage_eq_some accepted).1
  have free := (Database.messageRejected_eq_false admissible).2.2.2.1
  refine ⟨position + 4, _, _, _, after, .read (arrives.works _) rfl (.ask (.ask .refl)), ?_,
    accepted, rfl, rfl⟩
  change some (if _ then [] else [Change.insertMessage _]) = _
  rw [free]
  rfl

/-- What the webhook does with what its lookup found. -/
def receiveFound
    (deployment : Deployment)
    (organization : String)
    (email : InboundEmail) : Option Nat → Program InboundResult
  | none => pure (.unmatched .noMatch)
  | some key => receiveCorrelated deployment (some organization) email key

/-- The webhook goes on with the only contact that is stored with the address. -/
theorem settling_processInboundEmailV2
    (arrives : Arrives deployment surroundings mailboxId message database)
    (organization : String) :
    ∃ position, Settling surroundings database 0
      (processInboundEmailV2 deployment (addressed deployment.services message)
        (some organization)) position
      (receiveFound deployment organization (addressed deployment.services message).normalized
        (onlyOne (contactsAddressed database organization fun stored =>
          stored == senderAddress deployment.services message.fromEmail))) := by
  have threads : threadReferences (addressed deployment.services message).normalized = [] :=
    arrives.unthreaded
  have lookup : findContactByEmail (some organization)
      (addressed deployment.services message).normalized database =
      onlyOne (contactsAddressed database organization fun stored =>
        stored == senderAddress deployment.services message.fromEmail) :=
    findContactByEmail_eq arrives.inbox
  have correlated : ∀ position, Settling surroundings database position
      (correlate (some organization) (addressed deployment.services message).normalized >>=
        receiveFound deployment organization (addressed deployment.services message).normalized)
      (position + 1)
      (receiveFound deployment organization (addressed deployment.services message).normalized
        (onlyOne (contactsAddressed database organization fun stored =>
          stored == senderAddress deployment.services message.fromEmail))) := by
    intro position
    rw [correlate_unthreaded threads, ← lookup]
    exact settling_query (arrives.works position)
  unfold processInboundEmailV2
  dsimp only
  split
  · next named =>
      obtain ⟨header, carried⟩ := Option.isSome_iff_exists.mp named
      have unseen : findDuplicate (some organization)
          (addressed deployment.services message).normalized.messageId database = none :=
        arrives.findDuplicate (of_truthy carried)
      refine ⟨2, (settling_query (arrives.works 0)).trans ?_⟩
      rw [unseen]
      exact correlated 1
  · exact ⟨1, correlated 0⟩

/-- What the poll of a mailbox does with what its lookup found. -/
def storeFound
    (deployment : Deployment)
    (mailboxId : Nat)
    (organization identity : String)
    (email : InboundEmail) : Except UnmatchedReason Nat → Program InboundResult
  | .error reason => do
      retainUnmatched (retainedMessage mailboxId organization identity email reason)
      pure (.unmatched reason)
  | .ok key => storeCorrelated deployment mailboxId organization identity email key

/-- The poll goes on with the only contact whose address the database lowers to it. -/
theorem settling_processMailboxInbound
    (arrives : Arrives deployment surroundings mailboxId message database)
    {identity : String}
    (identified : inboundIdentity message.normalized = some identity)
    (organization : String) :
    Settling surroundings database 0
      (processMailboxInbound deployment mailboxId organization
        (addressed deployment.services message)) 2
      (storeFound deployment mailboxId organization identity
        (addressed deployment.services message).normalized
        (soleCandidate (contactsAddressed database organization fun stored =>
          deployment.services.sqlLower stored ==
            senderAddress deployment.services message.fromEmail))) := by
  have threads : threadReferences (addressed deployment.services message).normalized = [] :=
    arrives.unthreaded
  have named : inboundIdentity (addressed deployment.services message).normalized =
      some identity := identified
  unfold processMailboxInbound
  dsimp only
  rw [named, correlateMailboxInbound_unthreaded threads arrives.sender,
    ← contactsBySender_eq]
  refine (settling_query (arrives.works 0)).trans ?_
  rw [arrives.findInboundMessage identified]
  exact .read (arrives.works 1) rfl .refl

end Handlers

/-! ## What they attach -/

section Attachment

variable {deployment : Deployment} {surroundings : Surroundings} {mailboxId : Nat}
variable {organization : String} {message : InboundEmail} {database : Database}

/-- The changes that insert no message. -/
def unattaching : Bounds Change Signal where
  writes change := ∀ row, change ≠ .insertMessage row
  asks _ := True
  transacts := True

theorem attachedTo_eq_none
    {written : List Change}
    (unattached : ∀ change ∈ written, ∀ row, change ≠ .insertMessage row) :
    attachedTo written = none := by
  unfold attachedTo
  rw [List.findSome?_eq_none_iff]
  intro change member
  split
  · next row => exact (unattached _ member row rfl).elim
  · rfl

theorem confined_retainUnmatched {row : UnmatchedInboundMessage} :
    Program.Confined unattaching (retainUnmatched row) fun _ => True := by
  have inserts : Program.Confined unattaching (execute
      (fun view =>
        if view.unmatched.clashes UnmatchedInboundMessage.mailboxIdentity row then []
        else [.insertUnmatched row])
      fun _ => ()) fun _ => True := by
    refine .execute (fun view change member => ?_) fun _ => trivial
    split at member
    · cases member
    · rw [List.mem_singleton.mp member]
      rintro _ ⟨⟩
  exact .bind inserts fun _ _ => .bind .look fun retained _ =>
    .ite (fun _ => .done) fun _ => .raise _

theorem exists_contactsAddressed
    {addressed : String → Bool}
    {key : Nat}
    (member : key ∈ contactsAddressed database organization addressed) :
    ∃ contact, database.contacts.get key = some contact := by
  obtain ⟨contact, found, -⟩ := (Table.mem_keysWhere _ _ _).mp member
  exact ⟨contact, found⟩

theorem attachedByWebhook_eq
    (arrives : Arrives deployment surroundings mailboxId message database) :
    attachedByWebhook deployment surroundings organization message database =
      onlyOne (contactsAddressed database organization fun stored =>
        stored == senderAddress deployment.services message.fromEmail) := by
  obtain ⟨position, settling⟩ := settling_processInboundEmailV2 arrives organization
  unfold attachedByWebhook
  cases found : onlyOne (contactsAddressed database organization fun stored =>
      stored == senderAddress deployment.services message.fromEmail) with
  | none =>
      rw [found] at settling
      let ending : Program InboundResult := session do
        let result ← receiveFound deployment organization
          (addressed deployment.services message).normalized none
        commit
        pure result
      have ends : Program.Confined unattaching ending fun _ => True :=
        .session trivial (.bind .done fun _ _ => .bind (.commit trivial) fun _ _ => .done)
      have settles : Settling surroundings database 0
          (receiveInboundEmail deployment organization message) position ending :=
        ((settling.andThen _).andThen _).andThen _
      rw [settles.written]
      exact attachedTo_eq_none ((ends [] (fun _ => nofun)).written position database {})
  | some key =>
      rw [found] at settling
      obtain ⟨contact, stored⟩ := exists_contactsAddressed
        (onlyOne_eq_some.mp found ▸ List.mem_singleton_self key)
      have inserts := (receiveCorrelated_inserts arrives stored position).of_settles settling
      exact (((inserts.andThen _).andThen _).andThen _).attached arrives.works

theorem attachedByMailbox_eq
    (arrives : Arrives deployment surroundings mailboxId message database) :
    attachedByMailbox deployment surroundings mailboxId organization message database =
      onlyOne (contactsAddressed database organization fun stored =>
        deployment.services.sqlLower stored ==
          senderAddress deployment.services message.fromEmail) := by
  obtain ⟨identity, identified⟩ := arrives.identified
  have settling := settling_processMailboxInbound arrives identified organization
  rw [← soleCandidate_toOption]
  unfold attachedByMailbox
  cases found : soleCandidate (contactsAddressed database organization fun stored =>
      deployment.services.sqlLower stored ==
        senderAddress deployment.services message.fromEmail) with
  | error reason =>
      rw [found] at settling
      have ends : Program.Confined unattaching (storeFound deployment mailboxId organization
          identity (addressed deployment.services message).normalized (.error reason))
          fun _ => True :=
        .bind confined_retainUnmatched fun _ _ => .done
      rw [settling.written]
      exact attachedTo_eq_none ((ends [] (fun _ => nofun)).written 2 database {})
  | ok key =>
      rw [found] at settling
      have only := (soleCandidate_toOption _).symm.trans (congrArg Except.toOption found)
      obtain ⟨contact, stored⟩ := exists_contactsAddressed
        (onlyOne_eq_some.mp only ▸ List.mem_singleton_self key)
      exact ((storeCorrelated_inserts arrives identified stored 2).of_settles settling).attached
        arrives.works

/-- For every state of an organization and every sender: the webhook and the poll of a
mailbox attach a message by its sender's address as they should (to the contact that has
the address up to letter case if exactly one has, and to none otherwise) exactly if
contacts are singled out alike. -/
theorem sender_correlation_agrees_iff
    (deployment : Deployment)
    (surroundings : Surroundings)
    (mailboxId : Nat)
    (organization : String)
    (message : InboundEmail)
    (database : Database)
    (arrives : Arrives deployment surroundings mailboxId message database) :
    let webhook := attachedByWebhook deployment surroundings organization message database
    let poll := attachedByMailbox deployment surroundings mailboxId organization message database
    let sharing := contactsAddressed database organization fun stored =>
      deployment.services.lower stored ==
        senderAddress deployment.services message.fromEmail
    ((∀ key, sharing = [key] → webhook = some key ∧ poll = some key) ∧
        (sharing.length ≠ 1 → webhook = none ∧ poll = none)) ↔
      SingledOutAlike deployment.services database organization
        (senderAddress deployment.services message.fromEmail) := by
  intro webhook poll sharing
  have byWebhook : webhook = _ := attachedByWebhook_eq arrives
  have byPoll : poll = _ := attachedByMailbox_eq arrives
  have meant : addressee deployment.services database organization
      (senderAddress deployment.services message.fromEmail) = onlyOne sharing := rfl
  constructor
  · rintro ⟨one, other⟩
    cases only : onlyOne sharing with
    | none =>
        obtain ⟨unattached, unpolled⟩ := other (onlyOne_eq_none.mp only)
        exact ⟨byWebhook.symm.trans (unattached.trans (meant.trans only).symm),
          byPoll.symm.trans (unpolled.trans (meant.trans only).symm)⟩
    | some key =>
        obtain ⟨attached, polled⟩ := one key (onlyOne_eq_some.mp only)
        exact ⟨byWebhook.symm.trans (attached.trans (meant.trans only).symm),
          byPoll.symm.trans (polled.trans (meant.trans only).symm)⟩
  · rintro ⟨stored, lowered⟩
    rw [byWebhook, byPoll, stored, lowered, meant]
    exact ⟨fun key alone => ⟨onlyOne_eq_some.mpr alone, onlyOne_eq_some.mpr alone⟩,
      fun several => ⟨onlyOne_eq_none.mpr several, onlyOne_eq_none.mpr several⟩⟩

end Attachment

namespace Sample

/-- An installation whose program and database lower an address alike. -/
def lowering : Deployment :=
  { spellingDeployment with
    services := { spellingServices with sqlLower := spellingServices.lower } }

/-- An organization with a campaign, a mailbox and a contact that was added. -/
def addedContact (address : String) : List Action :=
  perform 0 (.createCampaign "acme" campaign) answer 3 ++
    perform 1 (.createMailbox "acme" polledMailbox) answer 6 ++
    perform 2 (.addContacts "acme" 0 [{ email := address }]) answer 6

/-- The first letter of a sender that is never stored before. -/
theorem arrives_letter
    {database : Database}
    {sender : String}
    (named : senderAddress lowering.services sender ≠ "")
    (mailbox : 0 < database.mailboxes.size)
    (empty : database.messages.size = 0) :
    Arrives lowering surroundings 0 (letter sender "<m@x.test>") database := by
  have absent : ∀ key stored, database.messages.get key ≠ some stored := by
    intro key stored found
    have bound := Table.lt_size_of_get found
    omega
  have identified : inboundIdentity (letter "" "<m@x.test>").normalized =
      some "<m@x.test>" := by decide +kernel
  refine ⟨fun _ => rfl, rfl, rfl, named, ⟨"<m@x.test>", identified⟩, ?_, ?_, mailbox⟩
  · exact fun _ _ key stored found => (absent key stored found).elim
  · intro position prompt
    rw [← Bool.not_eq_true]
    intro taken
    obtain ⟨key, stored, found, -⟩ := (Table.existsWhere_iff _ _).mp taken
    exact absent key stored found

/-- A reachable state with one contact. -/
theorem exists_addedContact
    (address : String)
    (property : Database → Bool)
    (holds : ((system lowering).run {} (addedContact address)).any (fun world =>
      decide (0 < world.database.mailboxes.size) &&
        decide (world.database.messages.size = 0) && property world.database) = true) :
    ∃ world, (system lowering).Reachable world ∧ 0 < world.database.mailboxes.size ∧
      world.database.messages.size = 0 ∧ property world.database = true := by
  obtain ⟨world, reachable, checked⟩ := reachable_of_any lowering (addedContact address) _ holds
  simp only [Bool.and_eq_true, decide_eq_true_eq] at checked
  exact ⟨world, reachable, checked.1.1, checked.1.2, checked.2⟩

end Sample

/-- A contact that was added in lower case is found by both. -/
theorem sender_correlation_agrees_of_lower_case :
    ∃ world, (system Sample.lowering).Reachable world ∧
      attachedByWebhook Sample.lowering Sample.surroundings "acme"
        (Sample.letter "John@example.com" "<m@x.test>") world.database = some 0 ∧
      attachedByMailbox Sample.lowering Sample.surroundings 0 "acme"
        (Sample.letter "John@example.com" "<m@x.test>") world.database = some 0 := by
  obtain ⟨world, reachable, mailbox, empty, holds⟩ := Sample.exists_addedContact
    "john@example.com"
    (fun database => decide (
      (contactsAddressed database "acme" fun stored => stored == "john@example.com") = [0] ∧
      (contactsAddressed database "acme" fun stored =>
        Sample.lowering.services.lower stored == "john@example.com") = [0] ∧
      (contactsAddressed database "acme" fun stored =>
        Sample.lowering.services.sqlLower stored == "john@example.com") = [0]))
    (by decide +kernel)
  obtain ⟨stored, sharing, lowered⟩ := of_decide_eq_true holds
  have address : senderAddress Sample.lowering.services "John@example.com" =
      "john@example.com" := by decide +kernel
  have alike : SingledOutAlike Sample.lowering.services world.database "acme"
      (senderAddress Sample.lowering.services "John@example.com") := by
    rw [address]
    exact ⟨by rw [addressee, stored, sharing], by rw [addressee, lowered, sharing]⟩
  have agrees := sender_correlation_agrees_iff Sample.lowering Sample.surroundings 0 "acme"
    (Sample.letter "John@example.com" "<m@x.test>") world.database
    (Sample.arrives_letter (by rw [address]; decide) mailbox empty)
  exact ⟨world, reachable, (agrees.mpr alike).1 0 (address ▸ sharing)⟩

/-- A contact that was added with a capital letter is found by the poll, and not by the
webhook. -/
theorem sender_correlation_disagrees :
    ∃ world, (system Sample.lowering).Reachable world ∧
      Arrives Sample.lowering Sample.surroundings 0
        (Sample.letter "John@example.com" "<m@x.test>") world.database ∧
      (contactsAddressed world.database "acme" fun stored =>
        Sample.lowering.services.lower stored ==
          senderAddress Sample.lowering.services "John@example.com") = [0] ∧
      attachedByWebhook Sample.lowering Sample.surroundings "acme"
        (Sample.letter "John@example.com" "<m@x.test>") world.database = none ∧
      attachedByMailbox Sample.lowering Sample.surroundings 0 "acme"
        (Sample.letter "John@example.com" "<m@x.test>") world.database = some 0 := by
  obtain ⟨world, reachable, mailbox, empty, holds⟩ := Sample.exists_addedContact
    "John@example.com"
    (fun database => decide (
      (contactsAddressed database "acme" fun stored =>
        Sample.lowering.services.lower stored ==
          senderAddress Sample.lowering.services "John@example.com") = [0] ∧
      attachedByWebhook Sample.lowering Sample.surroundings "acme"
        (Sample.letter "John@example.com" "<m@x.test>") database = none ∧
      attachedByMailbox Sample.lowering Sample.surroundings 0 "acme"
        (Sample.letter "John@example.com" "<m@x.test>") database = some 0))
    (by decide +kernel)
  obtain ⟨sharing, missed, found⟩ := of_decide_eq_true holds
  exact ⟨world, reachable, Sample.arrives_letter (by decide +kernel) mailbox empty, sharing,
    missed, found⟩

end MailerAgent
