import MailerAgent.Native.Company
import MailerAgent.Native.Changes
import MailerAgent.World.Ingestion
import MailerAgent.World.Tenants

/-!
# Deliveries of one message through two channels

The webhook looks for a message among all that its organization has received, the poll of a
mailbox only among those that were received through this mailbox. In a sequence of
deliveries of one message to an organization the poll therefore stores it once more if the
webhook stored it first, and the webhook does not if the poll did. Where no poll meets a
copy of the webhook, at most one copy is stored, and one as soon as a delivery has found
its contact.
-/

namespace MailerAgent

open Concurrent Relational Mail Native Program

/-! ## Copies of a message -/

/-- A message that an organization has received under a Message-ID. -/
def isCopy
    (organization header : String)
    (database : Database)
    (message : Message) : Bool :=
  message.messageIdHeader == some header && message.direction == .inbound &&
    inOrganization database (some organization) message

/-- The copies that are stored. -/
def copies
    (organization header : String)
    (database : Database) : List Nat :=
  database.messages.keysWhere (isCopy organization header database)

/-- The changes of a handler, whose inbound messages come through a mailbox or, for
`none`, through the webhook. -/
def Native.Change.Through (mailbox : Option Nat) : Change → Prop
  | .insertMessage row => row.mailboxId = mailbox ∨ row.direction = .outbound
  | change => change.ordinary

/-- What a handler does before it ends its transaction. -/
def through (mailbox : Option Nat) : Bounds Change Signal where
  writes change := change.Through mailbox
  asks _ := True
  transacts := False

instance (mailbox : Option Nat) : Admits (through mailbox) where
  updates _ _ := trivial
  messages _ outbound := .inr outbound
  notes {change} notes := by
    cases change with
    | insertSuppression row => trivial
    | interpretMessage contactId reference interpretation => trivial
    | _ => exact notes.elim
  asks _ := trivial

theorem Native.Change.Through.ordinary
    {mailbox : Option Nat}
    {change : Change}
    (passes : change.Through mailbox) :
    change.ordinary := by
  cases change with
  | insertMessage row => trivial
  | _ => exact passes

section Copies

variable {organization header : String} {before after : Database} {writes : List Change}
variable {mailbox : Option Nat} {message : Message} {key : Nat}

theorem isCopy_iff :
    isCopy organization header before message = true ↔
      message.messageIdHeader = some header ∧ message.direction = .inbound ∧
        inOrganization before (some organization) message = true := by
  simp [isCopy, and_assoc]

theorem mem_copies :
    key ∈ copies organization header before ↔ ∃ message,
      before.messages.get key = some message ∧
        isCopy organization header before message = true :=
  Table.mem_keysWhere _ _ _

/-- Handlers do not change to whom a message belongs. -/
theorem inOrganization_of_applied
    {first second : Message}
    (ordinary : ∀ change ∈ writes, change.ordinary)
    (applied : applyAll Change.apply before writes = some after)
    (same : second.contactId = first.contactId)
    (valid : first.contactId < before.contacts.size) :
    inOrganization after (some organization) second =
      inOrganization before (some organization) first := by
  obtain ⟨contact, found⟩ := Table.exists_get_of_lt_size valid
  obtain ⟨kept, foundKept, person⟩ :=
    tracks_contacts.extends_table (fun _ _ => trivial) applied _ contact found
  unfold inOrganization Database.organizationOf Database.campaignOf
  rw [Option.all_some, Option.all_some, same, found, foundKept, Option.any_some, Option.any_some,
    (applyAll_sameParties ordinary applied).campaigns, person.1]

/-- A copy that is there after a transaction was there before or came through the
channel. -/
theorem copy_of_applied
    (wellFormed : before.WellFormed)
    (passes : ∀ change ∈ writes, change.Through mailbox)
    (applied : applyAll Change.apply before writes = some after)
    (found : after.messages.get key = some message)
    (copy : isCopy organization header after message = true) :
    key ∈ copies organization header before ∨ message.mailboxId = mailbox := by
  have ordinary : ∀ change ∈ writes, change.ordinary :=
    fun change member => (passes change member).ordinary
  obtain ⟨identity, inbound, member⟩ := isCopy_iff.mp copy
  rcases tracks_messages.origin ordinary applied found with
    ⟨old, foundOld, contactId, direction, -, sameHeader⟩ |
    ⟨change, written, row, inserted, -, direction, via, -⟩
  · refine .inl (mem_copies.mpr ⟨old, foundOld, isCopy_iff.mpr
      ⟨sameHeader.symm.trans identity, direction.symm.trans inbound, ?_⟩⟩)
    rw [inOrganization_of_applied ordinary applied contactId
      (wellFormed.messageContact key old foundOld)] at member
    exact member
  · right
    cases change with
    | insertMessage fresh =>
        obtain rfl := Option.some.inj inserted
        rcases passes _ written with here | outbound
        · exact via.trans here
        · rw [direction, outbound] at inbound
          cases inbound
    | _ => cases inserted

/-- Copies stay. -/
theorem mem_copies_of_applied
    (wellFormed : before.WellFormed)
    (ordinary : ∀ change ∈ writes, change.ordinary)
    (applied : applyAll Change.apply before writes = some after)
    (copied : key ∈ copies organization header before) :
    key ∈ copies organization header after := by
  obtain ⟨old, foundOld, copy⟩ := mem_copies.mp copied
  obtain ⟨identity, inbound, member⟩ := isCopy_iff.mp copy
  obtain ⟨kept, found, contactId, direction, -, sameHeader⟩ :=
    tracks_messages.extends_table ordinary applied key old foundOld
  refine mem_copies.mpr ⟨kept, found, isCopy_iff.mpr
    ⟨sameHeader.trans identity, direction.trans inbound, ?_⟩⟩
  rw [inOrganization_of_applied ordinary applied contactId
    (wellFormed.messageContact key old foundOld)]
  exact member

/-- An inserted copy is stored. -/
theorem exists_copy_of_inserted
    (ordinary : ∀ change ∈ writes, change.ordinary)
    (applied : applyAll Change.apply before writes = some after)
    (inserted : .insertMessage message ∈ writes)
    (copy : isCopy organization header before message = true) :
    ∃ key, key ∈ copies organization header after := by
  obtain ⟨identity, inbound, member⟩ := isCopy_iff.mp copy
  obtain ⟨key, kept, found, contactId, direction, -, sameHeader⟩ :=
    tracks_messages.get_inserted ordinary applied inserted rfl
  refine ⟨key, mem_copies.mpr ⟨kept, found, isCopy_iff.mpr
    ⟨sameHeader.trans identity, direction.trans inbound, ?_⟩⟩⟩
  have valid : message.contactId < before.contacts.size := by
    simp only [inOrganization, Option.all_some] at member
    obtain ⟨contact, present, -⟩ := (Option.any_eq_true _ _).mp member
    exact Table.lt_size_of_get present
  rw [inOrganization_of_applied ordinary applied contactId valid]
  exact member

/-- Copies of one channel are one copy. -/
theorem copies_subsingleton
    (wellFormed : before.WellFormed)
    (alike : ∀ key ∈ copies organization header before, ∀ message,
      before.messages.get key = some message → message.mailboxId = mailbox) :
    (copies organization header before).length ≤ 1 := by
  have same : ∀ first ∈ copies organization header before,
      ∀ second ∈ copies organization header before, first = second := by
    intro first one second other
    obtain ⟨left, foundLeft, copyLeft⟩ := mem_copies.mp one
    obtain ⟨right, foundRight, copyRight⟩ := mem_copies.mp other
    have leftThrough := alike first one left foundLeft
    have rightThrough := alike second other right foundRight
    have leftHeader := (isCopy_iff.mp copyLeft).1
    have rightHeader := (isCopy_iff.mp copyRight).1
    cases mailbox with
    | none =>
        refine wellFormed.messageGlobal first second left right header foundLeft foundRight ?_ ?_
        · rw [Message.globalIdentity, if_pos leftThrough, leftHeader]
        · rw [Message.globalIdentity, if_pos rightThrough, rightHeader]
    | some mailboxId =>
        refine wellFormed.messageMailbox first second left right (mailboxId, header) foundLeft
          foundRight ?_ ?_
        · rw [Message.mailboxIdentity, leftThrough, leftHeader]
        · rw [Message.mailboxIdentity, rightThrough, rightHeader]
  exact Table.length_le_one_of_nodup (Table.nodup_keysWhere _ _) same

end Copies

/-! ## One delivery -/

/-- A process that nobody interferes with. -/
def quiet : Company Database Change where
  apply := Change.apply
  others := Eq
  refl _ := rfl
  trans := Eq.trans

/-- A delivery to an organization: through its webhook, or by the poll of a mailbox. -/
inductive Delivery where
  | webhook (payload : InboundEmail)
  | poll (email : InboundEmail)

namespace Delivery

/-- What is delivered. -/
def email : Delivery → InboundEmail
  | webhook payload => payload
  | poll email => email

/-- The handling of a delivery. -/
def program
    (deployment : Deployment)
    (target : MailboxImapTarget) :
    Delivery → Program InboundResult
  | webhook payload => receiveInboundEmail deployment target.organizationId payload
  | poll email => persistInbound deployment target email

/-- The channel of a delivery. -/
def channel (target : MailboxImapTarget) : Delivery → Option Nat
  | webhook _ => none
  | poll _ => some target.mailboxId

end Delivery

/-- The handler attached the message to a contact, now or before. -/
def Native.InboundResult.IsMatched : InboundResult → Prop
  | .matched _ _ => True
  | .unmatched _ => False

namespace Delivery

section Circumstances

variable (organization header : String) (before : Database) (mailbox : Option Nat)
variable (fresh : Prop)

/-- Nothing was written yet, and something is known about the database. -/
def idle (known : Prop) : Circumstance quiet where
  holds pending store session :=
    pending = [] ∧ session.writes = [] ∧ store = before ∧ known
  stable := by
    rintro pending store next session holds rfl
    exact holds

/-- A copy is stored, or the changes insert one. -/
def CopyMade (changes : List Change) : Prop :=
  (∃ key, key ∈ copies organization header before) ∨
    ∃ row, .insertMessage row ∈ changes ∧ isCopy organization header before row = true

variable {organization header before} in
theorem CopyMade.grown
    {first second : List Change}
    (made : CopyMade organization header before first) :
    CopyMade organization header before (first ++ second) :=
  made.imp_right fun ⟨row, member, copy⟩ => ⟨row, List.mem_append_left _ member, copy⟩

/-- The message is new, and the transaction makes changes of its channel. -/
def underWay (attached : Prop) : Circumstance quiet where
  holds pending store session :=
    store = before ∧ fresh ∧ (∀ change ∈ session.writes ++ pending, change.Through mailbox) ∧
      (attached → CopyMade organization header before session.writes)
  stable := by
    rintro pending store next session holds rfl
    exact holds

/-- The message was handled: nothing was changed, or the message is new. -/
def handled (attached : Prop) : Circumstance quiet where
  holds pending store session :=
    (idle before (attached → CopyMade organization header before [])).holds pending store
        session ∨
      (underWay organization header before mailbox fresh attached).holds pending store session
  stable := by
    rintro pending store next session holds rfl
    exact holds

/-- The transaction has ended. -/
def closed (attached : Prop) : Circumstance quiet where
  holds _ store _ :=
    (store = before ∨ fresh ∧ ∃ writes, (∀ change ∈ writes, change.Through mailbox) ∧
      applyAll Change.apply before writes = some store) ∧
      (attached → ∃ key, key ∈ copies organization header store)
  stable := by
    rintro pending store next session holds rfl
    exact holds

end Circumstances

section Handling

variable {organization header : String} {before : Database} {mailbox : Option Nat}
variable {fresh known attached : Prop} {Value : Type}
variable {raises : Failure → Circumstance quiet}

/-- A query before the first change is about the database. -/
theorem leads_query
    {read : Database → Value}
    (failed : ∀ pending store session, store = before →
      (raises .database).holds pending store session) :
    Leads (idle before known) (query read)
      (fun value => idle before (known ∧ value = read before)) raises := by
  refine .query ?_ fun _ _ _ holds => failed _ _ _ holds.2.2.1
  rintro pending store session view ⟨empty, unwritten, rfl, holds⟩ _ seen
  rw [unwritten] at seen
  obtain rfl := Option.some.inj seen
  exact ⟨empty, unwritten, rfl, holds, rfl⟩

theorem closed_of_before
    {pending : List Change}
    {store : Database}
    {session : Session Change}
    (same : store = before) :
    (closed organization header before mailbox fresh False).holds pending store session :=
  ⟨.inl same, False.elim⟩

/-- A query of whose result nothing is said. -/
theorem leads_look {read : Database → Value} :
    Leads (idle before known) (query read) (fun _ => idle before known)
      fun _ => closed organization header before mailbox fresh False := by
  refine (leads_query fun _ _ _ => closed_of_before).weaken ?_ fun _ _ _ _ => id
  rintro found pending store session ⟨empty, unwritten, same, holds, -⟩
  exact ⟨empty, unwritten, same, holds⟩

theorem leads_ask {signal : Signal} :
    Leads (idle before known) (ask signal) (fun _ => idle before known)
      fun _ => closed organization header before mailbox fresh False :=
  .ask fun _ _ _ _ => id

theorem leads_loadContact {key : Nat} :
    Leads (idle before known) (loadContact key) (fun _ => idle before known)
      fun _ => closed organization header before mailbox fresh False := by
  intro pending
  have reads : Leads (idle before known)
      (query fun view => (view.contacts.get key).map (inSession pending key))
      (fun _ => idle before known)
      fun _ => closed organization header before mailbox fresh False := leads_look
  exact reads pending

theorem leads_required {value : Option Value} :
    Leads (idle before known) (required value) (fun _ => idle before known)
      fun _ => closed organization header before mailbox fresh False := by
  cases value with
  | none => exact .raise fun _ _ _ holds => closed_of_before holds.2.2.1
  | some present => exact .pure fun _ _ _ => id

/-- What ends no transaction makes changes of its channel. -/
theorem leads_through
    {program : Program Value}
    (heeds : Heeds (through mailbox) program) :
    Leads (underWay organization header before mailbox fresh attached) program
      (fun _ => underWay organization header before mailbox fresh attached)
      fun _ => closed organization header before mailbox fresh False := by
  refine .confined heeds not_false ?_ ?_ ?_
  · exact fun pending store session holds change member =>
      holds.2.2.1 change (List.mem_append_right _ member)
  · rintro pending store session value waiting made aborted ⟨same, new, passes, copied⟩ -
      passing making -
    refine ⟨same, new, fun change member => ?_, fun holds => (copied holds).grown⟩
    rcases List.mem_append.mp member with written | waits
    · rcases List.mem_append.mp written with earlier | now
      · exact passes change (List.mem_append_left _ earlier)
      · exact making change now
    · exact passing change waits
  · rintro pending store session failure waiting made aborted ⟨same, -⟩ - - -
    exact closed_of_before same

/-- What a commit of the changes of the channel leaves. -/
theorem exists_copy_of_made
    {writes : List Change}
    {result : Database}
    (wellFormed : before.WellFormed)
    (passes : ∀ change ∈ writes, change.Through mailbox)
    (applied : applyAll Change.apply before writes = some result)
    (made : CopyMade organization header before writes) :
    ∃ key, key ∈ copies organization header result := by
  have ordinary : ∀ change ∈ writes, change.ordinary :=
    fun change member => (passes change member).ordinary
  rcases made with ⟨key, copied⟩ | ⟨row, inserted, copy⟩
  · exact ⟨key, mem_copies_of_applied wellFormed ordinary applied copied⟩
  · exact exists_copy_of_inserted ordinary applied inserted copy

theorem leads_flush :
    Leads (handled organization header before mailbox fresh attached) flush
      (fun _ => handled organization header before mailbox fresh attached)
      fun _ => closed organization header before mailbox fresh False := by
  have same : ∀ pending store session,
      (handled organization header before mailbox fresh attached).holds pending store session →
      store = before :=
    fun _ _ _ holds => holds.elim (fun idle => idle.2.2.1) fun busy => busy.1
  refine .flush (fun _ _ => id) ?_ (fun _ _ _ holds _ => closed_of_before (same _ _ _ holds))
    fun _ _ _ holds => closed_of_before (same _ _ _ holds)
  rintro pending store session view after (⟨rfl, unwritten, rest⟩ | ⟨same, new, passes, copied⟩) - -
    -
  · refine .inl ⟨rfl, ?_, rest⟩
    change session.writes ++ [] = []
    rw [List.append_nil, unwritten]
  · refine .inr ⟨same, new, fun change member => ?_, fun holds => (copied holds).grown⟩
    rw [List.append_nil] at member
    refine passes change (List.mem_append.mpr ((List.mem_append.mp member).imp_right ?_))
    exact mem_unitOfWork.mp

theorem leads_commit (wellFormed : before.WellFormed) :
    Leads (handled organization header before mailbox fresh attached) commit
      (fun _ => closed organization header before mailbox fresh attached)
      fun _ => closed organization header before mailbox fresh False := by
  refine .bind leads_flush fun _ => .commitTransaction ?_ ?_
  · rintro pending store session result
      (⟨-, unwritten, rfl, copied⟩ | ⟨rfl, new, passes, copied⟩) - applied
    · rw [unwritten] at applied
      obtain rfl := Option.some.inj applied
      refine ⟨⟨.inl rfl, fun holds => ?_⟩, closed_of_before rfl⟩
      exact (copied holds).resolve_right fun ⟨_, member, _⟩ => List.not_mem_nil member
    · have changes : ∀ change ∈ session.writes, change.Through mailbox :=
        fun change member => passes change (List.mem_append_left _ member)
      have made : result = store ∨ fresh ∧ ∃ writes,
          (∀ change ∈ writes, change.Through mailbox) ∧
            applyAll Change.apply store writes = some result :=
        .inr ⟨new, session.writes, changes, applied⟩
      exact ⟨⟨made, fun holds => exists_copy_of_made wellFormed changes applied (copied holds)⟩,
        made, False.elim⟩
  · rintro pending store session (⟨-, -, same, -⟩ | ⟨same, -⟩) - <;> exact closed_of_before same

end Handling

/-! ## Correlation -/

/-- The contact under a key belongs to an organization. -/
def Member
    (before : Database)
    (organization : String)
    (key : Nat) : Prop :=
  (before.contacts.get key).any (fun contact =>
    before.organizationOf contact == some organization) = true

section Correlation

variable {organization header : String} {before : Database} {mailbox : Option Nat}
variable {fresh known : Prop} {email : InboundEmail} {target : MailboxImapTarget}
variable {deployment : Deployment}

theorem member_of_findContactByMessageId
    {key : Nat}
    (found : findContactByMessageId (some organization) email before = some key) :
    Member before organization key := by
  obtain ⟨message, newest, rfl⟩ := Option.map_eq_some_iff.mp found
  have listed := (List.mem_insertionSort _).mp (List.mem_of_mem_head? newest)
  obtain ⟨position, selected, present⟩ := List.mem_filterMap.mp listed
  obtain ⟨stored, foundStored, matching⟩ := (Table.mem_keysWhere _ _ _).mp selected
  obtain rfl := Option.some.inj (foundStored.symm.trans present)
  exact (Bool.and_eq_true_iff.mp matching).2

theorem member_of_findContactByEmail
    {key : Nat}
    (found : findContactByEmail (some organization) email before = some key) :
    Member before organization key := by
  have candidate : key ∈ contactsByEmail (some organization) email before := by
    unfold findContactByEmail at found
    split at found
    · exact (List.mem_insertionSort _).mp (List.mem_of_mem_head? found)
    · dsimp only at found
      split at found
      · next only sole =>
          rw [sole]
          exact List.mem_singleton.mpr (Option.some.inj found).symm
      · cases found
  obtain ⟨contact, foundContact, matching⟩ := (Table.mem_keysWhere _ _ _).mp candidate
  simp only [Bool.and_eq_true] at matching
  unfold Member
  rw [foundContact]
  exact matching.1.2

/-- The contact that the webhook finds belongs to the organization. -/
theorem leads_correlate :
    Leads (idle before known) (correlate (some organization) email)
      (fun found => idle before (known ∧ ∀ key, found = some key → Member before organization key))
      fun _ => closed organization header before mailbox fresh False := by
  have falls : ∀ byThread,
      Leads (idle before (known ∧
          ∀ key, byThread = some key → Member before organization key))
        (if byThread.isSome || !(threadReferences email).isEmpty then pure byThread
          else query (findContactByEmail (some organization) email))
        (fun found => idle before
          (known ∧ ∀ key, found = some key → Member before organization key))
        fun _ => closed organization header before mailbox fresh False := by
    intro byThread
    refine .ite (fun _ => .pure fun _ _ _ => id) fun _ => ?_
    refine (leads_query fun _ _ _ => closed_of_before).weaken ?_ fun _ _ _ _ => id
    rintro found pending store session ⟨empty, unwritten, same, ⟨holds, -⟩, rfl⟩
    exact ⟨empty, unwritten, same, holds, fun key => member_of_findContactByEmail⟩
  refine .ite (fun _ => ?_) fun _ => ?_
  · refine .bind (.pure ?_) falls
    rintro pending store session ⟨empty, unwritten, same, holds⟩
    exact ⟨empty, unwritten, same, holds, fun key => nofun⟩
  · refine .bind ((leads_query fun _ _ _ => closed_of_before).weaken ?_ fun _ _ _ _ => id) falls
    rintro found pending store session ⟨empty, unwritten, same, holds, rfl⟩
    exact ⟨empty, unwritten, same, holds, fun key => member_of_findContactByMessageId⟩

/-- The contacts of the messages that the poll finds belong to the organization. -/
theorem member_of_referredMessages
    {entry : Nat × Message}
    (listed : entry ∈ referredMessages organization email before) :
    Member before organization entry.2.contactId := by
  obtain ⟨position, selected, same⟩ := List.mem_filterMap.mp listed
  obtain ⟨row, found, rfl⟩ := Option.map_eq_some_iff.mp same
  obtain ⟨stored, foundStored, matching⟩ := (Table.mem_keysWhere _ _ _).mp selected
  obtain rfl := Option.some.inj (foundStored.symm.trans found)
  exact (Bool.and_eq_true_iff.mp matching).2

theorem leads_eligibleContacts {referred : List (Nat × Message)} :
    Leads (idle before known) (eligibleContacts target.mailboxId target.organizationId referred)
      (fun eligible => idle before
        (known ∧ ∀ key ∈ eligible, key ∈ referred.map fun entry => entry.2.contactId))
      fun _ => closed organization header before mailbox fresh False := by
  induction referred with
  | nil =>
      refine .pure ?_
      rintro pending store session ⟨empty, unwritten, same, holds⟩
      exact ⟨empty, unwritten, same, holds, fun _ member => (List.not_mem_nil member).elim⟩
  | cons entry rest inductionHypothesis =>
      have collects : ∀ eligible : Bool, Leads (idle before known)
          (do
            let others ← eligibleContacts target.mailboxId target.organizationId rest
            pure (if eligible then entry.2.contactId :: others else others))
          (fun result => idle before (known ∧
            ∀ key ∈ result, key ∈ (entry :: rest).map fun entry => entry.2.contactId))
          fun _ => closed organization header before mailbox fresh False := by
        intro eligible
        refine .bind inductionHypothesis fun others => .pure ?_
        rintro pending store session ⟨empty, unwritten, same, holds, included⟩
        refine ⟨empty, unwritten, same, holds, fun key member => ?_⟩
        cases eligible with
        | false => exact List.mem_cons_of_mem _ (included key member)
        | true =>
            rcases List.mem_cons.mp member with rfl | other
            · exact List.mem_cons_self
            · exact List.mem_cons_of_mem _ (included key other)
      refine .ite (fun _ => ?_) fun _ => ?_
      · exact .bind (.pure fun _ _ _ => id) collects
      · exact .bind leads_look fun _ => collects _

theorem member_of_soleCandidate
    {services : Services}
    {address : String}
    {key : Nat}
    (sole : soleCandidate (contactsBySender services organization address before) = .ok key) :
    Member before organization key := by
  have candidate : key ∈ contactsBySender services organization address before := by
    match shape : contactsBySender services organization address before with
    | [] =>
        rw [shape] at sole
        cases sole
    | [only] =>
        rw [shape] at sole
        cases sole
        exact List.mem_singleton_self _
    | _ :: _ :: _ =>
        rw [shape] at sole
        cases sole
  obtain ⟨contact, found, matching⟩ := (Table.mem_keysWhere _ _ _).mp candidate
  simp only [Bool.and_eq_true] at matching
  unfold Member
  rw [found]
  exact matching.1.1

/-- The contact that the poll finds belongs to the organization. -/
theorem leads_correlateMailboxInbound :
    Leads (idle before known)
      (correlateMailboxInbound deployment target.mailboxId target.organizationId email)
      (fun found => idle before
        (known ∧ ∀ key, found = .ok key → Member before target.organizationId key))
      fun _ => closed organization header before mailbox fresh False := by
  have continues : ∀ referred : List (Nat × Message), Leads
      (idle before (known ∧
        ∀ entry ∈ referred, Member before target.organizationId entry.2.contactId))
      (correlateReferred deployment target.mailboxId target.organizationId email referred)
      (fun found => idle before
        (known ∧ ∀ key, found = .ok key → Member before target.organizationId key))
      fun _ => closed organization header before mailbox fresh False := by
    intro referred
    refine .bind leads_eligibleContacts fun threads => ?_
    split
    · next only sole =>
        refine .pure ?_
        rintro pending store session ⟨empty, unwritten, same, ⟨holds, members⟩, included⟩
        refine ⟨empty, unwritten, same, holds, ?_⟩
        rintro key ⟨⟩
        have listed : only ∈ threads := by
          rw [← List.mem_eraseDups, sole]
          exact List.mem_cons_self
        obtain ⟨entry, present, rfl⟩ := List.mem_map.mp (included only listed)
        exact members entry present
    · refine .pure ?_
      rintro pending store session ⟨empty, unwritten, same, ⟨holds, -⟩, -⟩
      exact ⟨empty, unwritten, same, holds, fun _ sole => by cases sole⟩
    · refine .ite (fun _ => .pure ?_) fun _ => .bind
        (leads_query fun _ _ _ => closed_of_before) fun senders => .pure ?_
      · rintro pending store session ⟨empty, unwritten, same, ⟨holds, -⟩, -⟩
        exact ⟨empty, unwritten, same, holds, fun _ sole => by cases sole⟩
      · rintro pending store session ⟨empty, unwritten, same, ⟨⟨holds, -⟩, -⟩, rfl⟩
        exact ⟨empty, unwritten, same, holds, fun key => member_of_soleCandidate⟩
  rw [correlateMailboxInbound_eq]
  refine .ite (fun _ => .bind (.pure ?_) continues) fun _ => .bind
    ((leads_query fun _ _ _ => closed_of_before).weaken ?_ fun _ _ _ _ => id) continues
  · rintro pending store session ⟨empty, unwritten, same, holds⟩
    exact ⟨empty, unwritten, same, holds, fun _ member => (List.not_mem_nil member).elim⟩
  · rintro referred pending store session ⟨empty, unwritten, same, holds, rfl⟩
    exact ⟨empty, unwritten, same, holds, fun entry => member_of_referredMessages⟩

end Correlation

/-! ## The webhook -/

section Webhook

variable {organization header : String} {before : Database} {deployment : Deployment}
variable {email : InboundEmail} {key : Nat}

/-- No copy is stored. -/
def Unseen
    (organization header : String)
    (before : Database) : Prop :=
  ∀ key, key ∉ copies organization header before

theorem mem_copies_of_findDuplicate
    {found : Nat × Message}
    (duplicate : findDuplicate (some organization) (some header) before = some found) :
    found.1 ∈ copies organization header before := by
  obtain ⟨position, first, present⟩ := Option.bind_eq_some_iff.mp duplicate
  obtain ⟨message, -, rfl⟩ := Option.map_eq_some_iff.mp present
  obtain ⟨row, foundRow, copy⟩ := Table.firstWhere_eq_some first
  exact mem_copies.mpr ⟨row, foundRow, copy⟩

theorem findDuplicate_of_unseen (unseen : Unseen organization header before) :
    findDuplicate (some organization) (some header) before = none := by
  rw [Option.eq_none_iff_forall_ne_some]
  exact fun found duplicate => unseen _ (mem_copies_of_findDuplicate duplicate)

variable (organization header before) in
/-- The new row waits for a flush. -/
def inserting (row : Message) : Circumstance quiet where
  holds pending store session :=
    store = before ∧ Unseen organization header before ∧ session.writes = [] ∧
      pending = [.insertMessage row] ∧ isCopy organization header before row = true ∧
      row.mailboxId = none
  stable := by
    rintro pending store next session holds rfl
    exact holds

variable (organization header before) in
/-- The row is inserted, or the transaction is lost. -/
def inserted : Except Failure Unit → Circumstance quiet
  | .ok _ => underWay organization header before none (Unseen organization header before) True
  | .error _ =>
      { holds := fun _ store _ => store = before ∧ Unseen organization header before
        stable := by
          rintro pending store next session holds rfl
          exact holds }

theorem leads_insertion {row : Message} :
    Leads (inserting organization header before row) (attempt flush)
      (inserted organization header before)
      fun _ => closed organization header before none (Unseen organization header before)
        False := by
  refine .attempt (.flush ?_ ?_ ?_ ?_)
  · rintro store session ⟨-, -, -, nothing, -⟩
    cases nothing
  · rintro pending store session view after ⟨same, unseen, unwritten, rfl, copy, unbound⟩ - - -
    have one : unitOfWork [.insertMessage row] = [.insertMessage row] := rfl
    rw [one, unwritten]
    refine ⟨same, unseen, fun change member => ?_, fun _ => .inr ⟨row, ?_, copy⟩⟩
    · obtain rfl := List.mem_singleton.mp member
      exact .inl unbound
    · exact List.mem_singleton_self _
  · rintro pending store session ⟨same, unseen, -⟩ -
    exact ⟨same, unseen⟩
  · rintro pending store session ⟨same, unseen, -⟩
    exact ⟨same, unseen⟩

theorem leads_receiveCorrelated (carries : email.messageId = some header) :
    Leads (idle before (Unseen organization header before ∧ Member before organization key))
      (receiveCorrelated deployment (some organization) email key)
      (fun result => handled organization header before none
        (Unseen organization header before) result.IsMatched)
      fun _ => closed organization header before none (Unseen organization header before)
        False := by
  refine .bind leads_loadContact fun loaded => ?_
  refine .bind leads_required fun contact => ?_
  refine .bind leads_look fun campaign => ?_
  refine .bind leads_ask fun reference => ?_
  refine .bind leads_ask fun createdAt => ?_
  have stages : Leads
      (idle before (Unseen organization header before ∧ Member before organization key))
      (stage (.insertMessage (inboundMessage key none email.messageId email createdAt reference)))
      (fun _ => inserting organization header before
        (inboundMessage key none email.messageId email createdAt reference))
      fun _ => closed organization header before none (Unseen organization header before)
        False := by
    refine .stage ?_
    rintro pending store session ⟨rfl, unwritten, same, unseen, member⟩
    exact ⟨same, unseen, unwritten, rfl, isCopy_iff.mpr ⟨carries, rfl, member⟩, rfl⟩
  refine .bind stages fun _ => .bind leads_insertion fun flushed => ?_
  cases flushed with
  | ok _ =>
      refine .bind (leads_through plain_classifyAndApplyInbound) fun action => .pure ?_
      rintro pending store session ⟨same, unseen, passes, made⟩
      exact .inr ⟨same, unseen, passes, fun _ => made trivial⟩
  | error failure =>
      cases failure with
      | integrity =>
          have takesBack : Leads (inserted organization header before (.error .integrity))
              rollback (fun _ => idle before (Unseen organization header before))
              fun _ => closed organization header before none
                (Unseen organization header before) False :=
            .rollback fun _ _ _ holds _ => ⟨rfl, rfl, holds.1, holds.2⟩
          refine .bind takesBack fun _ => .bind (leads_query fun _ _ _ => closed_of_before)
            fun existing => .pure ?_
          rintro pending store session ⟨empty, unwritten, same, unseen, rfl⟩
          refine .inl ⟨empty, unwritten, same, fun matched => ?_⟩
          rw [carries, findDuplicate_of_unseen unseen] at matched
          exact matched.elim
      | database | http status detail | raised name =>
          exact .raise fun _ _ _ holds => closed_of_before holds.1

theorem unseen_of_findDuplicate
    (missing : findDuplicate (some organization) (some header) before = none) :
    Unseen organization header before := by
  intro key copied
  obtain ⟨message, found, copy⟩ := mem_copies.mp copied
  cases first : before.messages.firstWhere (isCopy organization header before) with
  | none =>
      rw [Table.firstWhere_eq_none.mp first key message found] at copy
      cases copy
  | some position =>
      obtain ⟨row, present, -⟩ := Table.firstWhere_eq_some first
      have duplicate : findDuplicate (some organization) (some header) before =
          (before.messages.firstWhere (isCopy organization header before)).bind fun key =>
            (before.messages.get key).map fun message => (key, message) := rfl
      rw [first, Option.bind_some, present, missing] at duplicate
      cases duplicate

theorem leads_processInboundEmailV2
    {received : InboundEmail}
    (named : header ≠ "")
    (carries : received.normalized.messageId = some header) :
    Leads (idle before True) (processInboundEmailV2 deployment received (some organization))
      (fun result => handled organization header before none
        (Unseen organization header before) result.IsMatched)
      fun _ => closed organization header before none (Unseen organization header before)
        False := by
  have present : (truthy received.normalized.messageId).isSome = true := by
    rw [carries, truthy_of_ne_empty named]
    rfl
  have handles : ∀ existing : Option (Nat × Message), Leads
      (idle before (True ∧ existing =
        findDuplicate (some organization) received.normalized.messageId before))
      (receiveUnlessDuplicate deployment (some organization) received.normalized existing)
      (fun result => handled organization header before none
        (Unseen organization header before) result.IsMatched)
      fun _ => closed organization header before none (Unseen organization header before)
        False := by
    intro existing
    rw [carries]
    cases existing with
    | some found =>
        refine .pure ?_
        rintro pending store session ⟨empty, unwritten, same, -, duplicate⟩
        exact .inl ⟨empty, unwritten, same,
          fun _ => .inl ⟨_, mem_copies_of_findDuplicate duplicate.symm⟩⟩
    | none =>
        refine .bind leads_correlate fun found => ?_
        cases found with
        | none =>
            refine .pure ?_
            rintro pending store session ⟨empty, unwritten, same, -⟩
            exact .inl ⟨empty, unwritten, same, False.elim⟩
        | some key =>
            refine (leads_receiveCorrelated carries).strengthen ?_
            rintro pending store session ⟨empty, unwritten, same, ⟨-, nothing⟩, members⟩
            exact ⟨empty, unwritten, same, unseen_of_findDuplicate nothing.symm,
              members key rfl⟩
  refine .ite (fun _ => .bind (leads_query fun _ _ _ => closed_of_before) handles) fun absent => ?_
  exact (absent present).elim

/-- What a delivery through the webhook leaves. -/
theorem leads_webhook
    {payload : InboundEmail}
    (wellFormed : before.WellFormed)
    (named : header ≠ "")
    (carries : payload.normalized.messageId = some header) :
    Leads (idle before True) (receiveInboundEmail deployment organization payload)
      (fun result => closed organization header before none
        (Unseen organization header before) result.IsMatched)
      fun _ => closed organization header before none (Unseen organization header before)
        False := by
  refine .session (.bind (leads_processInboundEmailV2 named carries) fun result =>
    .bind (leads_commit wellFormed) fun _ => .pure fun _ _ _ => id) ?_
  intro result pending store session holds _
  cases result with
  | ok value => exact holds
  | error failure => exact holds

end Webhook

/-! ## The poll -/

section Poll

variable {header : String} {before : Database} {deployment : Deployment}
variable {email : InboundEmail} {target : MailboxImapTarget} {key : Nat}

theorem exists_copy_of_findInboundMessage
    {mailboxId : Nat}
    {organization : String}
    {message : Message}
    (present : findInboundMessage mailboxId organization header before = some message) :
    ∃ key, key ∈ copies organization header before := by
  obtain ⟨position, first, found⟩ := Option.bind_eq_some_iff.mp present
  obtain ⟨row, foundRow, matching⟩ := Table.firstWhere_eq_some first
  simp only [isInboundMessage, Bool.and_eq_true, beq_iff_eq] at matching
  exact ⟨position, mem_copies.mpr ⟨row, foundRow, isCopy_iff.mpr
    ⟨matching.1.1.2, matching.1.2, matching.2⟩⟩⟩

/-- Where every copy came through the mailbox, the poll finds it. -/
theorem unseen_of_findInboundMessage
    {mailboxId : Nat}
    {organization : String}
    (polled : ∀ key ∈ copies organization header before, ∀ message,
      before.messages.get key = some message → message.mailboxId = some mailboxId)
    (missing : findInboundMessage mailboxId organization header before = none) :
    Unseen organization header before := by
  intro key copied
  obtain ⟨message, found, copy⟩ := mem_copies.mp copied
  have via := polled key copied message found
  obtain ⟨identity, inbound, member⟩ := isCopy_iff.mp copy
  have matching : isInboundMessage before mailboxId organization header message = true := by
    simp only [isInboundMessage, Bool.and_eq_true, beq_iff_eq]
    exact ⟨⟨⟨via, identity⟩, inbound⟩, member⟩
  cases first : before.messages.firstWhere
      (isInboundMessage before mailboxId organization header) with
  | none =>
      rw [Table.firstWhere_eq_none.mp first key message found] at matching
      cases matching
  | some position =>
      obtain ⟨row, present, -⟩ := Table.firstWhere_eq_some first
      rw [findInboundMessage, first, Option.bind_some, present] at missing
      cases missing

variable (header before target) in
/-- The insertion was absorbed by another row, or made. -/
def tried : Bool → Circumstance quiet
  | true => idle before (Unseen target.organizationId header before)
  | false => underWay target.organizationId header before (some target.mailboxId)
      (Unseen target.organizationId header before) True

theorem leads_insertCorrelatedMessage
    {row : Message}
    (via : row.mailboxId = some target.mailboxId)
    (copy : isCopy target.organizationId header before row = true) :
    Leads (idle before (Unseen target.organizationId header before))
      (insertCorrelatedMessage target.mailboxId target.organizationId header row)
      (fun existing => match existing with
        | some _ => idle before (CopyMade target.organizationId header before [])
        | none => underWay target.organizationId header before (some target.mailboxId)
            (Unseen target.organizationId header before) True)
      fun _ => closed target.organizationId header before (some target.mailboxId)
        (Unseen target.organizationId header before) False := by
  have tries : Leads (idle before (Unseen target.organizationId header before))
      (execute
        (fun view => if view.messages.clashes Message.mailboxIdentity row then []
          else [.insertMessage row])
        (fun view => view.messages.clashes Message.mailboxIdentity row))
      (tried header before target)
      fun _ => closed target.organizationId header before (some target.mailboxId)
        (Unseen target.organizationId header before) False := by
    refine .execute ?_ (fun _ _ _ _ holds _ _ => closed_of_before holds.2.2.1)
      fun _ _ _ holds => closed_of_before holds.2.2.1
    rintro pending store session view after ⟨rfl, unwritten, same, unseen⟩ - - -
    rw [unwritten, List.nil_append]
    cases view.messages.clashes Message.mailboxIdentity row with
    | true => exact ⟨rfl, rfl, same, unseen⟩
    | false =>
        refine ⟨same, unseen, fun change member => ?_, fun _ => .inr ⟨row, ?_, copy⟩⟩
        · obtain rfl := List.mem_singleton.mp member
          exact .inl via
        · exact List.mem_singleton_self _
  refine .bind tries fun taken => ?_
  cases taken with
  | true =>
      refine .bind (leads_query fun _ _ _ => closed_of_before) fun found => ?_
      cases found with
      | some existing =>
          refine .pure ?_
          rintro pending store session ⟨empty, unwritten, same, -, present⟩
          exact ⟨empty, unwritten, same, .inl (exists_copy_of_findInboundMessage present.symm)⟩
      | none => exact .raise fun _ _ _ holds => closed_of_before holds.2.2.1
  | false => exact .bind (leads_through .look) fun _ => .pure fun _ _ _ => id

theorem heeds_resolveRetainedCopy
    {mailbox : Option Nat}
    {mailboxId : Nat}
    {identity : String}
    {now : Instant} :
    Heeds (through mailbox) (resolveRetainedCopy mailboxId identity now) := by
  refine .execute (fun view change member => ?_) fun _ => trivial
  split at member
  · rw [List.mem_singleton.mp member]
    trivial
  · cases member

theorem heeds_retainUnmatched
    {mailbox : Option Nat}
    {row : UnmatchedInboundMessage} :
    Heeds (through mailbox) (retainUnmatched row) := by
  have inserts : Heeds (through mailbox) (execute
      (fun view =>
        if view.unmatched.clashes UnmatchedInboundMessage.mailboxIdentity row then []
        else [.insertUnmatched row])
      fun _ => ()) := by
    refine .execute (fun view change member => ?_) fun _ => trivial
    split at member
    · cases member
    · rw [List.mem_singleton.mp member]
      trivial
  exact .bind inserts fun _ _ => .bind .look fun retained _ =>
    .ite (fun _ => .done) fun _ => .raise _

theorem leads_storeCorrelated :
    Leads (idle before (Unseen target.organizationId header before ∧
        Member before target.organizationId key))
      (storeCorrelated deployment target.mailboxId target.organizationId header email key)
      (fun result => handled target.organizationId header before (some target.mailboxId)
        (Unseen target.organizationId header before) result.IsMatched)
      fun _ => closed target.organizationId header before (some target.mailboxId)
        (Unseen target.organizationId header before) False := by
  refine .bind leads_loadContact fun loaded => ?_
  refine .bind leads_required fun contact => ?_
  refine .bind leads_look fun campaign => ?_
  refine .bind leads_ask fun reference => ?_
  refine .bind leads_ask fun createdAt => ?_
  intro pending store session last final outcome after holds
  obtain ⟨empty, unwritten, same, unseen, member⟩ := holds
  have copy : isCopy target.organizationId header before
      (inboundMessage key (some target.mailboxId) (some header) email createdAt reference) =
      true :=
    isCopy_iff.mpr ⟨rfl, rfl, member⟩
  refine Leads.bind (leads_insertCorrelatedMessage rfl copy) (fun existing => ?_) pending store
    session last final outcome after ⟨empty, unwritten, same, unseen⟩
  cases existing with
  | some present =>
      refine .pure ?_
      rintro pending store session ⟨empty, unwritten, same, made⟩
      exact .inl ⟨empty, unwritten, same, fun _ => made⟩
  | none =>
      refine .bind (leads_through (.ask trivial fun _ => trivial)) fun now => ?_
      refine .bind (leads_through heeds_resolveRetainedCopy) fun _ => ?_
      refine .bind (leads_through plain_classifyAndApplyInbound) fun action => .pure ?_
      rintro pending store session ⟨same, unseen, passes, made⟩
      exact .inr ⟨same, unseen, passes, fun _ => made trivial⟩

theorem leads_processMailboxInbound
    {received : InboundEmail}
    (named : header ≠ "")
    (carries : received.normalized.messageId = some header)
    (polled : ∀ key ∈ copies target.organizationId header before, ∀ message,
      before.messages.get key = some message → message.mailboxId = some target.mailboxId) :
    Leads (idle before True)
      (processMailboxInbound deployment target.mailboxId target.organizationId received)
      (fun result => handled target.organizationId header before (some target.mailboxId)
        (Unseen target.organizationId header before) result.IsMatched)
      fun _ => closed target.organizationId header before (some target.mailboxId)
        (Unseen target.organizationId header before) False := by
  have identified : inboundIdentity received.normalized = some header := by
    rw [inboundIdentity, carries, truthy_of_ne_empty named]
    rfl
  unfold processMailboxInbound
  simp only [identified]
  refine .bind (leads_query fun _ _ _ => closed_of_before) fun existing => ?_
  cases existing with
  | some present =>
      refine .pure ?_
      rintro pending store session ⟨empty, unwritten, same, -, found⟩
      exact .inl ⟨empty, unwritten, same,
        fun _ => .inl (exists_copy_of_findInboundMessage found.symm)⟩
  | none =>
      refine .bind leads_correlateMailboxInbound fun correlated => ?_
      cases correlated with
      | error reason =>
          have retains : Leads
              (underWay target.organizationId header before (some target.mailboxId)
                (Unseen target.organizationId header before) False)
              (do
                retainUnmatched (retainedMessage target.mailboxId target.organizationId header
                  received.normalized reason)
                pure (InboundResult.unmatched reason))
              (fun result => handled target.organizationId header before
                (some target.mailboxId) (Unseen target.organizationId header before)
                result.IsMatched)
              fun _ => closed target.organizationId header before (some target.mailboxId)
                (Unseen target.organizationId header before) False :=
            .bind (leads_through heeds_retainUnmatched) fun _ => .pure fun _ _ _ => .inr
          refine retains.strengthen ?_
          rintro pending store session ⟨rfl, unwritten, same, ⟨-, nothing⟩, -⟩
          refine ⟨same, unseen_of_findInboundMessage polled nothing.symm, ?_, False.elim⟩
          rw [unwritten]
          exact fun change member => (List.not_mem_nil member).elim
      | ok key =>
          refine leads_storeCorrelated.strengthen ?_
          rintro pending store session ⟨empty, unwritten, same, ⟨-, nothing⟩, members⟩
          exact ⟨empty, unwritten, same, unseen_of_findInboundMessage polled nothing.symm,
            members key rfl⟩

/-- What a delivery by the poll leaves, where every copy came through its mailbox. -/
theorem leads_poll
    {received : InboundEmail}
    (wellFormed : before.WellFormed)
    (named : header ≠ "")
    (carries : received.normalized.messageId = some header)
    (polled : ∀ key ∈ copies target.organizationId header before, ∀ message,
      before.messages.get key = some message → message.mailboxId = some target.mailboxId) :
    Leads (idle before True) (persistInbound deployment target received)
      (fun result => closed target.organizationId header before (some target.mailboxId)
        (Unseen target.organizationId header before) result.IsMatched)
      fun _ => closed target.organizationId header before (some target.mailboxId)
        (Unseen target.organizationId header before) False := by
  have ends : ∀ result : Except Failure InboundResult, Leads
      (Leads.ending
        (fun result => closed target.organizationId header before (some target.mailboxId)
          (Unseen target.organizationId header before) result.IsMatched)
        (fun _ => closed target.organizationId header before (some target.mailboxId)
          (Unseen target.organizationId header before) False) result)
      (persisted result)
      (fun result => closed target.organizationId header before (some target.mailboxId)
        (Unseen target.organizationId header before) result.IsMatched)
      fun _ => closed target.organizationId header before (some target.mailboxId)
        (Unseen target.organizationId header before) False := by
    intro result
    cases result with
    | ok value => exact .pure fun _ _ _ => id
    | error failure =>
        have gives : Leads
            (closed target.organizationId header before (some target.mailboxId)
              (Unseen target.organizationId header before) False)
            rollback
            (fun _ => closed target.organizationId header before (some target.mailboxId)
              (Unseen target.organizationId header before) False)
            fun _ => closed target.organizationId header before (some target.mailboxId)
              (Unseen target.organizationId header before) False :=
          .rollback fun _ _ _ holds _ => holds
        exact .bind gives fun _ => .raise fun _ _ _ => id
  refine .session (.bind (.attempt (.bind
    (leads_processMailboxInbound named carries polled) fun result =>
      .bind (leads_commit wellFormed) fun _ => .pure fun _ _ _ => id)) ends) ?_
  intro result pending store session holds _
  cases result with
  | ok value => exact holds
  | error failure => exact holds

end Poll

/-! ## Deliveries one after the other -/

/-- What a delivery ended with attached the message. -/
def DidAttach : Except Failure InboundResult → Prop
  | .ok result => result.IsMatched
  | .error _ => False

/-- A poll meets no copy of the webhook. -/
def Spared
    (target : MailboxImapTarget)
    (header : String)
    (before : Database) :
    Delivery → Prop
  | webhook _ => True
  | poll _ => ∀ key ∈ copies target.organizationId header before, ∀ message,
      before.messages.get key = some message → message.mailboxId ≠ none

/-- Deliveries in any order. -/
def Anyhow
    (_ : Database)
    (_ : Delivery) : Prop :=
  True

/-- All copies came through one of the two channels. -/
structure Alike
    (target : MailboxImapTarget)
    (header : String)
    (database : Database) :
    Prop where
  wellFormed : database.WellFormed
  channel : ∃ mailbox, (mailbox = none ∨ mailbox = some target.mailboxId) ∧
    ∀ key ∈ copies target.organizationId header database, ∀ message,
      database.messages.get key = some message → message.mailboxId = mailbox

/-- Deliveries of the message, one after the other, and what each one ended with. -/
inductive Delivered
    (deployment : Deployment)
    (target : MailboxImapTarget)
    (header : String)
    (permits : Database → Delivery → Prop) :
    Database → List (Delivery × Except Failure InboundResult) → Database → Prop where
  | none {database : Database} : Delivered deployment target header permits database [] database
  | next
      {before middle after : Database}
      {delivery : Delivery}
      {outcome : Except Failure InboundResult}
      {waiting : List Change}
      {final : Session Change}
      {rest : List (Delivery × Except Failure InboundResult)}
      (permitted : permits before delivery)
      (carries : delivery.email.normalized.messageId = some header)
      (served : Served quiet before {} (delivery.program deployment target []) middle final
        (outcome, waiting))
      (later : Delivered deployment target header permits middle rest after) :
      Delivered deployment target header permits before ((delivery, outcome) :: rest) after

section Sequence

variable {deployment : Deployment} {target : MailboxImapTarget} {header : String}
variable {before after : Database} {delivery : Delivery}
variable {outcome : Except Failure InboundResult}

/-- What one delivery does with the copies. -/
theorem closed_of_served
    {waiting : List Change}
    {final : Session Change}
    (named : header ≠ "")
    (alike : Alike target header before)
    (spared : Spared target header before delivery)
    (carries : delivery.email.normalized.messageId = some header)
    (served : Served quiet before {} (delivery.program deployment target []) after final
      (outcome, waiting)) :
    (after = before ∨ Unseen target.organizationId header before ∧ ∃ writes,
        (∀ change ∈ writes, change.Through (delivery.channel target)) ∧
          applyAll Change.apply before writes = some after) ∧
      (DidAttach outcome → ∃ key, key ∈ copies target.organizationId header after) := by
  have start : (idle before True).holds [] before {} := ⟨rfl, rfl, rfl, trivial⟩
  cases delivery with
  | webhook payload =>
      have ended := leads_webhook alike.wellFormed named carries [] before {} after final outcome
        waiting start served
      cases outcome with
      | ok result => exact ended
      | error failure => exact ended
  | poll email =>
      obtain ⟨mailbox, either, via⟩ := alike.channel
      have polled : ∀ key ∈ copies target.organizationId header before, ∀ message,
          before.messages.get key = some message →
          message.mailboxId = some target.mailboxId := by
        intro key copied message found
        have came := via key copied message found
        rcases either with rfl | rfl
        · exact (spared key copied message found came).elim
        · exact came
      have ended := leads_poll alike.wellFormed named carries polled [] before {} after final
        outcome waiting start served
      cases outcome with
      | ok result => exact ended
      | error failure => exact ended

/-- After a delivery all copies are of one channel again. -/
theorem Alike.delivered
    {waiting : List Change}
    {final : Session Change}
    (alike : Alike target header before)
    (named : header ≠ "")
    (spared : Spared target header before delivery)
    (carries : delivery.email.normalized.messageId = some header)
    (served : Served quiet before {} (delivery.program deployment target []) after final
      (outcome, waiting)) :
    Alike target header after := by
  rcases (closed_of_served named alike spared carries served).1 with
    rfl | ⟨unseen, writes, passes, applied⟩
  · exact alike
  · have either : delivery.channel target = none ∨
        delivery.channel target = some target.mailboxId := by
      cases delivery with
      | webhook payload => exact .inl rfl
      | poll email => exact .inr rfl
    refine ⟨applyAll_wellFormed alike.wellFormed applied, delivery.channel target, either, ?_⟩
    intro key copied message found
    obtain ⟨stored, present, copy⟩ := mem_copies.mp copied
    obtain rfl := Option.some.inj (found.symm.trans present)
    exact (copy_of_applied alike.wellFormed passes applied found copy).resolve_left (unseen key)

/-- A copy is never lost. -/
theorem kept_of_served
    {waiting : List Change}
    {final : Session Change}
    {key : Nat}
    (named : header ≠ "")
    (alike : Alike target header before)
    (spared : Spared target header before delivery)
    (carries : delivery.email.normalized.messageId = some header)
    (served : Served quiet before {} (delivery.program deployment target []) after final
      (outcome, waiting))
    (copied : key ∈ copies target.organizationId header before) :
    key ∈ copies target.organizationId header after := by
  rcases (closed_of_served named alike spared carries served).1 with rfl | ⟨unseen, -⟩
  · exact copied
  · exact (unseen key copied).elim

/-- A sequence of deliveries keeps the copies of one channel, and leaves a copy once a
delivery attached the message. -/
theorem Delivered.keeps
    {handled : List (Delivery × Except Failure InboundResult)}
    (delivered : Delivered deployment target header (Spared target header) before handled after)
    (named : header ≠ "")
    (alike : Alike target header before) :
    Alike target header after ∧
      ((∃ key, key ∈ copies target.organizationId header before) ∨
          (∃ entry ∈ handled, DidAttach entry.2) →
        ∃ key, key ∈ copies target.organizationId header after) := by
  induction delivered with
  | none =>
      refine ⟨alike, fun present => present.elim id ?_⟩
      rintro ⟨entry, member, -⟩
      exact (List.not_mem_nil member).elim
  | next spared carries served later inductionHypothesis =>
      obtain ⟨kept, present⟩ :=
        inductionHypothesis (alike.delivered named spared carries served)
      refine ⟨kept, ?_⟩
      rintro (⟨key, copied⟩ | ⟨entry, member, attached⟩)
      · exact present (.inl ⟨key, kept_of_served named alike spared carries served copied⟩)
      · rcases List.mem_cons.mp member with rfl | further
        · exact present
            (.inl ((closed_of_served named alike spared carries served).2 attached))
        · exact present (.inr ⟨entry, further, attached⟩)

theorem Alike.of_new
    (wellFormed : before.WellFormed)
    (new : copies target.organizationId header before = []) :
    Alike target header before := by
  refine ⟨wellFormed, none, .inl rfl, fun key copied => ?_⟩
  rw [new] at copied
  exact (List.not_mem_nil copied).elim

theorem Alike.length_copies_le
    (alike : Alike target header before) :
    (copies target.organizationId header before).length ≤ 1 :=
  have ⟨_, _, via⟩ := alike.channel
  copies_subsingleton alike.wellFormed via

end Sequence

end Delivery

open Delivery

/-- In every sequence of deliveries of a message in which no poll meets a copy of the
webhook, at most one copy is stored, and in any two that attached the message it is the
same number. -/
theorem deliveries_store_one_copy
    (deployment : Deployment)
    (target : MailboxImapTarget)
    (header : String)
    (before : Database)
    (named : header ≠ "")
    (wellFormed : before.WellFormed)
    (new : copies target.organizationId header before = []) :
    (∀ handled after,
      Delivered deployment target header (Spared target header) before handled after →
        (copies target.organizationId header after).length ≤ 1) ∧
      ∀ handled after other final,
        Delivered deployment target header (Spared target header) before handled after →
        Delivered deployment target header (Spared target header) before other final →
        (∃ entry ∈ handled, DidAttach entry.2) → (∃ entry ∈ other, DidAttach entry.2) →
          (copies target.organizationId header after).length =
            (copies target.organizationId header final).length := by
  have one : ∀ handled after,
      Delivered deployment target header (Spared target header) before handled after →
      (∃ entry ∈ handled, DidAttach entry.2) →
        (copies target.organizationId header after).length = 1 := by
    intro handled after delivered attached
    obtain ⟨alike, present⟩ := delivered.keeps named (.of_new wellFormed new)
    obtain ⟨key, copied⟩ := present (.inr attached)
    exact Nat.le_antisymm alike.length_copies_le (List.length_pos_of_mem copied)
  constructor
  · intro handled after delivered
    exact (delivered.keeps named (.of_new wellFormed new)).1.length_copies_le
  · intro handled after other final delivered also attached alsoAttached
    rw [one handled after delivered attached, one other final also alsoAttached]

namespace Sample

/-- The mailbox of the tenant. -/
def polledTarget : MailboxImapTarget where
  mailboxId := 0
  organizationId := "acme"
  publicReference := "reference"
  imapHost := "imap.acme.test"
  imapPort := 993
  imapUsername := "in@acme.test"
  imapPasswordEnc := "secret"

/-- An environment that hands out a reference. -/
def handsOut (reference : String) : (signal : Signal) → signal.Reply
  | .newReference => reference
  | signal => understands [.outOfOffice] signal

/-- A letter that its sender writes to the tenant. -/
def reply : InboundEmail :=
  letter "p@x.test" "<m@x.test>"

/-- The handling of a delivery. -/
def handling (delivery : Delivery) : Thread Database Change Signal Signal.Reply
    (Except Failure InboundResult × List Change) :=
  ⟨delivery.program Sample.deployment polledTarget [], {}⟩

/-- The handling of a delivery in so many steps. -/
def handle
    (reference : String)
    (steps : Nat)
    (delivery : Delivery)
    (database : Database) :
    Option (Database × Thread Database Change Signal Signal.Reply
      (Except Failure InboundResult × List Change)) :=
  (handling delivery).steps Change.apply anyStep database
    (List.replicate steps { answer := handsOut reference })

/-- The delivery attached the message. -/
def attaches
    (thread : Thread Database Change Signal Signal.Reply
      (Except Failure InboundResult × List Change)) : Bool :=
  thread.finished.any fun result => match result.1 with
    | .ok (.matched _ _) => true
    | _ => false

theorem exists_attached
    {thread : Thread Database Change Signal Signal.Reply
      (Except Failure InboundResult × List Change)}
    (attached : attaches thread = true) :
    ∃ outcome waiting, thread.finished = some (outcome, waiting) ∧ DidAttach outcome := by
  obtain ⟨⟨outcome, waiting⟩, finished, matched⟩ := (Option.any_eq_true _ _).mp attached
  refine ⟨outcome, waiting, finished, ?_⟩
  cases outcome with
  | error failure => cases matched
  | ok result =>
      cases result with
      | matched key action => trivial
      | unmatched reason => cases matched

theorem considers_quiet
    {Value : Type}
    (database : Database)
    (thread : Thread Database Change Signal Signal.Reply Value)
    (stimulus : Stimulus Signal Signal.Reply)
    (_ : anyStep database thread stimulus = true) :
    Served.Considers quiet database thread stimulus := by
  unfold Served.Considers
  split <;> trivial

/-- Two deliveries, of which the first one attached the message. -/
theorem delivered_of_handle
    {permits : Database → Delivery → Prop}
    {first second : Delivery}
    {one two : String}
    {steps more : Nat}
    {before middle after : Database}
    {done last : Thread Database Change Signal Signal.Reply
      (Except Failure InboundResult × List Change)}
    (carries : first.email = reply ∧ second.email = reply)
    (permitted : permits before first ∧ permits middle second)
    (handled : handle one steps first before = some (middle, done))
    (further : handle two more second middle = some (after, last))
    (attached : attaches done = true ∧ attaches last = true) :
    ∃ handled, Delivered Sample.deployment polledTarget "<m@x.test>" permits before handled
      after ∧ ∃ entry ∈ handled, DidAttach entry.2 := by
  have identity : reply.normalized.messageId = some "<m@x.test>" := by decide +kernel
  obtain ⟨outcome, waiting, finished, found⟩ := exists_attached attached.1
  obtain ⟨other, rest, ended, -⟩ := exists_attached attached.2
  refine ⟨[(first, outcome), (second, other)], ?_, (first, outcome), List.mem_cons_self, found⟩
  exact .next permitted.1 (carries.1 ▸ identity)
    (Served.of_finished considers_quiet handled finished)
    (.next permitted.2 (carries.2 ▸ identity)
      (Served.of_finished considers_quiet further ended) .none)

end Sample

/-- The webhook and then the poll store two copies, the poll and then the webhook one. -/
theorem deliveries_store_two_copies :
    ∃ world, (system Sample.deployment).Reachable world ∧
      copies "acme" "<m@x.test>" world.database = [] ∧
      ∃ handled after other final,
        Delivered Sample.deployment Sample.polledTarget "<m@x.test>" Anyhow
          world.database handled after ∧
        Delivered Sample.deployment Sample.polledTarget "<m@x.test>" Anyhow
          world.database other final ∧
        (∃ entry ∈ handled, DidAttach entry.2) ∧ (∃ entry ∈ other, DidAttach entry.2) ∧
        (copies "acme" "<m@x.test>" after).length = 2 ∧
        (copies "acme" "<m@x.test>" final).length = 1 := by
  obtain ⟨world, reachable, holds⟩ := reachable_of_any Sample.deployment Sample.tenant
    (fun world => (copies "acme" "<m@x.test>" world.database).isEmpty &&
      ((Sample.handle "one" 15 (.webhook Sample.reply) world.database).any
          fun (middle, done) => Sample.attaches done &&
            (Sample.handle "two" 18 (.poll Sample.reply) middle).any fun (after, last) =>
              Sample.attaches last && (copies "acme" "<m@x.test>" after).length == 2) &&
      (Sample.handle "one" 18 (.poll Sample.reply) world.database).any
          fun (middle, done) => Sample.attaches done &&
            (Sample.handle "two" 3 (.webhook Sample.reply) middle).any fun (after, last) =>
              Sample.attaches last && (copies "acme" "<m@x.test>" after).length == 1)
    (by decide +kernel)
  simp only [Bool.and_eq_true, Option.any_eq_true, Prod.exists, beq_iff_eq,
    List.isEmpty_iff] at holds
  obtain ⟨⟨new, middle, done, first, attached, after, last, second, also, two⟩,
    between, ended, one, found, final, finished, other, again, single⟩ := holds
  have webhookFirst : Anyhow world.database (.webhook Sample.reply) ∧
      Anyhow middle (.poll Sample.reply) := ⟨trivial, trivial⟩
  have pollFirst : Anyhow world.database (.poll Sample.reply) ∧
      Anyhow between (.webhook Sample.reply) := ⟨trivial, trivial⟩
  obtain ⟨handled, delivered, matched⟩ :=
    Sample.delivered_of_handle ⟨rfl, rfl⟩ webhookFirst first second ⟨attached, also⟩
  obtain ⟨reversed, redelivered, rematched⟩ :=
    Sample.delivered_of_handle ⟨rfl, rfl⟩ pollFirst one other ⟨found, again⟩
  exact ⟨world, reachable, new, handled, after, reversed, final, delivered, redelivered, matched,
    rematched, two, single⟩

/-- The poll and then the webhook, and the webhook twice, store one copy each. -/
theorem deliveries_store_one_copy_of_reply :
    ∃ world after final, (system Sample.deployment).Reachable world ∧
      (copies "acme" "<m@x.test>" after).length ≤ 1 ∧
      (copies "acme" "<m@x.test>" after).length =
        (copies "acme" "<m@x.test>" final).length := by
  obtain ⟨world, reachable, holds⟩ := reachable_of_any Sample.deployment Sample.tenant
    (fun world => (copies "acme" "<m@x.test>" world.database).isEmpty &&
      ((Sample.handle "one" 18 (.poll Sample.reply) world.database).any
          fun (middle, done) => Sample.attaches done &&
            (Sample.handle "two" 3 (.webhook Sample.reply) middle).any fun (_, last) =>
              Sample.attaches last) &&
      (Sample.handle "one" 15 (.webhook Sample.reply) world.database).any
          fun (middle, done) => Sample.attaches done &&
            (Sample.handle "two" 3 (.webhook Sample.reply) middle).any fun (_, last) =>
              Sample.attaches last)
    (by decide +kernel)
  simp only [Bool.and_eq_true, Option.any_eq_true, Prod.exists, List.isEmpty_iff] at holds
  obtain ⟨⟨new, middle, done, first, attached, after, last, second, also⟩,
    between, ended, one, found, final, finished, other, again⟩ := holds
  have spared : Spared Sample.polledTarget "<m@x.test>" world.database
      (.poll Sample.reply) := by
    intro key copied
    rw [show copies Sample.polledTarget.organizationId "<m@x.test>" world.database = [] from new]
      at copied
    exact (List.not_mem_nil copied).elim
  have repeated : Spared Sample.polledTarget "<m@x.test>" world.database
        (.webhook Sample.reply) ∧
      Spared Sample.polledTarget "<m@x.test>" between (.webhook Sample.reply) :=
    ⟨trivial, trivial⟩
  have mixed : Spared Sample.polledTarget "<m@x.test>" world.database (.poll Sample.reply) ∧
      Spared Sample.polledTarget "<m@x.test>" middle (.webhook Sample.reply) :=
    ⟨spared, trivial⟩
  obtain ⟨handled, delivered, matched⟩ :=
    Sample.delivered_of_handle ⟨rfl, rfl⟩ mixed first second ⟨attached, also⟩
  obtain ⟨reversed, redelivered, rematched⟩ :=
    Sample.delivered_of_handle ⟨rfl, rfl⟩ repeated one other ⟨found, again⟩
  have stores := deliveries_store_one_copy Sample.deployment Sample.polledTarget "<m@x.test>"
    world.database (by decide)
    (Invariant.of_reachable reachable).current.consistent.toWellFormed new
  exact ⟨world, after, final, reachable, stores.1 _ _ delivered,
    stores.2 _ _ _ _ delivered redelivered matched rematched⟩

end MailerAgent
