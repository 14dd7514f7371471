import MailerAgent.Models.Evolution
import MailerAgent.Native.Blindness
import MailerAgent.Native.Reasoning

/-!
# Correlation inside one organization

`AgreeOn` relates databases that hold the same rows of an organization, each under its
key. They match in the scope of the organization, and the correlation of an inbound
message, which reads keys, gives the same result on both.
-/

namespace MailerAgent

open Concurrent Relational Mail Native

namespace Database

/-- The contact belongs to the organization. -/
def owns
    (database : Database)
    (organization : String)
    (contact : Contact) : Bool :=
  database.organizationOf contact == some organization

/-- The same rows of an organization under the same keys. -/
structure AgreeOn
    (organization : String)
    (left right : Database) : Prop where
  campaigns : left.campaigns.Agrees right.campaigns
    (fun row => row.organizationId == some organization)
    (fun row => row.organizationId == some organization)
  contacts : left.contacts.Agrees right.contacts (left.owns organization)
    (right.owns organization)
  messages : left.messages.Agrees right.messages (inOrganization left (some organization))
    (inOrganization right (some organization))
  dispatches : left.dispatches.Agrees right.dispatches
    (fun row => row.organizationId == organization)
    (fun row => row.organizationId == organization)
  suppressions : left.suppressions.Agrees right.suppressions
    (fun row => row.organizationId == some organization)
    (fun row => row.organizationId == some organization)
  mailboxes : left.mailboxes.Agrees right.mailboxes
    (fun row => row.organizationId == organization)
    (fun row => row.organizationId == organization)
  unmatched : left.unmatched.Agrees right.unmatched
    (fun row => row.organizationId == organization)
    (fun row => row.organizationId == organization)

instance (organization : String) (left right : Database) :
    Decidable (AgreeOn organization left right) :=
  decidable_of_iff
    (left.campaigns.Agrees right.campaigns
        (fun row => row.organizationId == some organization)
        (fun row => row.organizationId == some organization) ∧
      left.contacts.Agrees right.contacts (left.owns organization)
        (right.owns organization) ∧
      left.messages.Agrees right.messages (inOrganization left (some organization))
        (inOrganization right (some organization)) ∧
      left.dispatches.Agrees right.dispatches
        (fun row => row.organizationId == organization)
        (fun row => row.organizationId == organization) ∧
      left.suppressions.Agrees right.suppressions
        (fun row => row.organizationId == some organization)
        (fun row => row.organizationId == some organization) ∧
      left.mailboxes.Agrees right.mailboxes
        (fun row => row.organizationId == organization)
        (fun row => row.organizationId == organization) ∧
      left.unmatched.Agrees right.unmatched
        (fun row => row.organizationId == organization)
        (fun row => row.organizationId == organization))
    ⟨fun ⟨campaigns, contacts, messages, dispatches, suppressions, mailboxes, unmatched⟩ =>
        ⟨campaigns, contacts, messages, dispatches, suppressions, mailboxes, unmatched⟩,
      fun agree => ⟨agree.campaigns, agree.contacts, agree.messages, agree.dispatches,
        agree.suppressions, agree.mailboxes, agree.unmatched⟩⟩

/-- A Message-ID of a message without a mailbox. -/
def identityTaken
    (database : Database)
    (identity : String) : Bool :=
  database.messages.existsWhere fun message => message.globalIdentity == some identity

/-- A public handle of a message. -/
def referenceTaken
    (database : Database)
    (reference : String) : Bool :=
  database.messages.existsWhere fun message => message.replyReference == some reference

/-- What belongs to an organization in one of two databases that agree on it. -/
def scope
    (left right : Database)
    (organization : String) : Scope where
  organization := organization
  campaigns key := (left.campaigns.get key).any fun row =>
    row.organizationId == some organization
  contacts key := (left.contacts.get key).any (left.owns organization)
  mailboxes key := (left.mailboxes.get key).any fun row => row.organizationId == organization
  identity identity := left.identityTaken identity = right.identityTaken identity
  reference reference := left.referenceTaken reference = right.referenceTaken reference

variable {organization : String} {left right : Database}

namespace AgreeOn

theorem scope_contacts
    (agree : AgreeOn organization left right)
    (key : Nat) :
    (scope left right organization).contacts key =
      (right.contacts.get key).any (right.owns organization) :=
  agree.contacts.any_eq (fun _ => id) (fun _ => id)
    (fun _ _ found _ mine => mine.trans (agree.contacts.get found mine).2.symm) key

theorem scope_mailboxes
    (agree : AgreeOn organization left right)
    (key : Nat) :
    (scope left right organization).mailboxes key =
      (right.mailboxes.get key).any fun row => row.organizationId == organization :=
  agree.mailboxes.any_eq (fun _ => id) (fun _ => id) (fun _ _ _ _ _ => rfl) key

theorem scope_message_right
    (agree : AgreeOn organization left right)
    (message : Message) :
    (scope left right organization).message message =
      inOrganization right (some organization) message :=
  agree.scope_contacts message.contactId

theorem delivers
    {database : Database}
    {scope : Scope}
    (sound : database.InboxSound)
    (mailboxes : ∀ key, scope.mailboxes key = true →
      (database.mailboxes.get key).any (fun row =>
        row.organizationId == scope.organization) = true)
    (messages : ∀ message, scope.message message =
      inOrganization database (some scope.organization) message) :
    scope.Delivers database := by
  intro key message mailboxId found bound inside
  obtain ⟨-, mailbox, contact, foundMailbox, foundContact, owner⟩ :=
    sound.delivered key message mailboxId found bound
  have owned := mailboxes mailboxId inside
  rw [foundMailbox, Option.any_some, beq_iff_eq] at owned
  rw [messages message, inOrganization, Option.all_some, foundContact, Option.any_some, owner,
    owned]
  exact beq_self_eq_true _

theorem retained_iff
    {database : Database}
    {scope : Scope}
    (sound : database.InboxSound)
    (mailboxes : ∀ key, scope.mailboxes key =
      (database.mailboxes.get key).any fun row => row.organizationId == scope.organization)
    {key : Nat}
    {row : UnmatchedInboundMessage}
    (found : database.unmatched.get key = some row) :
    scope.retained row = (row.organizationId == scope.organization) := by
  obtain ⟨mailbox, foundMailbox, owner⟩ := sound.retained key row found
  rw [Scope.retained, mailboxes, foundMailbox, Option.any_some, owner]

/-- Databases that agree on an organization match in its scope. -/
theorem matched
    (agree : AgreeOn organization left right)
    (soundLeft : left.InboxSound)
    (soundRight : right.InboxSound) :
    Matches (scope left right organization) left right where
  campaigns key inside := by
    obtain ⟨campaign, found, owner⟩ := (Option.any_eq_true _ _).mp inside
    exact ⟨campaign, found, (agree.campaigns.get found owner).1, beq_iff_eq.mp owner⟩
  contacts key inside := by
    obtain ⟨contact, found, mine⟩ := (Option.any_eq_true _ _).mp inside
    refine ⟨contact, found, (agree.contacts.get found mine).1, ?_⟩
    have owner : left.organizationOf contact = some organization := beq_iff_eq.mp mine
    obtain ⟨campaign, foundCampaign, owned⟩ := Option.bind_eq_some_iff.mp owner
    refine (Option.any_eq_true _ _).mpr ⟨campaign, foundCampaign, ?_⟩
    rw [owned]
    exact beq_self_eq_true _
  messages := by
    rw [show (scope left right organization).message =
        inOrganization left (some organization) from rfl, agree.messages.select_eq]
    refine List.filter_congr fun message _ => ?_
    exact (agree.scope_message_right message).symm
  deliversLeft := delivers soundLeft (fun _ => id) fun _ => rfl
  deliversRight := delivers soundRight
    (fun key inside => (agree.scope_mailboxes key).symm.trans inside) agree.scope_message_right
  suppressions := agree.suppressions.select_eq
  mailboxes key inside := by
    obtain ⟨mailbox, found, mine⟩ := (Option.any_eq_true _ _).mp inside
    exact ⟨Table.lt_size_of_get found, Table.lt_size_of_get (agree.mailboxes.get found mine).1⟩
  unmatched := by
    have onLeft : left.unmatched.select (scope left right organization).retained =
        left.unmatched.select fun row => row.organizationId == organization := by
      refine List.filter_congr fun row member => ?_
      obtain ⟨key, found⟩ := List.mem_iff_getElem?.mp member
      exact retained_iff soundLeft (fun _ => rfl) found
    have onRight : right.unmatched.select (scope left right organization).retained =
        right.unmatched.select fun row => row.organizationId == organization := by
      refine List.filter_congr fun row member => ?_
      obtain ⟨key, found⟩ := List.mem_iff_getElem?.mp member
      exact retained_iff soundRight agree.scope_mailboxes found
    rw [onLeft, onRight]
    exact agree.unmatched.select_eq
  identities _ same := same
  references _ same := same

/-! ## Lookups by key -/

/-- Messages inside the organization, with their keys. -/
theorem keysWhere_messages
    (agree : AgreeOn organization left right)
    (condition : Message → Bool) :
    left.messages.keysWhere
        (fun message => condition message && inOrganization left (some organization) message) =
      right.messages.keysWhere
        fun message => condition message && inOrganization right (some organization) message := by
  refine Table.keysWhere_congr (agree.messages.any_eq ?_ ?_ ?_)
  · intro message holds
    exact (Bool.and_eq_true _ _ ▸ holds).2
  · intro message holds
    exact (Bool.and_eq_true _ _ ▸ holds).2
  · intro key message found _ mine
    rw [mine, (agree.messages.get found mine).2]

/-- A key of a message inside the organization. -/
theorem get_message
    (agree : AgreeOn organization left right)
    {condition : Message → Bool}
    {key : Nat}
    (member : key ∈ left.messages.keysWhere fun message =>
      condition message && inOrganization left (some organization) message) :
    ∃ message, left.messages.get key = some message ∧ right.messages.get key = some message ∧
      condition message = true ∧
      (scope left right organization).contacts message.contactId = true := by
  obtain ⟨message, found, holds⟩ := (Table.mem_keysWhere _ _ _).mp member
  rw [Bool.and_eq_true] at holds
  exact ⟨message, found, (agree.messages.get found holds.2).1, holds.1, holds.2⟩

theorem referredMessages
    (agree : AgreeOn organization left right)
    (email : InboundEmail) :
    Native.referredMessages organization email left =
        Native.referredMessages organization email right ∧
      ∀ key message, (key, message) ∈ Native.referredMessages organization email left →
        (scope left right organization).contacts message.contactId = true := by
  unfold Native.referredMessages
  constructor
  · rw [← agree.keysWhere_messages]
    refine List.filterMap_congr fun key member => ?_
    obtain ⟨message, onLeft, onRight, -⟩ := agree.get_message member
    rw [onLeft, onRight]
  · intro key message member
    obtain ⟨other, stored, found⟩ := List.mem_filterMap.mp member
    obtain ⟨present, onLeft, -, -, inside⟩ := agree.get_message stored
    rw [onLeft, Option.map_some] at found
    cases found
    exact inside

theorem dispatchMailbox
    (agree : AgreeOn organization left right)
    (messageId : Nat) :
    Native.dispatchMailbox organization messageId left =
      Native.dispatchMailbox organization messageId right := by
  have implied : ∀ row : ExternalDispatch,
      (row.messageId == some messageId && row.organizationId == organization) = true →
      (row.organizationId == organization) = true := by
    intro row holds
    exact (Bool.and_eq_true _ _ ▸ holds).2
  have keys := Table.keysWhere_congr
    (agree.dispatches.any_eq implied implied fun _ _ _ _ _ => rfl)
  unfold Native.dispatchMailbox Table.firstWhere
  rw [← keys]
  cases first : (left.dispatches.keysWhere fun row =>
      row.messageId == some messageId && row.organizationId == organization).head? with
  | none => rfl
  | some key =>
      obtain ⟨row, found, holds⟩ := Table.firstWhere_eq_some first
      rw [Option.bind_some, Option.bind_some, found,
        (agree.dispatches.get found (implied row holds)).1]

theorem contactsBySender
    (agree : AgreeOn organization left right)
    (services : Services)
    (fromEmail : String) :
    Native.contactsBySender services organization fromEmail left =
        Native.contactsBySender services organization fromEmail right ∧
      ∀ key ∈ Native.contactsBySender services organization fromEmail left,
        (scope left right organization).contacts key = true := by
  constructor
  · refine Table.keysWhere_congr (agree.contacts.any_eq ?_ ?_ ?_)
    · intro contact holds
      rw [Bool.and_eq_true, Bool.and_eq_true] at holds
      exact holds.1.1
    · intro contact holds
      rw [Bool.and_eq_true, Bool.and_eq_true] at holds
      exact holds.1.1
    · intro key contact found _ mine
      have other := (agree.contacts.get found mine).2
      unfold Database.owns at mine other
      rw [mine, other]
  · intro key member
    obtain ⟨contact, found, holds⟩ := (Table.mem_keysWhere _ _ _).mp member
    rw [Bool.and_eq_true, Bool.and_eq_true] at holds
    exact (Option.any_eq_true _ _).mpr ⟨contact, found, holds.1.1⟩

theorem findDuplicate
    (agree : AgreeOn organization left right)
    (messageId : Option String) :
    Native.findDuplicate (some organization) messageId left =
      Native.findDuplicate (some organization) messageId right := by
  unfold Native.findDuplicate Table.firstWhere
  rw [← agree.keysWhere_messages]
  cases first : (left.messages.keysWhere fun message =>
      message.messageIdHeader == messageId && message.direction == .inbound &&
        inOrganization left (some organization) message).head? with
  | none => rfl
  | some key =>
      obtain ⟨message, onLeft, onRight, -⟩ :=
        agree.get_message (List.mem_of_mem_head? first)
      rw [Option.bind_some, Option.bind_some, onLeft, onRight]

theorem findContactByMessageId
    (agree : AgreeOn organization left right)
    (email : InboundEmail) :
    Native.findContactByMessageId (some organization) email left =
        Native.findContactByMessageId (some organization) email right ∧
      ∀ key, Native.findContactByMessageId (some organization) email left = some key →
        (scope left right organization).contacts key = true := by
  unfold Native.findContactByMessageId
  dsimp only
  have same : (left.messages.keysWhere fun message =>
        message.messageIdHeader.any (fun header => (threadReferences email).contains header) &&
          inOrganization left (some organization) message).filterMap left.messages.get =
      (right.messages.keysWhere fun message =>
        message.messageIdHeader.any (fun header => (threadReferences email).contains header) &&
          inOrganization right (some organization) message).filterMap right.messages.get := by
    rw [← agree.keysWhere_messages]
    refine List.filterMap_congr fun key member => ?_
    obtain ⟨message, onLeft, onRight, -⟩ := agree.get_message member
    rw [onLeft, onRight]
  refine ⟨by rw [same], ?_⟩
  intro key found
  obtain ⟨message, newest, rfl⟩ := Option.map_eq_some_iff.mp found
  have member := (List.mem_insertionSort _).mp (List.mem_of_mem_head? newest)
  obtain ⟨position, stored, present⟩ := List.mem_filterMap.mp member
  obtain ⟨other, onLeft, -, -, inside⟩ := agree.get_message stored
  rw [onLeft] at present
  cases present
  exact inside

/-- A contact of the organization has its campaign in both databases. -/
theorem campaignOf
    (agree : AgreeOn organization left right)
    {contact : Contact}
    (mine : left.owns organization contact = true) :
    left.campaignOf contact = right.campaignOf contact := by
  have owner : left.organizationOf contact = some organization := beq_iff_eq.mp mine
  obtain ⟨campaign, found, owned⟩ := Option.bind_eq_some_iff.mp owner
  exact found.trans (agree.campaigns.get found (beq_iff_eq.mpr owned)).1.symm

theorem contactsByEmail
    (agree : AgreeOn organization left right)
    (email : InboundEmail) :
    Native.contactsByEmail (some organization) email left =
        Native.contactsByEmail (some organization) email right ∧
      ∀ key ∈ Native.contactsByEmail (some organization) email left,
        (scope left right organization).contacts key = true := by
  constructor
  · refine Table.keysWhere_congr (agree.contacts.any_eq ?_ ?_ ?_)
    · intro contact holds
      simp only [Bool.and_eq_true, Option.all_some] at holds
      exact holds.1.2
    · intro contact holds
      simp only [Bool.and_eq_true, Option.all_some] at holds
      exact holds.1.2
    · intro key contact found _ mine
      have other := (agree.contacts.get found mine).2
      have campaign := agree.campaignOf mine
      unfold Database.owns at mine other
      simp only [Option.all_some, mine, other, campaign]
  · intro key member
    obtain ⟨contact, found, holds⟩ := (Table.mem_keysWhere _ _ _).mp member
    simp only [Bool.and_eq_true, Option.all_some] at holds
    exact (Option.any_eq_true _ _).mpr ⟨contact, found, holds.1.2⟩

/-- Contacts are ordered alike by what both databases say about them. -/
theorem sorted_contacts
    (agree : AgreeOn organization left right)
    {keys : List Nat}
    (inside : ∀ key ∈ keys, (scope left right organization).contacts key = true) :
    keys.insertionSort (fun first second =>
        ((left.contacts.get second).map Contact.updatedAt).getD 0 ≤
          ((left.contacts.get first).map Contact.updatedAt).getD 0) =
      keys.insertionSort fun first second =>
        ((right.contacts.get second).map Contact.updatedAt).getD 0 ≤
          ((right.contacts.get first).map Contact.updatedAt).getD 0 := by
  have same : ∀ key ∈ keys, left.contacts.get key = right.contacts.get key := by
    intro key member
    obtain ⟨contact, found, mine⟩ := (Option.any_eq_true _ _).mp (inside key member)
    rw [found, (agree.contacts.get found mine).1]
  have mapped := List.map_insertionSort
    (r := fun first second =>
        ((left.contacts.get second).map Contact.updatedAt).getD 0 ≤
          ((left.contacts.get first).map Contact.updatedAt).getD 0)
    (s := fun first second =>
        ((right.contacts.get second).map Contact.updatedAt).getD 0 ≤
          ((right.contacts.get first).map Contact.updatedAt).getD 0) id keys
    (fun first firstMember second secondMember => by
      rw [id, id, same first firstMember, same second secondMember])
  simpa using mapped

theorem findContactByEmail
    (agree : AgreeOn organization left right)
    (email : InboundEmail) :
    Native.findContactByEmail (some organization) email left =
        Native.findContactByEmail (some organization) email right ∧
      ∀ key, Native.findContactByEmail (some organization) email left = some key →
        (scope left right organization).contacts key = true := by
  obtain ⟨same, inside⟩ := agree.contactsByEmail email
  unfold Native.findContactByEmail
  dsimp only
  rw [← same]
  refine ⟨?_, ?_⟩
  · split
    · rw [agree.sorted_contacts inside]
    · rfl
  · intro key found
    split at found
    · exact inside key ((List.mem_insertionSort _).mp (List.mem_of_mem_head? found))
    · split at found
      · next only candidates =>
          cases found
          exact inside _ (candidates ▸ List.mem_singleton_self _)
      · cases found

end AgreeOn
end Database

namespace Native

open Program

/-! ## Before the first write -/

/-- Nothing was written or is waiting. -/
structure Opening
    (left right : Database)
    (pending : List Change)
    (twins : Twins Database Change) : Prop where
  left : twins.left = left
  right : twins.right = right
  pending : pending = []
  writes : twins.session.writes = []

namespace Opening

variable {settings : Settings} {scope : Scope} {left right : Database}
variable {pending : List Change} {twins : Twins Database Change}

theorem level
    (matched : Matches scope left right)
    (opening : Opening left right pending twins) :
    Level scope left right pending twins where
  left := opening.left
  right := opening.right
  within change member := by
    rw [opening.pending] at member
    exact (List.not_mem_nil member).elim
  written change member := by
    rw [opening.writes] at member
    exact (List.not_mem_nil member).elim
  views _ viewLeft viewRight onLeft onRight := by
    rw [opening.writes, opening.left] at onLeft
    rw [opening.writes, opening.right] at onRight
    cases onLeft
    cases onRight
    exact matched

/-- A query that both databases answer alike. -/
theorem query
    {Value : Type}
    {read : Database → Value}
    {ensures : Value → Prop}
    (alike : read left = read right)
    (holds : ensures (read left)) :
    Paired settings scope (Opening left right) (Opening left right) (Program.query read)
      ensures := by
  intro pending twins opening
  have lost : Opening left right pending twins.abort :=
    ⟨opening.left, opening.right, opening.pending, opening.writes⟩
  refine ⟨⟨lost, nofun⟩, ?_⟩
  intro unaborted viewLeft viewRight sees
  obtain ⟨onLeft, onRight⟩ := sees
  rw [opening.writes, opening.left] at onLeft
  rw [opening.writes, opening.right] at onRight
  cases onLeft
  cases onRight
  refine ⟨rfl, ⟨lost, nofun⟩, ?_⟩
  rintro writes accepted
  cases accepted
  refine ⟨?_, fun _ member => (List.not_mem_nil member).elim, ?_, ?_⟩
  · simp only [statementResult, alike]
  · exact ⟨opening.left, opening.right, opening.pending,
      show twins.session.writes ++ [] = [] by rw [opening.writes]; rfl⟩
  · rintro _ ⟨⟩
    exact holds

theorem observe
    {Value : Type}
    {read : Database → Value}
    (alike : read left = read right) :
    Paired settings scope (Opening left right) (Opening left right) (Program.query read)
      fun _ => True :=
  query alike trivial

/-- A rollback returns to the beginning. -/
theorem rollback :
    Paired settings scope (Level scope left right) (Opening left right) Program.rollback
      fun _ => True :=
  fun _ _ level => ⟨⟨level.left, level.right, rfl, rfl⟩, fun _ _ => trivial⟩

end Opening

/-! ## Polled mailboxes -/

section Mailbox

variable {deployment : Deployment} {left right : Database} {organization : String}
variable {mailboxId : Nat}

theorem opening_eligibleContacts
    {settings : Settings}
    {scope : Scope}
    (agree : Database.AgreeOn organization left right)
    (referred : List (Nat × Message))
    (inside : ∀ key message, (key, message) ∈ referred →
      scope.contacts message.contactId = true) :
    Paired settings scope (Opening left right) (Opening left right)
      (eligibleContacts mailboxId organization referred)
      fun threads => ∀ key ∈ threads, scope.contacts key = true := by
  induction referred with
  | nil => exact Paired.pure _ fun _ member => (List.not_mem_nil member).elim
  | cons entry rest inductionHypothesis =>
      obtain ⟨key, message⟩ := entry
      have collects : ∀ eligible : Bool,
          Paired settings scope (Opening left right) (Opening left right)
            (do
              let others ← eligibleContacts mailboxId organization rest
              pure (if eligible then message.contactId :: others else others))
            fun threads => ∀ key ∈ threads, scope.contacts key = true := by
        intro eligible
        refine Paired.bind (inductionHypothesis fun other row member =>
          inside other row (List.mem_cons_of_mem _ member)) fun others own => ?_
        refine Paired.pure _ fun other member => ?_
        cases eligible with
        | false => exact own other member
        | true =>
            rcases List.mem_cons.mp member with rfl | later
            · exact inside key message List.mem_cons_self
            · exact own other later
      refine Paired.ite (fun _ => collects _) fun _ => ?_
      exact Paired.bind (Opening.observe (agree.dispatchMailbox key)) fun _ _ => collects _

theorem soleCandidate_mem
    {candidates : List Nat}
    {key : Nat}
    (sole : soleCandidate candidates = .ok key) :
    key ∈ candidates := by
  unfold soleCandidate at sole
  split at sole
  · cases sole
  · cases sole
    exact List.mem_singleton_self _
  · cases sole

theorem opening_correlateMailboxInbound
    (agree : Database.AgreeOn organization left right)
    (email : InboundEmail) :
    Paired deployment.settings (left.scope right organization) (Opening left right)
      (Opening left right) (correlateMailboxInbound deployment mailboxId organization email)
      fun result => ∀ key, result = .ok key →
        (left.scope right organization).contacts key = true := by
  have continues : ∀ referred : List (Nat × Message),
      (∀ key message, (key, message) ∈ referred →
        (left.scope right organization).contacts message.contactId = true) →
      Paired deployment.settings (left.scope right organization) (Opening left right)
        (Opening left right)
        (correlateReferred deployment mailboxId organization email referred)
        fun result => ∀ key, result = .ok key →
          (left.scope right organization).contacts key = true := by
    intro referred inside
    refine Paired.bind (opening_eligibleContacts agree referred inside) fun threads own => ?_
    split
    · next only distinct =>
        refine Paired.pure _ ?_
        rintro _ ⟨⟩
        exact own only (List.mem_eraseDups.mp (distinct ▸ List.mem_singleton_self _))
    · exact Paired.pure _ fun _ sole => by cases sole
    · refine Paired.ite (fun _ => Paired.pure _ fun _ sole => by cases sole) fun _ => ?_
      obtain ⟨alike, senders⟩ := agree.contactsBySender deployment.services email.fromEmail
      have asked : Paired deployment.settings (left.scope right organization)
          (Opening left right) (Opening left right)
          (query (contactsBySender deployment.services organization email.fromEmail))
          fun candidates => ∀ key ∈ candidates,
            (left.scope right organization).contacts key = true :=
        Opening.query alike senders
      refine Paired.bind asked fun candidates members => ?_
      exact Paired.pure _ fun key sole => members key (soleCandidate_mem sole)
  obtain ⟨alike, inside⟩ := agree.referredMessages email
  rw [correlateMailboxInbound_eq]
  refine Paired.ite (fun _ => ?_) fun _ => ?_
  · exact Paired.bind (Paired.pure _ fun _ _ member => (List.not_mem_nil member).elim) continues
  · exact Paired.bind (Opening.query alike inside) continues

theorem blind_loadContact
    {settings : Settings}
    {scope : Scope}
    {key : Nat}
    (inside : scope.contacts key = true) :
    Blind scope left right settings (loadContact key)
      fun loaded => ∀ contact, loaded = some contact → scope.Member contact := by
  intro pending twins level
  have looked : Blind scope left right settings
      (query fun view => (view.contacts.get key).map (inSession pending key))
      fun loaded => ∀ contact, loaded = some contact → scope.Member contact := by
    refine Blind.query ?_ ?_
    · intro viewLeft viewRight matched
      obtain ⟨contact, onLeft, onRight, -⟩ := matched.contacts key inside
      rw [onLeft, onRight]
    · intro viewLeft viewRight matched loaded present
      obtain ⟨contact, onLeft, -, member⟩ := matched.contacts key inside
      rw [onLeft] at present
      cases present
      unfold Scope.Member
      rw [(inSession_samePerson key contact).1]
      exact member
  exact looked pending twins level

theorem blind_loadCampaign
    {settings : Settings}
    {scope : Scope}
    {contact : Contact}
    (member : scope.Member contact) :
    Blind scope left right settings (loadCampaign contact)
      fun loaded => ∀ campaign, loaded = some campaign →
        campaign.organizationId = some scope.organization := by
  refine Blind.query ?_ ?_
  · intro viewLeft viewRight matched
    obtain ⟨campaign, onLeft, onRight, -⟩ := matched.campaigns _ member
    exact onLeft.trans onRight.symm
  · intro viewLeft viewRight matched loaded present
    obtain ⟨campaign, onLeft, -, owner⟩ := matched.campaigns _ member
    rw [Database.campaignOf, onLeft] at present
    cases present
    exact owner

theorem blind_insertCorrelatedMessage
    {settings : Settings}
    {scope : Scope}
    (mailbox : scope.mailboxes mailboxId = true)
    {identity : String}
    {row : Message}
    (within : (Change.insertMessage row).Within scope) :
    Blind scope left right settings
      (insertCorrelatedMessage mailboxId scope.organization identity row) fun _ => True := by
  have inserts : Blind scope left right settings
      (execute
        (fun view =>
          if view.messages.clashes Message.mailboxIdentity row then []
          else [.insertMessage row])
        (fun view => view.messages.clashes Message.mailboxIdentity row))
      fun _ => True := by
    refine Blind.execute ?_ ?_ fun _ _ _ => trivial
    · intro viewLeft viewRight matched
      rw [matched.mailboxClash within.2.1]
      exact ⟨rfl, rfl⟩
    · intro viewLeft viewRight matched change member
      split at member
      · exact (List.not_mem_nil member).elim
      · rw [List.mem_singleton.mp member]
        exact within
  refine Paired.bind inserts fun taken _ => ?_
  cases taken with
  | true =>
      refine Paired.bind (Blind.observe fun _ _ matched =>
        matched.findInboundMessage mailbox identity) fun existing _ => ?_
      cases existing with
      | none => exact Paired.raise _
      | some message => exact Paired.pure _ trivial
  | false =>
      exact Paired.bind (Blind.observe fun _ _ _ => rfl) fun _ _ => Paired.pure _ trivial

theorem blind_storeCorrelated
    {scope : Scope}
    (mailbox : scope.mailboxes mailboxId = true)
    {key : Nat}
    (inside : scope.contacts key = true)
    (identity : String)
    (email : InboundEmail) :
    Blind scope left right deployment.settings
      (storeCorrelated deployment mailboxId scope.organization identity email key)
      fun _ => True := by
  refine Paired.bind (blind_loadContact inside) fun loaded members => ?_
  refine Paired.bind (Paired.required loaded) fun contact present => ?_
  have member := members contact present
  refine Paired.bind (blind_loadCampaign member) fun campaign owner => ?_
  refine Paired.bind (Blind.ask fun _ _ _ => rfl) fun reference fresh => ?_
  refine Paired.bind Blind.utcnow fun createdAt _ => ?_
  have within : (Change.insertMessage (inboundMessage key (some mailboxId) (some identity)
      email createdAt reference)).Within scope := by
    refine ⟨inside, ?_, nofun, ?_⟩
    · rintro _ ⟨⟩
      exact mailbox
    · rintro _ ⟨⟩
      exact fresh
  refine Paired.bind (blind_insertCorrelatedMessage mailbox within) fun stored _ => ?_
  cases stored with
  | some existing => exact Paired.pure _ trivial
  | none =>
      refine Paired.bind Blind.utcnow fun now _ => ?_
      have resolves : Blind scope left right deployment.settings
          (resolveRetainedCopy mailboxId identity now) fun _ => True := by
        refine Blind.execute ?_ ?_ fun _ _ _ => trivial
        · intro viewLeft viewRight matched
          rw [matched.hasUnresolvedCopy mailbox]
          exact ⟨rfl, rfl⟩
        · intro viewLeft viewRight matched change member
          split at member
          · rw [List.mem_singleton.mp member]
            exact mailbox
          · exact (List.not_mem_nil member).elim
      refine Paired.bind resolves fun _ _ => ?_
      exact Paired.bind (blind_classifyAndApplyInbound inside member owner email reference)
        fun _ _ => Paired.pure _ trivial

theorem blind_retainUnmatched
    {settings : Settings}
    {scope : Scope}
    {row : UnmatchedInboundMessage}
    (mailbox : scope.mailboxes row.mailboxId = true)
    (owner : row.organizationId = scope.organization) :
    Blind scope left right settings (retainUnmatched row) fun _ => True := by
  have inserts : Blind scope left right settings
      (execute
        (fun view =>
          if view.unmatched.clashes UnmatchedInboundMessage.mailboxIdentity row then []
          else [.insertUnmatched row])
        fun _ => ())
      fun _ => True := by
    refine Blind.execute ?_ ?_ fun _ _ _ => trivial
    · intro viewLeft viewRight matched
      rw [matched.unmatchedClash mailbox]
      exact ⟨rfl, rfl⟩
    · intro viewLeft viewRight matched change member
      split at member
      · exact (List.not_mem_nil member).elim
      · rw [List.mem_singleton.mp member]
        exact ⟨mailbox, owner⟩
  refine Paired.bind inserts fun _ _ => ?_
  refine Paired.bind (Blind.observe ?_) fun retained _ => ?_
  · intro viewLeft viewRight matched
    refine matched.existsUnmatched fun other holds => ?_
    rw [Bool.and_eq_true, Bool.and_eq_true, beq_iff_eq] at holds
    rw [Scope.retained, holds.1.1]
    exact mailbox
  · exact Paired.ite (fun _ => Paired.pure _ trivial) fun _ => Paired.raise _

/-- Two runs of `process_mailbox_inbound` on databases that agree on the organization
of the mailbox. -/
theorem paired_processMailboxInbound
    (deployment : Deployment)
    (agree : Database.AgreeOn organization left right)
    (matched : Matches (left.scope right organization) left right)
    (mailbox : (left.scope right organization).mailboxes mailboxId = true)
    (received : InboundEmail) :
    Paired deployment.settings (left.scope right organization) (Opening left right)
      (Level (left.scope right organization) left right)
      (processMailboxInbound deployment mailboxId organization received) fun _ => True := by
  have opens : ∀ pending twins, Opening left right pending twins →
      Level (left.scope right organization) left right pending twins :=
    fun _ _ opening => opening.level matched
  unfold processMailboxInbound
  dsimp only
  split
  · intro pending twins opening
    exact ⟨opens pending twins opening, nofun⟩
  · next identity _ =>
      refine Paired.follow (Opening.observe (matched.findInboundMessage mailbox identity))
        (fun existing _ => ?_) opens
      cases existing with
      | some message =>
          intro pending twins opening
          exact ⟨opens pending twins opening, fun _ _ => trivial⟩
      | none =>
          refine Paired.follow (opening_correlateMailboxInbound agree received.normalized)
            (fun correlated inside => ?_) opens
          cases correlated with
          | error reason =>
              intro pending twins opening
              exact Paired.bind (blind_retainUnmatched mailbox rfl)
                (fun _ _ => Paired.pure _ trivial) pending twins (opens pending twins opening)
          | ok key =>
              intro pending twins opening
              exact blind_storeCorrelated mailbox (inside key rfl) identity received.normalized
                pending twins (opens pending twins opening)

end Mailbox

/-! ## The webhook -/

section Webhook

variable {deployment : Deployment} {left right : Database} {organization : String}

theorem opening_correlate
    (agree : Database.AgreeOn organization left right)
    (email : InboundEmail) :
    Paired deployment.settings (left.scope right organization) (Opening left right)
      (Opening left right) (correlate (some organization) email)
      fun result => ∀ key, result = some key →
        (left.scope right organization).contacts key = true := by
  have continues : ∀ byThread : Option Nat,
      (∀ key, byThread = some key →
        (left.scope right organization).contacts key = true) →
      Paired deployment.settings (left.scope right organization) (Opening left right)
        (Opening left right)
        (if byThread.isSome || !(threadReferences email).isEmpty then pure byThread
        else query (findContactByEmail (some organization) email))
        fun result => ∀ key, result = some key →
          (left.scope right organization).contacts key = true := by
    intro byThread inside
    obtain ⟨alike, own⟩ := agree.findContactByEmail email
    exact Paired.ite (fun _ => Paired.pure _ inside) fun _ => Opening.query alike own
  obtain ⟨alike, own⟩ := agree.findContactByMessageId email
  refine Paired.ite (fun _ => ?_) fun _ => ?_
  · exact Paired.bind (Paired.pure none nofun) continues
  · exact Paired.bind (Opening.query alike own) continues

theorem blind_receiveCorrelated
    (agree : Database.AgreeOn organization left right)
    (matched : Matches (left.scope right organization) left right)
    {email : InboundEmail}
    (shared : ∀ identity, email.messageId = some identity →
      left.identityTaken identity = right.identityTaken identity)
    {key : Nat}
    (inside : (left.scope right organization).contacts key = true) :
    Blind (left.scope right organization) left right deployment.settings
      (receiveCorrelated deployment (some organization) email key) fun _ => True := by
  refine Paired.bind (blind_loadContact inside) fun loaded members => ?_
  refine Paired.bind (Paired.required loaded) fun contact present => ?_
  have member := members contact present
  refine Paired.bind (blind_loadCampaign member) fun campaign owner => ?_
  refine Paired.bind (Blind.ask fun _ _ _ => rfl) fun reference fresh => ?_
  refine Paired.bind Blind.utcnow fun createdAt _ => ?_
  have within : (Change.insertMessage (inboundMessage key none email.messageId email createdAt
      reference)).Within (left.scope right organization) := by
    refine ⟨inside, nofun, ?_, ?_⟩
    · intro identity valued
      exact shared identity valued
    · rintro _ ⟨⟩
      exact fresh
  refine Paired.bind (Blind.stage within) fun _ _ => ?_
  refine Paired.bind (Paired.attempt Blind.flush) fun flushed _ => ?_
  have opens : ∀ pending twins, Opening left right pending twins →
      Level (left.scope right organization) left right pending twins :=
    fun _ _ opening => opening.level matched
  split
  · refine Paired.follow Opening.rollback (fun _ _ => ?_) opens
    refine Paired.follow (Opening.observe (agree.findDuplicate email.messageId))
      (fun existing _ => ?_) opens
    intro pending twins opening
    exact ⟨opens pending twins opening, fun _ _ => trivial⟩
  · exact Paired.raise _
  · exact Paired.bind (blind_classifyAndApplyInbound inside member owner email reference)
      fun _ _ => Paired.pure _ trivial

/-- Two runs of `process_inbound_email_v2` for an organization on databases that agree
on it and on the use of the Message-ID. -/
theorem paired_processInboundEmailV2
    (agree : Database.AgreeOn organization left right)
    (matched : Matches (left.scope right organization) left right)
    {received : InboundEmail}
    (shared : ∀ identity, received.normalized.messageId = some identity →
      left.identityTaken identity = right.identityTaken identity) :
    Paired deployment.settings (left.scope right organization) (Opening left right)
      (Level (left.scope right organization) left right)
      (processInboundEmailV2 deployment received (some organization)) fun _ => True := by
  have opens : ∀ pending twins, Opening left right pending twins →
      Level (left.scope right organization) left right pending twins :=
    fun _ _ opening => opening.level matched
  have continues : ∀ existing : Option (Nat × Message),
      Paired deployment.settings (left.scope right organization) (Opening left right)
        (Level (left.scope right organization) left right)
        (receiveUnlessDuplicate deployment (some organization) received.normalized existing)
        fun _ => True := by
    intro existing
    cases existing with
    | some found =>
        intro pending twins opening
        exact ⟨opens pending twins opening, fun _ _ => trivial⟩
    | none =>
        refine Paired.follow (opening_correlate agree received.normalized)
          (fun correlated inside => ?_) opens
        cases correlated with
        | none =>
            intro pending twins opening
            exact ⟨opens pending twins opening, fun _ _ => trivial⟩
        | some key =>
            intro pending twins opening
            exact blind_receiveCorrelated agree matched shared (inside key rfl)
              pending twins (opens pending twins opening)
  refine Paired.ite (fun _ => ?_) fun _ => ?_
  · exact Paired.follow (Opening.observe (agree.findDuplicate _)) (fun existing _ =>
      continues existing) opens
  · have absent : Paired deployment.settings (left.scope right organization)
        (Opening left right) (Opening left right) (pure none : Program (Option (Nat × Message)))
        fun _ => True := Paired.pure none trivial
    exact Paired.follow absent (fun existing _ => continues existing) opens

/-- Nothing was stored, or the same changes on both sides. -/
def Ended
    (scope : Scope)
    (left right : Database)
    (_ : List Change)
    (twins : Twins Database Change) : Prop :=
  twins.left = left ∧ twins.right = right ∨
    ∃ writes, (∀ change ∈ writes, change.Within scope) ∧
      applyAll Change.apply left writes = some twins.left ∧
      applyAll Change.apply right writes = some twins.right

theorem Level.ended
    {scope : Scope}
    {pending : List Change}
    {twins : Twins Database Change}
    (level : Level scope left right pending twins) :
    Ended scope left right pending twins :=
  .inl ⟨level.left, level.right⟩

theorem paired_commit
    {settings : Settings}
    {scope : Scope} :
    Paired settings scope (Level scope left right) (Ended scope left right) commit
      fun _ => True := by
  refine Paired.follow Blind.flush (fun _ _ => ?_) fun _ _ level => level.ended
  intro pending twins level
  refine ⟨⟨level.ended, nofun⟩, ?_⟩
  intro _ viewLeft viewRight sees
  have stored : Ended scope left right pending ⟨viewLeft, viewRight, {}⟩ := by
    refine .inr ⟨twins.session.writes, level.written, ?_, ?_⟩
    · rw [← level.left]
      exact sees.left
    · rw [← level.right]
      exact sees.right
  exact ⟨⟨stored, fun _ _ => trivial⟩, ⟨stored, nofun⟩⟩

/-- Two runs of `receive_inbound_email`. -/
theorem paired_receiveInboundEmail
    (deployment : Deployment)
    (agree : Database.AgreeOn organization left right)
    (matched : Matches (left.scope right organization) left right)
    {payload : InboundEmail}
    (shared : ∀ identity, payload.normalized.messageId = some identity →
      left.identityTaken identity = right.identityTaken identity) :
    Paired deployment.settings (left.scope right organization) (Opening left right)
      (Ended (left.scope right organization) left right)
      (receiveInboundEmail deployment organization payload) fun _ => True := by
  have body : Paired deployment.settings (left.scope right organization) (Opening left right)
      (Ended (left.scope right organization) left right)
      (do
        let result ← processInboundEmailV2 deployment
          { payload with
            fromEmail := deployment.services.lower (PyText.strip payload.fromEmail) }
          (some organization)
        commit
        pure result) fun _ => True := by
    refine Paired.follow (paired_processInboundEmailV2 agree matched shared)
      (fun result _ => ?_) fun _ _ level => level.ended
    exact Paired.follow paired_commit (fun _ _ => Paired.pure _ trivial) fun _ _ => id
  refine Paired.follow (Paired.attempt body) (fun result _ => ?_) fun _ _ => id
  have closes : Paired deployment.settings (left.scope right organization)
      (Ended (left.scope right organization) left right)
      (Ended (left.scope right organization) left right) rollback fun _ => True :=
    fun _ _ ended => ⟨ended, fun _ _ => trivial⟩
  exact Paired.bind closes fun _ _ => Paired.ofExcept result

end Webhook
end Native
end MailerAgent
