import MailerAgent.Foundation.Selection
import MailerAgent.Native.Polling

/-!
# What belongs to one organization

`Scope` names what belongs to an organization, and `Matches` says that two databases
cannot be told apart inside of it: the same contacts and campaigns under the same keys,
and the same messages, suppression entries and retained mail, wherever these are
stored. A change `Within` the scope is accepted by both databases or by neither, and
leaves databases that still match.
-/

namespace MailerAgent
namespace Native

open Concurrent Relational

/-- What belongs to an organization. The Message-IDs and public handles in the scope
are those about whose use two databases agree; the indexes over them are shared with
all other organizations. -/
structure Scope where
  organization : String
  campaigns : Nat → Bool
  contacts : Nat → Bool
  mailboxes : Nat → Bool
  identity : String → Prop
  reference : String → Prop

/-- A message of a contact in the scope. -/
def Scope.message
    (scope : Scope)
    (message : Message) : Bool :=
  scope.contacts message.contactId

/-- A suppression entry of the organization. -/
def Scope.suppression
    (scope : Scope)
    (entry : SuppressionEntry) : Bool :=
  entry.organizationId == some scope.organization

/-- A message retained for a mailbox in the scope. -/
def Scope.retained
    (scope : Scope)
    (row : UnmatchedInboundMessage) : Bool :=
  scope.mailboxes row.mailboxId

/-- Changes to the rows of one organization. -/
def Change.Within (scope : Scope) : Change → Prop
  | insertMessage row =>
      scope.message row = true ∧
        (∀ mailboxId, row.mailboxId = some mailboxId → scope.mailboxes mailboxId = true) ∧
        (∀ identity, row.globalIdentity = some identity → scope.identity identity) ∧
        ∀ reference, row.replyReference = some reference → scope.reference reference
  | insertSuppression row => row.organizationId = some scope.organization
  | insertUnmatched row =>
      scope.mailboxes row.mailboxId = true ∧ row.organizationId = scope.organization
  | updateContact key _ => scope.contacts key = true
  | interpretMessage contactId _ _ => scope.contacts contactId = true
  | resolveRetained mailboxId _ _ => scope.mailboxes mailboxId = true
  | _ => False

/-- Messages received through a mailbox in the scope belong to its contacts. -/
def Scope.Delivers
    (scope : Scope)
    (database : Database) : Prop :=
  ∀ key message mailboxId, database.messages.get key = some message →
    message.mailboxId = some mailboxId → scope.mailboxes mailboxId = true →
    scope.message message = true

/-- Two databases that look the same inside a scope. -/
structure Matches
    (scope : Scope)
    (left right : Database) : Prop where
  campaigns : ∀ key, scope.campaigns key = true → ∃ campaign,
    left.campaigns.get key = some campaign ∧ right.campaigns.get key = some campaign ∧
      campaign.organizationId = some scope.organization
  contacts : ∀ key, scope.contacts key = true → ∃ contact,
    left.contacts.get key = some contact ∧ right.contacts.get key = some contact ∧
      scope.campaigns contact.campaignId = true
  messages : left.messages.select scope.message = right.messages.select scope.message
  deliversLeft : scope.Delivers left
  deliversRight : scope.Delivers right
  suppressions :
    left.suppressions.select scope.suppression = right.suppressions.select scope.suppression
  mailboxes : ∀ key, scope.mailboxes key = true →
    key < left.mailboxes.size ∧ key < right.mailboxes.size
  unmatched : left.unmatched.select scope.retained = right.unmatched.select scope.retained
  identities : ∀ identity, scope.identity identity →
    left.messages.existsWhere (fun message => message.globalIdentity == some identity) =
      right.messages.existsWhere fun message => message.globalIdentity == some identity
  references : ∀ reference, scope.reference reference →
    left.messages.existsWhere (fun message => message.replyReference == some reference) =
      right.messages.existsWhere fun message => message.replyReference == some reference

namespace Matches

variable {scope : Scope} {left right : Database}

/-! ## Reading -/

/-- The organization of a contact in the scope. -/
theorem organizationOf
    (matched : Matches scope left right)
    {contact : Contact}
    (inside : scope.campaigns contact.campaignId = true) :
    left.organizationOf contact = some scope.organization ∧
      right.organizationOf contact = some scope.organization := by
  obtain ⟨campaign, onLeft, onRight, owner⟩ := matched.campaigns _ inside
  unfold Database.organizationOf Database.campaignOf
  rw [onLeft, onRight]
  exact ⟨owner, owner⟩

/-- Rows of a contact are read alike. -/
theorem conversation
    (matched : Matches scope left right)
    {key : Nat}
    (inside : scope.contacts key = true) :
    Native.conversation key left = Native.conversation key right := by
  have implied : ∀ message : Message, (message.contactId == key) = true →
      scope.message message = true := by
    intro message here
    rw [beq_iff_eq] at here
    rw [Scope.message, here]
    exact inside
  unfold Native.conversation
  rw [Table.filterMap_keysWhere, Table.filterMap_keysWhere,
    left.messages.select_select scope.message implied,
    right.messages.select_select scope.message implied, matched.messages]

theorem existsMessage
    (matched : Matches scope left right)
    {condition : Message → Bool}
    (implied : ∀ message, condition message = true → scope.message message = true) :
    left.messages.existsWhere condition = right.messages.existsWhere condition := by
  rw [Table.existsWhere_eq_any_select scope.message fun _ row _ => implied row,
    Table.existsWhere_eq_any_select scope.message fun _ row _ => implied row,
    matched.messages]

theorem existsSuppression
    (matched : Matches scope left right)
    {condition : SuppressionEntry → Bool}
    (implied : ∀ entry, condition entry = true → scope.suppression entry = true) :
    left.suppressions.existsWhere condition = right.suppressions.existsWhere condition := by
  rw [Table.existsWhere_eq_any_select scope.suppression fun _ row _ => implied row,
    Table.existsWhere_eq_any_select scope.suppression fun _ row _ => implied row,
    matched.suppressions]

theorem existsUnmatched
    (matched : Matches scope left right)
    {condition : UnmatchedInboundMessage → Bool}
    (implied : ∀ row, condition row = true → scope.retained row = true) :
    left.unmatched.existsWhere condition = right.unmatched.existsWhere condition := by
  rw [Table.existsWhere_eq_any_select scope.retained fun _ row _ => implied row,
    Table.existsWhere_eq_any_select scope.retained fun _ row _ => implied row,
    matched.unmatched]

theorem hasUnresolvedCopy
    (matched : Matches scope left right)
    {mailboxId : Nat}
    {identity : String}
    (inside : scope.mailboxes mailboxId = true) :
    Native.hasUnresolvedCopy mailboxId identity left =
      Native.hasUnresolvedCopy mailboxId identity right := by
  refine matched.existsUnmatched fun row here => ?_
  rw [Bool.and_eq_true, Bool.and_eq_true, beq_iff_eq] at here
  rw [Scope.retained, here.1.1]
  exact inside

/-- The index over the identities inside a mailbox. -/
theorem mailboxClash
    (matched : Matches scope left right)
    {row : Message}
    (inside : ∀ mailboxId, row.mailboxId = some mailboxId →
      scope.mailboxes mailboxId = true) :
    left.messages.clashes Message.mailboxIdentity row =
      right.messages.clashes Message.mailboxIdentity row := by
  unfold Table.clashes
  cases valued : row.mailboxIdentity with
  | none => rfl
  | some value =>
      have bound : ∀ message : Message, message.mailboxIdentity = some value →
          message.mailboxId = some value.1 := by
        intro message same
        unfold Message.mailboxIdentity at same
        split at same
        · next mailbox _ found _ =>
            cases same
            exact found
        · cases same
      have mailbox := inside value.1 (bound row valued)
      simp only [Option.any_some]
      refine (Table.existsWhere_eq_any_select scope.message ?_).trans
        (Eq.trans ?_ (Table.existsWhere_eq_any_select scope.message ?_).symm)
      · intro key message found same
        exact matched.deliversLeft key message value.1 found
          (bound message (by simpa using same)) mailbox
      · rw [matched.messages]
      · intro key message found same
        exact matched.deliversRight key message value.1 found
          (bound message (by simpa using same)) mailbox

theorem suppressionClash
    (matched : Matches scope left right)
    {row : SuppressionEntry}
    (owner : row.organizationId = some scope.organization) :
    left.suppressions.clashes SuppressionEntry.emailOrganization row =
      right.suppressions.clashes SuppressionEntry.emailOrganization row := by
  have valued : row.emailOrganization = some (row.email, scope.organization) := by
    rw [SuppressionEntry.emailOrganization, owner]
    rfl
  unfold Table.clashes
  rw [valued]
  refine matched.existsSuppression fun entry same => ?_
  have found : entry.emailOrganization = some (row.email, scope.organization) := by
    simpa using same
  unfold SuppressionEntry.emailOrganization at found
  obtain ⟨organization, present, pair⟩ := Option.map_eq_some_iff.mp found
  have same : organization = scope.organization := congrArg Prod.snd pair
  rw [Scope.suppression, present, same]
  exact beq_self_eq_true _

theorem unmatchedClash
    (matched : Matches scope left right)
    {row : UnmatchedInboundMessage}
    (inside : scope.mailboxes row.mailboxId = true) :
    left.unmatched.clashes UnmatchedInboundMessage.mailboxIdentity row =
      right.unmatched.clashes UnmatchedInboundMessage.mailboxIdentity row := by
  unfold Table.clashes
  refine matched.existsUnmatched fun other same => ?_
  have pair : other.mailboxIdentity = row.mailboxIdentity := by
    simpa [UnmatchedInboundMessage.mailboxIdentity] using same
  have mailbox : other.mailboxId = row.mailboxId :=
    congrArg Prod.fst (Option.some.inj pair)
  rw [Scope.retained, mailbox]
  exact inside

/-- A message of a contact in the scope is one of the organization. -/
theorem inOrganization
    (matched : Matches scope left right)
    {message : Message}
    (inside : scope.message message = true) :
    Native.inOrganization left (some scope.organization) message = true ∧
      Native.inOrganization right (some scope.organization) message = true := by
  obtain ⟨contact, onLeft, onRight, member⟩ := matched.contacts _ inside
  obtain ⟨ownerLeft, ownerRight⟩ := matched.organizationOf member
  unfold Native.inOrganization
  rw [Option.all_some, Option.all_some, onLeft, onRight, Option.any_some, Option.any_some,
    ownerLeft, ownerRight]
  exact ⟨beq_self_eq_true _, beq_self_eq_true _⟩

/-- What was received under an identity through a mailbox in the scope. -/
theorem select_isInboundMessage
    {database : Database}
    {mailboxId : Nat}
    (delivers : scope.Delivers database)
    (inside : scope.mailboxes mailboxId = true)
    (member : ∀ message, scope.message message = true →
      Native.inOrganization database (some scope.organization) message = true)
    (identity : String) :
    database.messages.select
        (isInboundMessage database mailboxId scope.organization identity) =
      (database.messages.select scope.message).filter fun message =>
        message.mailboxId == some mailboxId && message.messageIdHeader == some identity &&
          message.direction == .inbound := by
  unfold Table.select
  rw [List.filter_filter]
  refine List.filter_congr fun message stored => ?_
  obtain ⟨key, found⟩ := List.mem_iff_getElem?.mp stored
  unfold isInboundMessage
  cases here : message.mailboxId == some mailboxId with
  | false => rfl
  | true =>
      have own := delivers key message mailboxId found (beq_iff_eq.mp here) inside
      rw [member message own, own, Bool.and_true]

theorem findInboundMessage
    (matched : Matches scope left right)
    {mailboxId : Nat}
    (inside : scope.mailboxes mailboxId = true)
    (identity : String) :
    Native.findInboundMessage mailboxId scope.organization identity left =
      Native.findInboundMessage mailboxId scope.organization identity right := by
  unfold Native.findInboundMessage
  rw [Table.firstWhere_bind_get, Table.firstWhere_bind_get,
    select_isInboundMessage matched.deliversLeft inside
      (fun _ own => (matched.inOrganization own).1) identity,
    select_isInboundMessage matched.deliversRight inside
      (fun _ own => (matched.inOrganization own).2) identity, matched.messages]

/-! ## Writing -/

/-- A message is accepted by both databases or by neither. -/
theorem messageRejected
    (matched : Matches scope left right)
    {row : Message}
    (within : (Change.insertMessage row).Within scope) :
    left.messageRejected row = right.messageRejected row := by
  obtain ⟨inside, mailbox, identity, reference⟩ := within
  obtain ⟨contact, onLeft, onRight, -⟩ := matched.contacts _ inside
  have contactLeft := Table.lt_size_of_get onLeft
  have contactRight := Table.lt_size_of_get onRight
  have sameMailbox : (row.mailboxId.all fun key => decide (key < left.mailboxes.size)) =
      row.mailboxId.all fun key => decide (key < right.mailboxes.size) := by
    cases bound : row.mailboxId with
    | none => rfl
    | some key =>
        obtain ⟨keyLeft, keyRight⟩ := matched.mailboxes key (mailbox key bound)
        simp [keyLeft, keyRight]
  have sameGlobal : left.messages.clashes Message.globalIdentity row =
      right.messages.clashes Message.globalIdentity row := by
    unfold Table.clashes
    cases valued : row.globalIdentity with
    | none => rfl
    | some value => exact matched.identities value (identity value valued)
  have sameReference : left.messages.clashes Message.replyReference row =
      right.messages.clashes Message.replyReference row := by
    unfold Table.clashes
    cases valued : row.replyReference with
    | none => rfl
    | some value => exact matched.references value (reference value valued)
  unfold Database.messageRejected
  rw [sameMailbox, sameGlobal, sameReference, matched.mailboxClash mailbox]
  simp [contactLeft, contactRight]

theorem insertMessage
    (matched : Matches scope left right)
    {row : Message}
    (inside : scope.message row = true) :
    Matches scope { left with messages := left.messages.insert row }
      { right with messages := right.messages.insert row } where
  campaigns := matched.campaigns
  contacts := matched.contacts
  messages := by
    rw [Table.select_insert, Table.select_insert, matched.messages]
  deliversLeft key message mailboxId found bound own := by
    rcases Table.get_insert_cases found with old | ⟨-, rfl⟩
    · exact matched.deliversLeft key message mailboxId old bound own
    · exact inside
  deliversRight key message mailboxId found bound own := by
    rcases Table.get_insert_cases found with old | ⟨-, rfl⟩
    · exact matched.deliversRight key message mailboxId old bound own
    · exact inside
  suppressions := matched.suppressions
  mailboxes := matched.mailboxes
  unmatched := matched.unmatched
  identities identity shared := by
    rw [Table.existsWhere_insert, Table.existsWhere_insert,
      matched.identities identity shared]
  references reference shared := by
    rw [Table.existsWhere_insert, Table.existsWhere_insert,
      matched.references reference shared]

theorem insertSuppression
    (matched : Matches scope left right)
    (row : SuppressionEntry) :
    Matches scope { left with suppressions := left.suppressions.insert row }
      { right with suppressions := right.suppressions.insert row } :=
  { matched with
    suppressions := by rw [Table.select_insert, Table.select_insert, matched.suppressions] }

theorem insertUnmatched
    (matched : Matches scope left right)
    (row : UnmatchedInboundMessage) :
    Matches scope { left with unmatched := left.unmatched.insert row }
      { right with unmatched := right.unmatched.insert row } :=
  { matched with
    unmatched := by rw [Table.select_insert, Table.select_insert, matched.unmatched] }

theorem updateContact
    (matched : Matches scope left right)
    (key : Nat)
    (patch : ContactPatch) :
    Matches scope (left.modifyContact key patch.apply)
      (right.modifyContact key patch.apply) :=
  { matched with
    contacts := by
      intro other own
      obtain ⟨contact, onLeft, onRight, inside⟩ := matched.contacts other own
      refine ⟨if other = key then patch.apply contact else contact, ?_, ?_, ?_⟩
      · change (left.contacts.modify key patch.apply).get other = _
        rw [Table.get_modify, onLeft]
        split <;> rfl
      · change (right.contacts.modify key patch.apply).get other = _
        rw [Table.get_modify, onRight]
        split <;> rfl
      · split
        · exact inside
        · exact inside }

/-- The messages after one that a guarded update found was interpreted. -/
theorem interpret_messages
    (database : Database)
    (found : Option Nat)
    (interpretation : Interpretation) :
    (found.elim database fun key => database.modifyMessage key interpretation.apply) =
      { database with
        messages := found.elim database.messages fun key =>
          database.messages.modify key interpretation.apply } := by
  cases found with
  | none => rfl
  | some key => rfl

/-- An interpretation leaves the identities of messages alone. -/
theorem existsWhere_interpret
    {condition : Message → Bool}
    {interpretation : Interpretation}
    (kept : ∀ message, condition (interpretation.apply message) = condition message)
    (messages : Table Message)
    (found : Option Nat) :
    (found.elim messages fun key =>
        messages.modify key interpretation.apply).existsWhere condition =
      messages.existsWhere condition := by
  cases found with
  | none => rfl
  | some key => exact Table.existsWhere_modify kept messages key

theorem delivers_interpret
    {database : Database}
    (delivers : scope.Delivers database)
    (found : Option Nat)
    (interpretation : Interpretation) :
    scope.Delivers (found.elim database fun key =>
      database.modifyMessage key interpretation.apply) := by
  cases found with
  | none => exact delivers
  | some position =>
      intro key message mailboxId stored bound own
      obtain ⟨before, foundBefore, same⟩ := Table.get_modify_cases stored
      split at same
      · subst same
        exact delivers key before mailboxId foundBefore bound own
      · subst same
        exact delivers key message mailboxId foundBefore bound own

theorem interpretMessage
    (matched : Matches scope left right)
    {contactId : Nat}
    (inside : scope.contacts contactId = true)
    (reference : String)
    (interpretation : Interpretation) :
    Matches scope
      ((messageByReference left contactId reference).elim left fun key =>
        left.modifyMessage key interpretation.apply)
      ((messageByReference right contactId reference).elim right fun key =>
        right.modifyMessage key interpretation.apply) := by
  have implied : ∀ message : Message,
      (message.contactId == contactId && message.replyReference == some reference) = true →
      scope.message message = true := by
    intro message here
    rw [Bool.and_eq_true, beq_iff_eq] at here
    rw [Scope.message, here.1]
    exact inside
  have deliversLeft := delivers_interpret matched.deliversLeft
    (messageByReference left contactId reference) interpretation
  have deliversRight := delivers_interpret matched.deliversRight
    (messageByReference right contactId reference) interpretation
  rw [interpret_messages] at deliversLeft deliversRight ⊢
  rw [interpret_messages]
  exact
    { campaigns := matched.campaigns
      contacts := matched.contacts
      messages := by
        unfold messageByReference
        rw [Table.select_modify_firstWhere interpretation.apply implied fun _ => rfl,
          Table.select_modify_firstWhere interpretation.apply implied fun _ => rfl,
          matched.messages]
      deliversLeft := deliversLeft
      deliversRight := deliversRight
      suppressions := matched.suppressions
      mailboxes := matched.mailboxes
      unmatched := matched.unmatched
      identities := by
        intro identity shared
        rw [existsWhere_interpret fun _ => rfl, existsWhere_interpret fun _ => rfl]
        exact matched.identities identity shared
      references := by
        intro handle shared
        rw [existsWhere_interpret fun _ => rfl, existsWhere_interpret fun _ => rfl]
        exact matched.references handle shared }

theorem resolveRetained
    (matched : Matches scope left right)
    {mailboxId : Nat}
    (inside : scope.mailboxes mailboxId = true)
    (identity : String)
    (resolvedAt : Instant) :
    Matches scope
      ((unresolvedRetained left mailboxId identity).elim left fun key =>
        left.modifyUnmatched key fun row => { row with resolvedAt := some resolvedAt })
      ((unresolvedRetained right mailboxId identity).elim right fun key =>
        right.modifyUnmatched key fun row => { row with resolvedAt := some resolvedAt }) := by
  have implied : ∀ row : UnmatchedInboundMessage,
      (row.mailboxId == mailboxId && row.messageIdHeader == identity &&
        row.resolvedAt.isNone) = true →
      scope.retained row = true := by
    intro row here
    rw [Bool.and_eq_true, Bool.and_eq_true, beq_iff_eq] at here
    rw [Scope.retained, here.1.1]
    exact inside
  have rewritten : ∀ (database : Database) (found : Option Nat),
      (found.elim database fun key =>
          database.modifyUnmatched key fun row => { row with resolvedAt := some resolvedAt }) =
        { database with
          unmatched := found.elim database.unmatched fun key =>
            database.unmatched.modify key fun row =>
              { row with resolvedAt := some resolvedAt } } := by
    intro database found
    cases found with
    | none => rfl
    | some key => rfl
  rw [rewritten, rewritten]
  exact
    { matched with
      unmatched := by
        unfold unresolvedRetained
        rw [Table.select_modify_firstWhere (fun row => { row with resolvedAt := some resolvedAt })
            implied fun _ => rfl,
          Table.select_modify_firstWhere (fun row => { row with resolvedAt := some resolvedAt })
            implied fun _ => rfl,
          matched.unmatched] }

/-- A change within the scope is accepted on both sides or on neither, and the sides
still match. -/
theorem apply
    (matched : Matches scope left right)
    {change : Change}
    (within : change.Within scope) :
    Option.Rel (Matches scope) (change.apply left) (change.apply right) := by
  cases change with
  | insertMessage row =>
      simp only [Change.apply, Database.insertMessage]
      rw [matched.messageRejected within]
      split
      · exact .none
      · exact .some (matched.insertMessage within.1)
  | insertSuppression row =>
      simp only [Change.apply, Database.insertSuppression]
      rw [matched.suppressionClash within]
      split
      · exact .none
      · exact .some (matched.insertSuppression row)
  | insertUnmatched row =>
      obtain ⟨onLeft, onRight⟩ := matched.mailboxes _ within.1
      simp only [Change.apply, Database.insertUnmatched]
      rw [if_pos onLeft, if_pos onRight, matched.unmatchedClash within.1]
      split
      · exact .none
      · exact .some (matched.insertUnmatched row)
  | updateContact key patch => exact .some (matched.updateContact key patch)
  | interpretMessage contactId reference interpretation =>
      exact .some (matched.interpretMessage within reference interpretation)
  | resolveRetained mailboxId identity resolvedAt =>
      exact .some (matched.resolveRetained within identity resolvedAt)
  | _ => exact within.elim

theorem applyAll
    (matched : Matches scope left right)
    {changes : List Change}
    (within : ∀ change ∈ changes, change.Within scope) :
    Option.Rel (Matches scope) (Concurrent.applyAll Change.apply left changes)
      (Concurrent.applyAll Change.apply right changes) := by
  induction changes generalizing left right with
  | nil => exact .some matched
  | cons change rest inductionHypothesis =>
      have first := matched.apply (within change List.mem_cons_self)
      simp only [Concurrent.applyAll]
      generalize change.apply left = nextLeft at first ⊢
      generalize change.apply right = nextRight at first ⊢
      cases first with
      | none => exact .none
      | some next =>
          exact inductionHypothesis next fun later member =>
            within later (List.mem_cons_of_mem _ member)

end Matches
end Native
end MailerAgent
