import MailerAgent.Native.Agreement
import MailerAgent.World.Operations

/-!
# Attached and retained mail

The pair of a mailbox and an identity is attached if a message of a contact has it, and
unresolved if a retained copy has it that is not marked as resolved. A poll looks a pair up
and writes it in one transaction, while other polls may do the same. The agreement of the
polls says how far this is safe: while a poll handles a pair nobody else attaches it, and
once it is about to attach it nobody else retains it.
-/

namespace MailerAgent

open Concurrent Relational Mail Native

/-! ## Pairs -/

/-- An inbound message of a mailbox under an identity. -/
def Attached
    (database : Database)
    (pair : Nat × String) : Prop :=
  ∃ key message, database.messages.get key = some message ∧
    message.direction = .inbound ∧ message.mailboxIdentity = some pair

/-- A retained copy that is not resolved. -/
def Unresolved
    (database : Database)
    (pair : Nat × String) : Prop :=
  ∃ key row, database.unmatched.get key = some row ∧
    row.mailboxIdentity = some pair ∧ row.resolvedAt = none

/-- No pair is both attached and unresolved. -/
def Separate (database : Database) : Prop :=
  ∀ pair, Attached database pair → ¬Unresolved database pair

/-- What is resolved is attached. -/
def Justified (database : Database) : Prop :=
  ∀ key row, database.unmatched.get key = some row → row.resolvedAt ≠ none →
    Attached database (row.mailboxId, row.messageIdHeader)

theorem mailboxIdentity_eq_some
    {message : Message}
    {pair : Nat × String} :
    message.mailboxIdentity = some pair ↔
      message.mailboxId = some pair.1 ∧ message.messageIdHeader = some pair.2 := by
  obtain ⟨mailboxId, identity⟩ := pair
  unfold Message.mailboxIdentity
  cases message.mailboxId <;> cases message.messageIdHeader <;> simp

theorem mailboxIdentity_congr
    {before after : Message}
    (mailbox : after.mailboxId = before.mailboxId)
    (header : after.messageIdHeader = before.messageIdHeader) :
    after.mailboxIdentity = before.mailboxIdentity := by
  unfold Message.mailboxIdentity
  rw [mailbox, header]

/-! ## Writes -/

namespace Native

/-- The changes to retained mail. -/
def Change.Retains : Change → Prop
  | insertUnmatched _ => True
  | resolveRetained _ _ _ => True
  | _ => False

/-- The changes that neither retain mail nor attach any. -/
def Change.Aside : Change → Prop
  | insertMessage row => row.mailboxId = none
  | insertUnmatched _ => False
  | resolveRetained _ _ _ => False
  | _ => True

theorem Change.Plain.aside
    {change : Change}
    (plain : change.Plain) :
    change.Aside := by
  cases change with
  | insertMessage row => exact plain
  | insertUnmatched row => exact plain
  | resolveRetained mailboxId identity instant => exact plain
  | _ => trivial

theorem Change.Aside.not_retains
    {change : Change}
    (aside : change.Aside) :
    ¬change.Retains := by
  cases change with
  | insertUnmatched row => exact aside.elim
  | resolveRetained mailboxId identity instant => exact aside.elim
  | _ => exact id

theorem Change.Plain.not_approves
    {change : Change}
    (plain : change.Plain) :
    ¬change.Approves := by
  cases change with
  | recordSend key record => exact plain.elim
  | _ => exact id

section Effects

variable {before after : Database} {change : Change}

/-- A message keeps its mailbox, and its place in a conversation unless a send of it is
recorded. -/
def Change.SameArrival
    (change : Change)
    (before after : Message) : Prop :=
  after.mailboxId = before.mailboxId ∧
    (¬change.Approves → Message.SameMail before after)

theorem Change.messages_effect (applied : change.apply before = some after) :
    TableEffect change.SameArrival before.messages change.insertedMessage after.messages := by
  have kept : change.ordinary →
      TableEffect change.SameArrival before.messages change.insertedMessage after.messages :=
    fun ordinary => ((Change.apply_effect applied).messages ordinary).imp
      fun _ _ same => ⟨same.2.2.1, fun _ => same⟩
  cases change with
  | insertCampaign row =>
      obtain ⟨-, rfl⟩ := Database.insertCampaign_eq_some applied
      exact .kept
  | insertContact row =>
      obtain ⟨-, -, rfl⟩ := Database.insertContact_eq_some applied
      exact .kept
  | insertMailbox row =>
      obtain ⟨-, -, rfl⟩ := Database.insertMailbox_eq_some applied
      exact .kept
  | recordSend key record =>
      obtain ⟨rfl, -⟩ := Database.updateMessage_eq_some applied
      exact .modified key record.apply fun _ _ => ⟨rfl, fun other => absurd trivial other⟩
  | _ => exact kept trivial

/-- Only two changes touch retained mail. -/
theorem Change.unmatched_eq
    (applied : change.apply before = some after)
    (other : ¬change.Retains) :
    after.unmatched = before.unmatched := by
  cases change with
  | insertUnmatched row => exact absurd trivial other
  | resolveRetained mailboxId identity instant => exact absurd trivial other
  | insertCampaign row =>
      obtain ⟨-, rfl⟩ := Database.insertCampaign_eq_some applied
      rfl
  | insertContact row =>
      obtain ⟨-, -, rfl⟩ := Database.insertContact_eq_some applied
      rfl
  | insertMessage row =>
      obtain ⟨-, rfl⟩ := Database.insertMessage_eq_some applied
      rfl
  | insertSuppression row =>
      obtain ⟨-, rfl⟩ := Database.insertSuppression_eq_some applied
      rfl
  | insertMailbox row =>
      obtain ⟨-, -, rfl⟩ := Database.insertMailbox_eq_some applied
      rfl
  | updateContact key patch =>
      obtain rfl := Option.some.inj applied
      rfl
  | recordSend key record =>
      obtain ⟨rfl, -⟩ := Database.updateMessage_eq_some applied
      rfl
  | interpretMessage contactId reference interpretation =>
      obtain rfl := Option.some.inj applied
      cases messageByReference before contactId reference with
      | none => rfl
      | some key => rfl
  | updateMailbox key patch =>
      obtain rfl := Option.some.inj applied
      rfl

/-- A retained copy keeps its pair and stays resolved. -/
def SameRetained (before after : UnmatchedInboundMessage) : Prop :=
  after.mailboxIdentity = before.mailboxIdentity ∧
    (before.resolvedAt ≠ none → after.resolvedAt ≠ none)

theorem SameRetained.refl (row : UnmatchedInboundMessage) : SameRetained row row :=
  ⟨rfl, id⟩

theorem tracks_retained :
    Tracks Change.apply (fun _ => True) Database.unmatched Change.insertedUnmatched
      SameRetained where
  refl := SameRetained.refl
  trans _ _ _ first second := ⟨second.1.trans first.1, fun set => second.2 (first.2 set)⟩
  effect := by
    intro before after change _ applied
    by_cases retains : change.Retains
    · cases change with
      | insertUnmatched row =>
          obtain ⟨-, -, rfl⟩ := Database.insertUnmatched_eq_some applied
          exact .inserted row
      | resolveRetained mailboxId identity resolvedAt =>
          obtain rfl := Option.some.inj applied
          cases unresolvedRetained before mailboxId identity with
          | none => exact .kept
          | some key => exact .modified key _ fun _ _ => ⟨rfl, fun _ => nofun⟩
      | _ => exact retains.elim
    · have nothing : change.insertedUnmatched = none := by
        cases change with
        | insertUnmatched row => exact absurd trivial retains
        | _ => rfl
      rw [nothing, Change.unmatched_eq applied retains]
      exact .kept

theorem tracks_arrivals :
    Tracks Change.apply (fun _ => True) Database.messages Change.insertedMessage
      (fun before after => after.mailboxId = before.mailboxId) where
  refl _ := rfl
  trans _ _ _ first second := second.trans first
  effect _ applied := (Change.messages_effect applied).imp fun _ _ same => same.1

theorem tracks_mail :
    Tracks Change.apply (fun change => ¬change.Approves) Database.messages
      Change.insertedMessage Message.SameMail where
  refl := tracks_messages.refl
  trans := tracks_messages.trans
  effect other applied := (Change.messages_effect applied).imp fun _ _ same => same.2 other

end Effects
end Native

section Transactions

variable {before after : Database} {writes : List Change} {pair : Nat × String}

theorem applyAll_unmatched
    (others : ∀ change ∈ writes, ¬change.Retains)
    (applied : applyAll Change.apply before writes = some after) :
    after.unmatched = before.unmatched :=
  @applyAll_induct Database Change Change.apply (fun change => ¬change.Retains)
    (fun first second => second.unmatched = first.unmatched) (fun _ => rfl)
    (fun left right => right.trans left) (fun other effect => Change.unmatched_eq effect other)
    before after writes others applied

/-- The pair of an inserted message. -/
def Attaching
    (writes : List Change)
    (pair : Nat × String) : Prop :=
  ∃ row, .insertMessage row ∈ writes ∧ row.mailboxIdentity = some pair

/-- The pair of an inserted retained copy. -/
def Retaining
    (writes : List Change)
    (pair : Nat × String) : Prop :=
  ∃ row, .insertUnmatched row ∈ writes ∧ row.mailboxIdentity = some pair

theorem insertMessage_of_insertedMessage
    {change : Change}
    {row : Message}
    (inserted : change.insertedMessage = some row) :
    change = .insertMessage row := by
  cases change with
  | insertMessage other => exact congrArg _ (Option.some.inj inserted)
  | _ => cases inserted

theorem insertUnmatched_of_insertedUnmatched
    {change : Change}
    {row : UnmatchedInboundMessage}
    (inserted : change.insertedUnmatched = some row) :
    change = .insertUnmatched row := by
  cases change with
  | insertUnmatched other => exact congrArg _ (Option.some.inj inserted)
  | _ => cases inserted

theorem Attached.of_messages
    (attached : Attached before pair)
    (kept : Table.Extends Message.SameMail before.messages after.messages) :
    Attached after pair := by
  obtain ⟨key, message, found, inbound, identity⟩ := attached
  obtain ⟨current, foundCurrent, same⟩ := kept key message found
  exact ⟨key, current, foundCurrent, same.2.1.trans inbound,
    (mailboxIdentity_congr same.2.2.1 same.2.2.2).trans identity⟩

/-- Attached mail stays attached. -/
theorem Attached.of_extends
    (attached : Attached before pair)
    (extended : before.Extends after) :
    Attached after pair := by
  obtain ⟨key, message, found, inbound, identity⟩ := attached
  obtain ⟨kept, foundKept, keeps⟩ := extended.messages key message found
  exact ⟨key, kept, foundKept, keeps.direction.trans inbound,
    (mailboxIdentity_congr keeps.mailboxId (keeps.identity inbound)).trans identity⟩

theorem attached_of_applyAll
    (mail : ∀ change ∈ writes, ¬change.Approves)
    (applied : applyAll Change.apply before writes = some after)
    (attached : Attached after pair) :
    Attached before pair ∨ Attaching writes pair := by
  obtain ⟨key, message, found, inbound, identity⟩ := attached
  rcases tracks_mail.origin mail applied found with ⟨old, stored, same⟩ |
    ⟨change, member, row, inserted, same⟩
  · exact .inl ⟨key, old, stored, same.2.1.symm.trans inbound,
      (mailboxIdentity_congr same.2.2.1 same.2.2.2).symm.trans identity⟩
  · obtain rfl := insertMessage_of_insertedMessage inserted
    exact .inr ⟨row, member, (mailboxIdentity_congr same.2.2.1 same.2.2.2).symm.trans identity⟩

theorem unresolved_of_applyAll
    (applied : applyAll Change.apply before writes = some after)
    (unresolved : Unresolved after pair) :
    Unresolved before pair ∨ Retaining writes pair := by
  obtain ⟨key, row, found, identity, pending⟩ := unresolved
  rcases tracks_retained.origin (fun _ _ => trivial) applied found with ⟨old, stored, same⟩ |
    ⟨change, member, fresh, inserted, same⟩
  · refine .inl ⟨key, old, stored, same.1.symm.trans identity, ?_⟩
    by_contra set
    exact same.2 set pending
  · obtain rfl := insertUnmatched_of_insertedUnmatched inserted
    exact .inr ⟨fresh, member, same.1.symm.trans identity⟩

/-- Mail that arrives only through the given transactions. -/
theorem attached_of_arrived
    (later : Later before after)
    (arrived : ∀ key message, after.messages.get key = some message →
      message.mailboxId ≠ none → ∃ old, before.messages.get key = some old)
    (attached : Attached after pair) :
    Attached before pair := by
  obtain ⟨key, message, found, inbound, identity⟩ := attached
  have polled : message.mailboxId ≠ none := by
    rw [(mailboxIdentity_eq_some.mp identity).1]
    nofun
  obtain ⟨old, stored⟩ := arrived key message found polled
  obtain ⟨kept, foundKept, keeps⟩ := later.extended.messages key old stored
  obtain rfl : message = kept := Option.some.inj (found.symm.trans foundKept)
  have received := keeps.direction.symm.trans inbound
  exact ⟨key, old, stored, received,
    (mailboxIdentity_congr keeps.mailboxId (keeps.identity received)).symm.trans identity⟩

theorem arrived_of_aside
    (aside : ∀ change ∈ writes, change.Aside)
    (applied : applyAll Change.apply before writes = some after)
    (key : Nat)
    (message : Message)
    (found : after.messages.get key = some message)
    (polled : message.mailboxId ≠ none) :
    ∃ old, before.messages.get key = some old := by
  rcases tracks_arrivals.origin (fun _ _ => trivial) applied found with ⟨old, stored, -⟩ |
    ⟨change, member, row, inserted, same⟩
  · exact ⟨old, stored⟩
  · obtain rfl := insertMessage_of_insertedMessage inserted
    exact absurd (same.trans (aside _ member)) polled

end Transactions

/-! ## The agreement -/

/-- While a poll handles a pair nobody else attaches it, and once the poll is about to
attach it nobody else retains it. -/
def Sheltered
    (observed : Observed)
    (writes : List Change)
    (before after : Database) : Prop :=
  ∀ pair, handledMessage observed = some pair →
    (Attached after pair → Attached before pair) ∧
      (Attaching writes pair → Unresolved after pair → Unresolved before pair)

/-- The agreement of the polls. Only if they are `exclusive` do they rely on each other;
in any case nothing is resolved that is not attached. -/
def coupling (exclusive : Prop) :
    Agreement Database Change Signal Signal.Reply Observed where
  apply := Change.apply
  rely observed writes before after :=
    Later before after ∧ (exclusive → Sheltered observed writes before after)
  guarantee before after :=
    (Justified before → Justified after) ∧
      (exclusive → Separate before → Separate after)
  note := observe

theorem coupling_lawful {exclusive : Prop} : (coupling exclusive).Lawful where
  refl relied _ _ := ⟨relied.1.refl_right, fun _ _ _ => ⟨id, fun _ => id⟩⟩
  trans first second := by
    refine ⟨first.1.trans second.1, fun holds pair handles => ?_⟩
    obtain ⟨attached, unresolved⟩ := first.2 holds pair handles
    obtain ⟨attachedLater, unresolvedLater⟩ := second.2 holds pair handles
    exact ⟨fun there => attached (attachedLater there),
      fun attaching there => unresolved attaching (unresolvedLater attaching there)⟩

/-! ## Transactions of a poll -/

/-- What a poll writes about a pair before anything else, and what it knows then. -/
inductive Opening
    (exclusive : Prop)
    (pair : Nat × String)
    (base : Database) :
    List Change → Prop
  | nothing : Opening exclusive pair base []
  | retained
      {row : UnmatchedInboundMessage}
      (identity : row.mailboxIdentity = some pair)
      (pending : row.resolvedAt = none)
      (unattached : exclusive → ¬Attached base pair) :
      Opening exclusive pair base [.insertUnmatched row]
  | attached
      {row : Message}
      (identity : row.mailboxIdentity = some pair)
      (clear : exclusive → ¬Unresolved base pair) :
      Opening exclusive pair base [.insertMessage row]
  | resolved
      {row : Message}
      (instant : Instant)
      (inbound : row.direction = .inbound)
      (identity : row.mailboxIdentity = some pair) :
      Opening exclusive pair base [.insertMessage row, .resolveRetained pair.1 pair.2 instant]

/-- The transaction of a poll that is handling a pair: its opening, and plain changes. -/
structure Storing
    (exclusive : Prop)
    (pair : Nat × String)
    (known : Knowing) : Prop where
  handles : handledMessage known.ghost = some pair
  writes : ∃ opening plains, known.writes = opening ++ plains ∧
    Opening exclusive pair known.base opening ∧ ∀ change ∈ plains, change.Plain

section Storing

variable {exclusive : Prop} {pair : Nat × String} {known : Knowing} {store result : Database}

theorem Opening.others
    {base : Database}
    {observed : Observed}
    {opening plains : List Change}
    (opens : Opening exclusive pair base opening)
    (handles : handledMessage observed = some pair)
    (relied : (coupling exclusive).rely observed (opening ++ plains) base store) :
    Opening exclusive pair store opening := by
  cases opens with
  | nothing => exact .nothing
  | retained identity pending unattached =>
      refine .retained identity pending fun holds attached => unattached holds ?_
      exact (relied.2 holds pair handles).1 attached
  | @attached row identity clear =>
      refine .attached identity fun holds unresolved => clear holds ?_
      exact (relied.2 holds pair handles).2 ⟨row, List.mem_cons_self, identity⟩ unresolved
  | resolved instant inbound identity => exact .resolved instant inbound identity

theorem Storing.others
    (storing : Storing exclusive pair known)
    (relied : (coupling exclusive).rely known.ghost known.writes known.base store) :
    Storing exclusive pair { known with base := store } := by
  obtain ⟨handles, opening, plains, writes, opens, plain⟩ := storing
  rw [writes] at relied
  exact ⟨handles, opening, plains, writes, opens.others handles relied, plain⟩

theorem Storing.extend
    {changes : List Change}
    (storing : Storing exclusive pair known)
    (plain : ∀ change ∈ changes, change.Plain) :
    Storing exclusive pair (known.extend known.base changes) := by
  obtain ⟨handles, opening, plains, writes, opens, others⟩ := storing
  refine ⟨handles, opening, plains ++ changes, ?_, opens, ?_⟩
  · simp only [Knowledge.extend, writes, List.append_assoc]
  · exact fun change member =>
      (List.mem_append.mp member).elim (others change) (plain change)

theorem justified_of_same
    {before after : Database}
    (justified : Justified before)
    (same : after.unmatched = before.unmatched)
    (attached : ∀ pair, Attached before pair → Attached after pair) :
    Justified after := by
  intro key row found set
  rw [same] at found
  exact attached _ (justified key row found set)

/-- Plain changes do not matter. -/
theorem guarantee_of_plain
    {before after : Database}
    {plains : List Change}
    (plain : ∀ change ∈ plains, change.Plain)
    (applied : applyAll Change.apply before plains = some after) :
    after.unmatched = before.unmatched ∧
      ∀ pair, Attached after pair ↔ Attached before pair := by
  have mail : ∀ change ∈ plains, ¬change.Approves :=
    fun change member => (plain change member).not_approves
  refine ⟨applyAll_unmatched (fun change member => (plain change member).aside.not_retains)
    applied, fun pair => ⟨fun attached => ?_, fun attached => ?_⟩⟩
  · rcases attached_of_applyAll mail applied attached with there | ⟨row, member, identity⟩
    · exact there
    · have unbound : row.mailboxId = none := plain _ member
      rw [(mailboxIdentity_eq_some.mp identity).1] at unbound
      cases unbound
  · exact attached.of_messages (tracks_mail.extends_table mail applied)

/-- A pair is unresolved if a row has it. -/
theorem unresolved_congr
    {before after : Database}
    (same : after.unmatched = before.unmatched) :
    Unresolved after pair ↔ Unresolved before pair := by
  unfold Unresolved
  rw [same]

/-- The resolution of a pair leaves no unresolved copy: a pair has only one. -/
theorem not_unresolved_of_resolveRetained
    {before after : Database}
    {instant : Instant}
    (unique : before.unmatched.UniqueBy UnmatchedInboundMessage.mailboxIdentity)
    (applied : (Change.resolveRetained pair.1 pair.2 instant).apply before = some after) :
    ¬Unresolved after pair := by
  rintro ⟨key, row, found, identity, pending⟩
  obtain rfl := Option.some.inj applied
  have matching : ∀ other : UnmatchedInboundMessage, other.mailboxIdentity = some pair →
      other.resolvedAt = none →
      (other.mailboxId == pair.1 && other.messageIdHeader == pair.2 &&
        other.resolvedAt.isNone) = true := by
    intro other same unset
    obtain ⟨mailbox, header⟩ := Prod.mk.inj (Option.some.inj same)
    simp [mailbox, header, unset]
  cases first : unresolvedRetained before pair.1 pair.2 with
  | none =>
      rw [first] at found
      have fails := Table.firstWhere_eq_none.mp first key row found
      rw [matching row identity pending] at fails
      cases fails
  | some chosen =>
      rw [first] at found
      obtain ⟨old, stored, rfl⟩ := Table.get_modify_cases found
      obtain ⟨kept, foundKept, met⟩ := Table.firstWhere_eq_some first
      simp only [Bool.and_eq_true, beq_iff_eq] at met
      by_cases here : key = chosen
      · rw [if_pos here] at pending
        cases pending
      · rw [if_neg here] at identity
        refine here (unique key chosen old kept pair stored foundKept identity ?_)
        rw [UnmatchedInboundMessage.mailboxIdentity, met.1.1, met.1.2]

theorem justified_of_resolveRetained
    {before after : Database}
    {instant : Instant}
    (justified : Justified before)
    (attached : Attached before pair)
    (applied : (Change.resolveRetained pair.1 pair.2 instant).apply before = some after) :
    Justified after := by
  obtain rfl := Option.some.inj applied
  cases first : unresolvedRetained before pair.1 pair.2 with
  | none => exact justified
  | some chosen =>
      intro key row found set
      obtain ⟨old, stored, rfl⟩ := Table.get_modify_cases found
      by_cases here : key = chosen
      · obtain ⟨kept, foundKept, met⟩ := Table.firstWhere_eq_some first
        subst here
        obtain rfl : old = kept := Option.some.inj (stored.symm.trans foundKept)
        simp only [Bool.and_eq_true, beq_iff_eq] at met
        rw [if_pos rfl]
        rw [show (old.mailboxId, old.messageIdHeader) = pair from
          Prod.ext met.1.1 met.1.2]
        exact attached
      · rw [if_neg here] at set ⊢
        exact justified key old stored set

/-- The opening of a transaction gives the guarantee. -/
theorem Opening.guarantee
    {opening : List Change}
    (opens : Opening exclusive pair store opening)
    (wellFormed : store.WellFormed)
    (applied : applyAll Change.apply store opening = some result) :
    (coupling exclusive).guarantee store result := by
  cases opens with
  | nothing =>
      obtain rfl := Option.some.inj applied
      exact ⟨id, fun _ => id⟩
  | @retained row identity pending unattached =>
      have origin : ∀ other, Unresolved result other →
          Unresolved store other ∨ other = pair := by
        intro other unresolved
        rcases unresolved_of_applyAll applied unresolved with earlier | ⟨_, member, same⟩
        · exact .inl earlier
        · obtain ⟨⟩ := List.mem_singleton.mp member
          exact .inr (Option.some.inj (same.symm.trans identity))
      obtain ⟨middle, first, rest⟩ := Option.bind_eq_some_iff.mp applied
      obtain rfl := Option.some.inj rest
      obtain ⟨-, -, rfl⟩ := Database.insertUnmatched_eq_some first
      refine ⟨fun justified key other found set => ?_, fun holds separate other attached => ?_⟩
      · rcases Table.get_insert_cases found with old | ⟨-, rfl⟩
        · exact justified key other old set
        · exact absurd pending set
      · intro unresolved
        rcases origin other unresolved with earlier | rfl
        · exact separate other attached earlier
        · exact unattached holds attached
  | @attached row identity clear =>
      have mail : ∀ change ∈ [Change.insertMessage row], ¬change.Approves := by
        intro change member
        rw [List.mem_singleton.mp member]
        exact id
      have same : result.unmatched = store.unmatched := by
        refine applyAll_unmatched ?_ applied
        intro change member
        rw [List.mem_singleton.mp member]
        exact id
      refine ⟨fun justified => justified_of_same justified same fun _ there =>
        there.of_messages (tracks_mail.extends_table mail applied), ?_⟩
      intro holds separate other attached unresolved
      rw [unresolved_congr same] at unresolved
      rcases attached_of_applyAll mail applied attached with earlier | ⟨_, member, same⟩
      · exact separate other earlier unresolved
      · obtain ⟨⟩ := List.mem_singleton.mp member
        obtain rfl := Option.some.inj (identity.symm.trans same)
        exact clear holds unresolved
  | @resolved row instant inbound identity =>
      obtain ⟨middle, first, rest⟩ := Option.bind_eq_some_iff.mp applied
      obtain ⟨last, second, rest⟩ := Option.bind_eq_some_iff.mp rest
      obtain rfl := Option.some.inj rest
      have same : middle.unmatched = store.unmatched := Change.unmatched_eq first id
      have messages : last.messages = middle.messages := by
        obtain rfl := Option.some.inj second
        cases unresolvedRetained middle pair.1 pair.2 <;> rfl
      have inserted : applyAll Change.apply store [.insertMessage row] = some middle := by
        simp [applyAll, first]
      have mail : ∀ change ∈ [Change.insertMessage row], ¬change.Approves := by
        intro change member
        rw [List.mem_singleton.mp member]
        exact id
      have here : Attached middle pair := by
        obtain ⟨-, rfl⟩ := Database.insertMessage_eq_some first
        exact ⟨_, row, Table.get_insert_size _ row, inbound, identity⟩
      refine ⟨fun justified => ?_, fun holds separate other attached unresolved => ?_⟩
      · refine justified_of_resolveRetained (justified_of_same justified same fun _ there =>
          there.of_messages (tracks_mail.extends_table mail inserted)) here second
      · by_cases handled : other = pair
        · subst handled
          refine not_unresolved_of_resolveRetained ?_ second unresolved
          rw [same]
          exact wellFormed.unmatchedIdentity
        · have stored : Attached middle other := by
            unfold Attached at attached ⊢
            rw [← messages]
            exact attached
          rcases attached_of_applyAll mail inserted stored with earlier | ⟨_, member, same⟩
          · rcases unresolved_of_applyAll applied unresolved with there | ⟨_, member, -⟩
            · exact separate other earlier there
            · simp at member
          · obtain ⟨⟩ := List.mem_singleton.mp member
            exact handled (Option.some.inj (same.symm.trans identity))

/-- The commit of a transaction gives the guarantee. -/
theorem Storing.guarantee
    (storing : Storing exclusive pair known)
    (relied : (coupling exclusive).rely known.ghost known.writes known.base store)
    (applied : applyAll Change.apply store known.writes = some result) :
    (coupling exclusive).guarantee store result := by
  obtain ⟨handles, opening, plains, writes, opens, plain⟩ := storing.others relied
  have writes : known.writes = opening ++ plains := writes
  rw [writes, applyAll_append] at applied
  obtain ⟨middle, first, rest⟩ := Option.bind_eq_some_iff.mp applied
  obtain ⟨justified, separate⟩ :=
    opens.guarantee relied.1.consistent.toWellFormed first
  obtain ⟨same, attached⟩ := guarantee_of_plain plain rest
  refine ⟨fun holds => justified_of_same (justified holds) same fun pair =>
    (attached pair).mpr, fun holds earlier other there => ?_⟩
  rw [unresolved_congr same]
  exact separate holds earlier other ((attached other).mp there)

end Storing

end MailerAgent
