import MailerAgent.Native.Alone
import MailerAgent.Native.Reasoning

/-!
# The standing of contacts

The standing of a contact is its status and its next action. A `Law` demands something
of every contact's standing; `Law.ClosedAt` lists the moves that the programs make of
a contact, and says that each of them keeps the law. Then every native operation that
runs alone keeps it. What an operation does with a reply depends on its classification,
so a law also says which classifications are considered.
-/

namespace MailerAgent
namespace Native

open Concurrent Relational Mail Program

/-! ## Contacts after changes -/

/-- What a change does to the contacts. -/
def Change.onContacts (contacts : Table Contact) : Change → Table Contact
  | insertContact row => contacts.insert row
  | updateContact key patch => contacts.modify key patch.apply
  | _ => contacts

theorem Change.apply_contacts
    {database updated : Database}
    {change : Change}
    (applied : change.apply database = some updated) :
    updated.contacts = change.onContacts database.contacts := by
  cases change with
  | insertCampaign row =>
      obtain ⟨-, rfl⟩ := Database.insertCampaign_eq_some applied
      rfl
  | insertContact row =>
      obtain ⟨-, -, rfl⟩ := Database.insertContact_eq_some applied
      rfl
  | insertMessage row =>
      obtain ⟨-, rfl⟩ := Database.insertMessage_eq_some applied
      rfl
  | insertSuppression row =>
      obtain ⟨-, rfl⟩ := Database.insertSuppression_eq_some applied
      rfl
  | insertMailbox row =>
      obtain ⟨-, -, rfl⟩ := Database.insertMailbox_eq_some applied
      rfl
  | insertUnmatched row =>
      obtain ⟨-, -, rfl⟩ := Database.insertUnmatched_eq_some applied
      rfl
  | updateContact key patch =>
      cases applied
      rfl
  | recordSend key record =>
      change database.updateMessage key record.apply = some updated at applied
      unfold Database.updateMessage at applied
      split at applied
      · cases applied
        rfl
      · split at applied
        · cases applied
        · cases applied
          rfl
  | interpretMessage contactId reference interpretation =>
      cases applied
      cases messageByReference database contactId reference with
      | none => rfl
      | some key => rfl
  | updateMailbox key patch =>
      cases applied
      rfl
  | resolveRetained mailboxId identity resolvedAt =>
      cases applied
      cases unresolvedRetained database mailboxId identity with
      | none => rfl
      | some key => rfl

theorem applyAll_contacts
    {database updated : Database}
    {changes : List Change}
    (applied : applyAll Change.apply database changes = some updated) :
    updated.contacts = changes.foldl Change.onContacts database.contacts := by
  induction changes generalizing database with
  | nil =>
      cases applied
      rfl
  | cons change rest inductionHypothesis =>
      obtain ⟨middle, first, second⟩ := Option.bind_eq_some_iff.mp applied
      rw [inductionHypothesis second, Change.apply_contacts first]
      rfl

/-- Two contacts with the same status and next action, in one campaign. -/
structure SameStanding (first second : Contact) : Prop where
  status : second.status = first.status
  nextActionAt : second.nextActionAt = first.nextActionAt
  campaignId : second.campaignId = first.campaignId

theorem SameStanding.refl (contact : Contact) : SameStanding contact contact :=
  ⟨rfl, rfl, rfl⟩

theorem SameStanding.symm
    {first second : Contact}
    (same : SameStanding first second) :
    SameStanding second first :=
  ⟨same.status.symm, same.nextActionAt.symm, same.campaignId.symm⟩

theorem SameStanding.trans
    {first second third : Contact}
    (left : SameStanding first second)
    (right : SameStanding second third) :
    SameStanding first third where
  status := right.status.trans left.status
  nextActionAt := right.nextActionAt.trans left.nextActionAt
  campaignId := right.campaignId.trans left.campaignId

/-- A patch that leaves the standing alone. -/
structure ContactPatch.Neutral (patch : ContactPatch) : Prop where
  status : patch.status = none
  nextActionAt : patch.nextActionAt = none

theorem ContactPatch.Neutral.same
    {patch : ContactPatch}
    (neutral : patch.Neutral)
    (contact : Contact) :
    SameStanding contact (patch.apply contact) where
  status := by
    change patch.status.getD contact.status = contact.status
    rw [neutral.status]
    rfl
  nextActionAt := by
    change patch.nextActionAt.getD contact.nextActionAt = contact.nextActionAt
    rw [neutral.nextActionAt]
    rfl
  campaignId := rfl

/-- A change that leaves the standing of every contact alone. -/
def Change.Neutral : Change → Prop
  | insertContact _ => False
  | updateContact _ patch => patch.Neutral
  | _ => True

theorem SameStanding.apply
    {first second : Contact}
    (same : SameStanding first second)
    (patch : ContactPatch) :
    SameStanding (patch.apply first) (patch.apply second) :=
  ⟨congrArg patch.status.getD same.status, congrArg patch.nextActionAt.getD same.nextActionAt,
    same.campaignId⟩

theorem SameStanding.inSession
    {first second : Contact}
    (same : SameStanding first second)
    (changes : List Change)
    (key : Nat) :
    SameStanding (inSession changes key first) (inSession changes key second) := by
  induction changes generalizing first second with
  | nil => exact same
  | cons change rest inductionHypothesis =>
      cases change with
      | updateContact other patch =>
          refine inductionHypothesis ?_
          dsimp only
          split
          · exact same.apply patch
          · exact same
      | _ => exact inductionHypothesis same

theorem Change.Neutral.inSession
    {change : Change}
    (neutral : change.Neutral)
    (key : Nat)
    (contact : Contact) :
    SameStanding contact (inSession [change] key contact) := by
  cases change with
  | updateContact other patch =>
      change SameStanding contact (if other = key then patch.apply contact else contact)
      split
      · exact ContactPatch.Neutral.same neutral contact
      · exact .refl contact
  | _ => exact .refl contact

/-- Neutral changes of a contact. -/
theorem inSession_of_neutral
    {changes : List Change}
    {key : Nat}
    (neutral : ∀ patch, .updateContact key patch ∈ changes → patch.Neutral)
    (contact : Contact) :
    SameStanding contact (inSession changes key contact) := by
  induction changes generalizing contact with
  | nil => exact .refl contact
  | cons change rest inductionHypothesis =>
      have later : ∀ patch, .updateContact key patch ∈ rest → patch.Neutral :=
        fun patch member => neutral patch (List.mem_cons_of_mem _ member)
      cases change with
      | updateContact other patch =>
          change SameStanding contact
            (inSession rest key (if other = key then patch.apply contact else contact))
          split
          · next here =>
              subst here
              exact ((neutral patch List.mem_cons_self).same contact).trans
                (inductionHypothesis later _)
          · exact inductionHypothesis later contact
      | _ => exact inductionHypothesis later contact

/-- What changes make of the contacts that were there, and which they add. -/
structure Carries
    (changes : List Change)
    (before after : Table Contact) : Prop where
  size : before.size ≤ after.size
  old : ∀ key, key < before.size →
    after.get key = (before.get key).map (inSession changes key)
  new : ∀ key contact, before.size ≤ key → after.get key = some contact →
    ∃ row, .insertContact row ∈ changes ∧ SameStanding row contact

theorem carries_foldl
    {changes : List Change}
    {contacts : Table Contact}
    (known : ∀ key patch, .updateContact key patch ∈ changes →
      key < contacts.size ∨ patch.Neutral) :
    Carries changes contacts (changes.foldl Change.onContacts contacts) := by
  induction changes generalizing contacts with
  | nil =>
      refine ⟨Nat.le_refl _, fun key _ => ?_, fun key contact beyond found => ?_⟩
      · exact Option.map_id'.symm
      · rw [List.foldl_nil, contacts.get_eq_none_of_size_le beyond] at found
        cases found
  | cons change rest inductionHypothesis =>
      have later : ∀ key patch, .updateContact key patch ∈ rest →
          key < contacts.size ∨ patch.Neutral :=
        fun key patch member => known key patch (List.mem_cons_of_mem _ member)
      cases change with
      | insertContact row =>
          have rest := @inductionHypothesis (contacts.insert row)
            fun key patch member => by
              rw [Table.size_insert]
              exact (later key patch member).imp_left Nat.lt_succ_of_lt
          refine ⟨?_, ?_, ?_⟩
          · refine Nat.le_trans ?_ rest.size
            rw [Table.size_insert]
            exact Nat.le_succ _
          · intro key inside
            have found := rest.old key (by rw [Table.size_insert]; exact Nat.lt_succ_of_lt inside)
            rw [Table.get_insert, if_neg (Nat.ne_of_lt inside)] at found
            exact found
          · intro key contact beyond found
            by_cases here : key = contacts.size
            · subst here
              have stored := rest.old contacts.size
                (by rw [Table.size_insert]; exact Nat.lt_succ_self _)
              rw [Table.get_insert_size] at stored
              cases stored.symm.trans found
              refine ⟨row, List.mem_cons_self, inSession_of_neutral (fun patch member => ?_) row⟩
              exact (later _ patch member).resolve_left (Nat.lt_irrefl _)
            · obtain ⟨added, member, same⟩ := rest.new key contact (by
                rw [Table.size_insert]
                exact Nat.succ_le_of_lt (Nat.lt_of_le_of_ne beyond (Ne.symm here))) found
              exact ⟨added, List.mem_cons_of_mem _ member, same⟩
      | updateContact other patch =>
          have rest := @inductionHypothesis (contacts.modify other patch.apply)
            fun key patch member => by
              rw [Table.size_modify]
              exact later key patch member
          refine ⟨?_, ?_, ?_⟩
          · have grown := rest.size
            rw [Table.size_modify] at grown
            exact grown
          · intro key inside
            have found := rest.old key (by rw [Table.size_modify]; exact inside)
            rw [Table.get_modify] at found
            rw [List.foldl_cons]
            refine found.trans ?_
            by_cases here : key = other
            · subst here
              rw [if_pos rfl, Option.map_map]
              refine congrArg (fun f => (contacts.get key).map f) (funext fun row => ?_)
              exact (congrArg (inSession _ key) (if_pos rfl).symm)
            · rw [if_neg here]
              refine congrArg (fun f => (contacts.get key).map f) (funext fun row => ?_)
              exact (congrArg (inSession _ key) (if_neg (Ne.symm here)).symm)
          · intro key contact beyond found
            obtain ⟨row, member, same⟩ := rest.new key contact (by
              rw [Table.size_modify]
              exact beyond) found
            exact ⟨row, List.mem_cons_of_mem _ member, same⟩
      | _ =>
          have rest := inductionHypothesis later
          refine ⟨rest.size, rest.old, fun key contact beyond found => ?_⟩
          obtain ⟨row, member, same⟩ := rest.new key contact beyond found
          exact ⟨row, List.mem_cons_of_mem _ member, same⟩

/-! ## Laws -/

/-- A demand on the standing of contacts, and the classifications and drafts that are
considered. New contacts get keys from `bound` on; `pins` are objects that a session has
loaded and works on later. -/
structure Law where
  bound : Nat
  holds : Nat → ContactStatus → Option Instant → Prop
  admits : Nat → Contact → ClassificationResult → Prop
  silent : ClassificationResult → Prop
  pins : Nat → Contact → Prop := fun _ _ => False

namespace Law

variable (law : Law)

/-- The demand on a contact. -/
def row
    (key : Nat)
    (contact : Contact) : Prop :=
  law.holds key contact.status contact.nextActionAt

/-- The law with other objects that are worked on later. -/
def pin (pins : Nat → Contact → Prop) : Law :=
  { law with pins := pins }

/-- All stored contacts comply. -/
def Stored (database : Database) : Prop :=
  database.WellFormed ∧ law.bound ≤ database.contacts.size ∧
    ∀ key contact, database.contacts.get key = some contact → law.row key contact

/-- The status after an event, if there is an edge for it. -/
def moved
    (status : ContactStatus)
    (event : StateTransitionEvent) : ContactStatus :=
  (stateTransition status event).getD status

/-- The law allows new contacts. -/
def Open : Prop :=
  ∀ key, law.bound ≤ key → law.holds key .new none

/-- No object of a contact is worked on later. -/
def Free (key : Nat) : Prop :=
  ∀ contact, ¬law.pins key contact

/-- The law allows what a continuing reply makes of a contact after its transition: another
next action, and a human who has to write the draft. -/
def Continues
    (key : Nat)
    (status : ContactStatus)
    (next : Option Instant)
    (classified : ClassificationResult)
    (intent : SemanticIntent) : Prop :=
  ∀ now campaign, match rescheduleAfterReply now campaign intent with
    | .ok date =>
        law.holds key status date ∧
          (law.silent classified → law.holds key (moved status .needsHuman) date)
    | .error _ => law.holds key status next

/-- The law allows the moves that programs make of a contact. -/
structure Closed : Prop where
  clears : ∀ key status next, law.holds key status next → law.holds key status none
  /-- A transition of a contact for which nothing is scheduled. -/
  leaves : ∀ key status event, law.holds key status none →
    law.holds key (moved status event) none
  /-- A suppressed contact that initial outreach skips. -/
  skips : ∀ key status next, law.holds key status next →
    law.holds key (moved status .unsubscribed) next
  resumes : ∀ key status next after, law.holds key status next →
    stateTransition status .manualResume = some after → law.holds key after next
  starts : ∀ key next date, law.holds key .new next → law.holds key .new date
  sends : ∀ key next date, law.holds key .new next → law.holds key .active date
  follows : ∀ key next date, law.holds key .active next → law.holds key .active date
  /-- A classification without an intent. -/
  missing : ∀ key contact classified, law.admits key contact classified →
    classified.success = true → classified.semanticIntent = none → law.row key contact →
    law.holds key (moved contact.status .needsHuman) contact.nextActionAt
  /-- A reply that continues the conversation. -/
  converses : ∀ key contact classified intent, law.admits key contact classified →
    classified.success = true → classified.semanticIntent = some intent →
    .unsubscribe ∉ intent.intents → .notInterested ∉ intent.intents →
    .outOfOffice ∉ intent.intents → law.row key contact →
    law.Continues key (moved contact.status (inferEventFromSemanticIntent intent))
      contact.nextActionAt classified intent

theorem Closed.pin
    {law : Law}
    (closed : law.Closed)
    (pins : Nat → Contact → Prop) :
    (law.pin pins).Closed where
  clears := closed.clears
  leaves := closed.leaves
  skips := closed.skips
  resumes := closed.resumes
  starts := closed.starts
  sends := closed.sends
  follows := closed.follows
  missing := closed.missing
  converses := closed.converses

theorem row_congr
    {law : Law}
    {key : Nat}
    {first second : Contact}
    (same : SameStanding first second)
    (holds : law.row key first) :
    law.row key second := by
  unfold row at holds ⊢
  rw [same.status, same.nextActionAt]
  exact holds

end Law

/-- The classification that was heard last. -/
abbrev Heard := Option ClassificationResult

/-- The answers that a law considers. -/
def Law.hears
    (law : Law)
    (desk : Desk Database Heard) : (signal : Signal) → signal.Reply → Prop
  | .classify key _ _, .ok classified => ∀ view contact, desk.view = some view →
      view.contacts.get key = some contact → law.admits key contact classified
  | .draftMessage _ .reply, .contextualFallbackUnavailable =>
      ∀ classified, desk.ghost = some classified → law.silent classified
  | .draftMessage _ .closing, .contextualFallbackUnavailable =>
      ∀ classified, desk.ghost = some classified → law.silent classified
  | _, _ => True

/-- The record of the classification. -/
def noteHeard (desk : Desk Database Heard) : (signal : Signal) → signal.Reply → Heard
  | .classify _ _ _, .ok classified => some classified
  | _, _ => desk.ghost

/-- The rules of a law. -/
def Law.rules (law : Law) : Rules Heard where
  hears := law.hears
  note := noteHeard
  kept _ database := law.Stored database

/-! ## Sessions -/

/-- A loaded object has the standing that the session would store. -/
def Current
    (key : Nat)
    (contact : Contact) : Assertion Heard := fun pending desk =>
  ∀ view, desk.view = some view → ∃ stored, view.contacts.get key = some stored ∧
    SameStanding contact (inSession pending key stored)

/-- All contacts comply, as the session would store them; one may be in the middle of a
change. -/
structure Editing
    (law : Law)
    (except : Option Nat)
    (pending : List Change)
    (desk : Desk Database Heard) : Prop where
  store : law.Stored desk.store
  wellFormed : ∀ view, desk.view = some view → view.WellFormed
  size : ∀ view, desk.view = some view → law.bound ≤ view.contacts.size
  known : ∀ view key patch, desk.view = some view → .updateContact key patch ∈ pending →
    key < view.contacts.size ∨ patch.Neutral
  fresh : ∀ contact, .insertContact contact ∈ pending →
    contact.status = .new ∧ contact.nextActionAt = none ∧ law.Open
  rows : ∀ view key contact, desk.view = some view → view.contacts.get key = some contact →
    except ≠ some key → law.row key (inSession pending key contact)
  pinned : ∀ key contact, law.pins key contact → except ≠ some key →
    Current key contact pending desk
  kept : ∀ key contact, law.pins key contact →
    ∃ stored, desk.store.contacts.get key = some stored ∧ SameStanding contact stored

/-- All contacts comply. -/
abbrev Orderly (law : Law) : Assertion Heard := Editing law none

/-- All contacts comply, and a loaded object is current. -/
structure Held
    (law : Law)
    (key : Nat)
    (contact : Contact)
    (pending : List Change)
    (desk : Desk Database Heard) : Prop where
  orderly : Orderly law pending desk
  current : Current key contact pending desk

/-- A contact in the middle of a change, with what is known unless the transaction is
lost. -/
structure Focus
    (law : Law)
    (key : Nat)
    (contact : Contact)
    (fact : Prop)
    (pending : List Change)
    (desk : Desk Database Heard) : Prop where
  editing : Editing law (some key) pending desk
  current : Current key contact pending desk
  fact : desk.view ≠ none → fact

section Sessions

variable {law : Law} {except : Option Nat} {key : Nat} {contact : Contact} {fact : Prop}
variable {pending : List Change} {desk : Desk Database Heard}

theorem Current.abort : Current key contact pending desk.abort :=
  fun _ seen => absurd seen.symm (Option.some_ne_none _)

theorem Editing.abort
    (editing : Editing law except pending desk)
    (other : Option Nat) :
    Editing law other pending desk.abort where
  store := editing.store
  wellFormed _ seen := absurd seen.symm (Option.some_ne_none _)
  size _ seen := absurd seen.symm (Option.some_ne_none _)
  known _ _ _ seen := absurd seen.symm (Option.some_ne_none _)
  fresh := editing.fresh
  rows _ _ _ seen := absurd seen.symm (Option.some_ne_none _)
  pinned _ _ _ _ := .abort
  kept := editing.kept

/-- The record of the interactions does not matter. -/
theorem Held.heard
    (held : Held law key contact pending desk)
    (ghost : Heard) :
    Held law key contact pending { desk with ghost := ghost } where
  orderly :=
    { store := held.orderly.store
      wellFormed := held.orderly.wellFormed
      size := held.orderly.size
      known := held.orderly.known
      fresh := held.orderly.fresh
      rows := held.orderly.rows
      pinned := held.orderly.pinned
      kept := held.orderly.kept }
  current := held.current

/-! ### Changes of one contact -/

/-- A changed contact complies again. -/
theorem Focus.held
    (focus : Focus law key contact fact pending desk)
    (free : law.Free key)
    (complies : fact → law.row key contact) :
    Held law key contact pending desk where
  orderly :=
    { store := focus.editing.store
      wellFormed := focus.editing.wellFormed
      size := focus.editing.size
      known := focus.editing.known
      fresh := focus.editing.fresh
      rows := by
        intro view other stored seen found _
        by_cases here : other = key
        · subst here
          obtain ⟨row, foundRow, same⟩ := focus.current view seen
          rw [found] at foundRow
          cases foundRow
          have holds := complies (focus.fact (by rw [seen]; exact Option.some_ne_none view))
          exact Law.row_congr same holds
        · exact focus.editing.rows view other stored seen found
            fun same => here (Option.some.inj same).symm
      pinned := by
        intro other pinned member _
        refine focus.editing.pinned other pinned member fun same => ?_
        cases same
        exact free pinned member
      kept := focus.editing.kept }
  current := focus.current

/-- A contact that complies is about to be changed. -/
theorem Held.focus (held : Held law key contact pending desk) :
    Focus law key contact (law.row key contact) pending desk where
  editing :=
    { held.orderly with
      rows := fun view other stored seen found _ =>
        held.orderly.rows view other stored seen found (Option.some_ne_none other).symm
      pinned := fun other pinned member _ =>
        held.orderly.pinned other pinned member (Option.some_ne_none other).symm }
  current := held.current
  fact viewing := by
    obtain ⟨view, seen⟩ := Option.ne_none_iff_exists'.mp viewing
    obtain ⟨stored, found, same⟩ := held.current view seen
    have holds := held.orderly.rows view key stored seen found (Option.some_ne_none key).symm
    exact Law.row_congr same.symm holds

theorem Focus.weaken
    {weaker : Prop}
    (focus : Focus law key contact fact pending desk)
    (implies : fact → weaker) :
    Focus law key contact weaker pending desk :=
  ⟨focus.editing, focus.current, fun viewing => implies (focus.fact viewing)⟩

theorem inSession_updateContact
    (key : Nat)
    (patch : ContactPatch)
    (contact : Contact) :
    inSession [.updateContact key patch] key contact = patch.apply contact :=
  if_pos rfl

theorem inSession_updateContact_of_ne
    {key other : Nat}
    (different : key ≠ other)
    (patch : ContactPatch)
    (contact : Contact) :
    inSession [.updateContact key patch] other contact = contact :=
  if_neg different

/-- A change of the contact is added to the session. -/
theorem Focus.assign
    (focus : Focus law key contact fact pending desk)
    (patch : ContactPatch) :
    Focus law key (patch.apply contact) fact (pending ++ [.updateContact key patch]) desk where
  editing :=
    { store := focus.editing.store
      wellFormed := focus.editing.wellFormed
      size := focus.editing.size
      known := by
        intro view other added seen member
        rcases List.mem_append.mp member with old | new
        · exact focus.editing.known view other added seen old
        · cases List.mem_singleton.mp new
          obtain ⟨stored, found, -⟩ := focus.current view seen
          exact .inl (Table.lt_size_of_get found)
      fresh := by
        intro added member
        rcases List.mem_append.mp member with old | new
        · exact focus.editing.fresh added old
        · cases List.mem_singleton.mp new
      rows := by
        intro view other stored seen found elsewhere
        have different : key ≠ other := fun same => elsewhere (congrArg some same)
        rw [inSession_append, inSession_updateContact_of_ne different]
        exact focus.editing.rows view other stored seen found elsewhere
      pinned := by
        intro other pinned member elsewhere view seen
        have different : key ≠ other := fun same => elsewhere (congrArg some same)
        obtain ⟨stored, found, same⟩ :=
          focus.editing.pinned other pinned member elsewhere view seen
        refine ⟨stored, found, ?_⟩
        rw [inSession_append, inSession_updateContact_of_ne different]
        exact same
      kept := focus.editing.kept }
  current view seen := by
    obtain ⟨stored, found, same⟩ := focus.current view seen
    refine ⟨stored, found, ?_⟩
    rw [inSession_append, inSession_updateContact]
    exact same.apply patch
  fact := focus.fact

/-! ### Statements -/

/-- A flush stores what the session holds. -/
theorem Current.flushed
    (current : Current key contact pending desk)
    {view after : Database}
    (known : ∀ key patch, .updateContact key patch ∈ pending →
      key < view.contacts.size ∨ patch.Neutral)
    (seen : desk.view = some view)
    (applied : applyAll Change.apply view (unitOfWork pending) = some after) :
    Current key contact [] { desk with view := some after } := by
  have carries : Carries (unitOfWork pending) view.contacts after.contacts := by
    rw [applyAll_contacts applied]
    exact carries_foldl fun key patch member => known key patch (mem_unitOfWork.mp member)
  rintro _ ⟨⟩
  obtain ⟨stored, found, same⟩ := current view seen
  refine ⟨inSession pending key stored, ?_, same⟩
  rw [carries.old key (Table.lt_size_of_get found), found, Option.map_some,
    inSession_unitOfWork]

@[inherit_doc Current.flushed]
theorem Editing.flushed
    (orderly : Orderly law pending desk)
    {view after : Database}
    (seen : desk.view = some view)
    (applied : applyAll Change.apply view (unitOfWork pending) = some after) :
    Orderly law [] { desk with view := some after } := by
  have inside : ∀ change ∈ unitOfWork pending, change ∈ pending :=
    fun change member => mem_unitOfWork.mp member
  have carries : Carries (unitOfWork pending) view.contacts after.contacts := by
    rw [applyAll_contacts applied]
    exact carries_foldl fun key patch member =>
      orderly.known view key patch seen (inside _ member)
  have grown := Nat.le_trans (orderly.size view seen) carries.size
  refine ⟨orderly.store, ?_, ?_, fun _ _ _ _ member => (List.not_mem_nil member).elim,
    fun _ member => (List.not_mem_nil member).elim, ?_, ?_, orderly.kept⟩
  · rintro _ ⟨⟩
    exact applyAll_wellFormed (orderly.wellFormed view seen) applied
  · rintro _ ⟨⟩
    exact grown
  · rintro _ key contact ⟨⟩ found _
    by_cases old : key < view.contacts.size
    · rw [carries.old key old] at found
      obtain ⟨stored, foundStored, rfl⟩ := Option.map_eq_some_iff.mp found
      rw [inSession_unitOfWork]
      exact orderly.rows view key stored seen foundStored (Option.some_ne_none key).symm
    · have beyond := Nat.le_of_not_lt old
      obtain ⟨row, member, same⟩ := carries.new key contact beyond found
      obtain ⟨status, unscheduled, opens⟩ := orderly.fresh row (inside _ member)
      refine Law.row_congr same ?_
      change law.holds key row.status row.nextActionAt
      rw [status, unscheduled]
      exact opens key (Nat.le_trans (orderly.size view seen) beyond)
  · intro key contact member elsewhere
    exact (orderly.pinned key contact member elsewhere).flushed
      (fun key patch => orderly.known view key patch seen) seen applied

/-- A statement that changes no standing. -/
structure KeepsStanding (before after : Database) : Prop where
  size : after.contacts.size = before.contacts.size
  rows : ∀ key contact, before.contacts.get key = some contact →
    ∃ stored, after.contacts.get key = some stored ∧ SameStanding contact stored

theorem KeepsStanding.of_same
    {before after : Database}
    (same : after.contacts = before.contacts) :
    KeepsStanding before after where
  size := congrArg Table.size same
  rows key contact found := ⟨contact, by rw [same]; exact found, rfl, rfl, rfl⟩

theorem Change.Neutral.keepsStanding
    {before after : Database}
    {change : Change}
    (neutral : change.Neutral)
    (applied : change.apply before = some after) :
    KeepsStanding before after := by
  have contacts := Change.apply_contacts applied
  cases change with
  | insertContact row => exact neutral.elim
  | updateContact other patch =>
      refine ⟨?_, fun key contact found => ?_⟩
      · rw [contacts]
        exact Table.size_modify _ _ _
      · rw [contacts]
        refine ⟨if key = other then patch.apply contact else contact, ?_, ?_⟩
        · change (before.contacts.modify other patch.apply).get key = _
          rw [Table.get_modify, found]
          split <;> rfl
        · split
          · exact ContactPatch.Neutral.same neutral contact
          · exact .refl contact
  | _ => exact .of_same contacts

theorem KeepsStanding.trans
    {first second third : Database}
    (left : KeepsStanding first second)
    (right : KeepsStanding second third) :
    KeepsStanding first third where
  size := right.size.trans left.size
  rows key contact found := by
    obtain ⟨middle, foundMiddle, same⟩ := left.rows key contact found
    obtain ⟨stored, foundStored, sameStored⟩ := right.rows key middle foundMiddle
    exact ⟨stored, foundStored, same.trans sameStored⟩

theorem keepsStanding_applyAll
    {before after : Database}
    {changes : List Change}
    (neutral : ∀ change ∈ changes, change.Neutral)
    (applied : applyAll Change.apply before changes = some after) :
    KeepsStanding before after := by
  induction changes generalizing before with
  | nil =>
      obtain rfl := Option.some.inj applied
      exact .of_same rfl
  | cons change rest inductionHypothesis =>
      obtain ⟨middle, first, later⟩ := Option.bind_eq_some_iff.mp applied
      exact ((neutral change List.mem_cons_self).keepsStanding first).trans
        (inductionHypothesis (fun other member => neutral other (List.mem_cons_of_mem _ member))
          later)

theorem Current.executed
    (current : Current key contact pending desk)
    {view after : Database}
    (seen : desk.view = some view)
    (keeps : KeepsStanding view after) :
    Current key contact pending { desk with view := some after } := by
  rintro _ ⟨⟩
  obtain ⟨stored, found, same⟩ := current view seen
  obtain ⟨row, foundRow, standing⟩ := keeps.rows key stored found
  exact ⟨row, foundRow, same.trans (standing.inSession pending key)⟩

theorem Editing.executed
    (editing : Editing law except pending desk)
    {view after : Database}
    (seen : desk.view = some view)
    (wellFormed : after.WellFormed)
    (keeps : KeepsStanding view after) :
    Editing law except pending { desk with view := some after } where
  store := editing.store
  wellFormed := by
    rintro _ ⟨⟩
    exact wellFormed
  size := by
    rintro _ ⟨⟩
    rw [keeps.size]
    exact editing.size view seen
  known := by
    rintro _ other patch ⟨⟩ member
    rw [keeps.size]
    exact editing.known view other patch seen member
  fresh := editing.fresh
  rows := by
    rintro _ other stored ⟨⟩ found elsewhere
    obtain ⟨old, foundOld⟩ :=
      Table.exists_get_of_lt_size (keeps.size ▸ Table.lt_size_of_get found)
    obtain ⟨row, foundRow, same⟩ := keeps.rows other old foundOld
    cases foundRow.symm.trans found
    exact Law.row_congr (same.inSession pending other)
      (editing.rows view other old seen foundOld elsewhere)
  pinned other pinned member elsewhere :=
    (editing.pinned other pinned member elsewhere).executed seen keeps
  kept := editing.kept

/-! ### Other changes -/

theorem Current.stage
    (current : Current key contact pending desk)
    {change : Change}
    (neutral : change.Neutral) :
    Current key contact (pending ++ [change]) desk := by
  intro view seen
  obtain ⟨stored, found, same⟩ := current view seen
  refine ⟨stored, found, ?_⟩
  rw [inSession_append]
  exact same.trans (neutral.inSession key _)

/-- A neutral change is added to the session. -/
theorem Editing.stage
    (editing : Editing law except pending desk)
    {change : Change}
    (neutral : change.Neutral) :
    Editing law except (pending ++ [change]) desk where
  store := editing.store
  wellFormed := editing.wellFormed
  size := editing.size
  known view other patch seen member := by
    rcases List.mem_append.mp member with old | new
    · exact editing.known view other patch seen old
    · rw [← List.mem_singleton.mp new] at neutral
      exact .inr neutral
  fresh added member := by
    rcases List.mem_append.mp member with old | new
    · exact editing.fresh added old
    · rw [← List.mem_singleton.mp new] at neutral
      exact neutral.elim
  rows view other stored seen found elsewhere := by
    rw [inSession_append]
    exact Law.row_congr (neutral.inSession other _)
      (editing.rows view other stored seen found elsewhere)
  pinned other pinned member elsewhere :=
    (editing.pinned other pinned member elsewhere).stage neutral
  kept := editing.kept

theorem Held.stage
    (held : Held law key contact pending desk)
    {change : Change}
    (neutral : change.Neutral) :
    Held law key contact (pending ++ [change]) desk :=
  ⟨held.orderly.stage neutral, held.current.stage neutral⟩

/-- A new contact is added to the session. -/
theorem Editing.stageContact
    (editing : Editing law except pending desk)
    {row : Contact}
    (status : row.status = .new)
    (unscheduled : row.nextActionAt = none)
    (opens : law.Open) :
    Editing law except (pending ++ [.insertContact row]) desk where
  store := editing.store
  wellFormed := editing.wellFormed
  size := editing.size
  known view other patch seen member := by
    rcases List.mem_append.mp member with old | new
    · exact editing.known view other patch seen old
    · cases List.mem_singleton.mp new
  fresh added member := by
    rcases List.mem_append.mp member with old | new
    · exact editing.fresh added old
    · cases List.mem_singleton.mp new
      exact ⟨status, unscheduled, opens⟩
  rows view other stored seen found elsewhere := by
    rw [inSession_append]
    exact editing.rows view other stored seen found elsewhere
  pinned other pinned member elsewhere view seen := by
    obtain ⟨stored, found, same⟩ := editing.pinned other pinned member elsewhere view seen
    refine ⟨stored, found, ?_⟩
    rw [inSession_append]
    exact same
  kept := editing.kept

/-! ### Ends of transactions -/

/-- What a session without waiting changes sees may be committed. -/
theorem Editing.committed
    (orderly : Orderly law [] desk)
    {view : Database}
    (seen : desk.view = some view) :
    law.Stored view :=
  ⟨orderly.wellFormed view seen, orderly.size view seen, fun key contact found =>
    orderly.rows view key contact seen found (Option.some_ne_none key).symm⟩

/-- A session without waiting changes over the stored contacts. -/
theorem Law.Stored.orderly
    (stored : law.Stored desk.store)
    (unchanged : ∀ view, desk.view = some view → view = desk.store)
    (kept : ∀ key contact, law.pins key contact →
      ∃ row, desk.store.contacts.get key = some row ∧ SameStanding contact row) :
    Orderly law [] desk where
  store := stored
  wellFormed view seen := by
    rw [unchanged view seen]
    exact stored.1
  size view seen := by
    rw [unchanged view seen]
    exact stored.2.1
  known _ _ _ _ member := (List.not_mem_nil member).elim
  fresh _ member := (List.not_mem_nil member).elim
  rows view other row seen found _ := by
    rw [unchanged view seen] at found
    exact stored.2.2 other row found
  pinned key contact member _ view seen := by
    rw [unchanged view seen]
    exact kept key contact member
  kept := kept

/-- The pinned objects after a commit. -/
theorem Editing.keptByCommit
    (orderly : Orderly law [] desk)
    {view : Database}
    (seen : desk.view = some view)
    (key : Nat)
    (contact : Contact)
    (member : law.pins key contact) :
    ∃ row, view.contacts.get key = some row ∧ SameStanding contact row :=
  orderly.pinned key contact member (Option.some_ne_none key).symm view seen

end Sessions

end Native
end MailerAgent
