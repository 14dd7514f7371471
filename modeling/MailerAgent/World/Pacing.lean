import MailerAgent.Native.Agreement
import MailerAgent.World.Operations
import MailerAgent.World.Timestamps

/-!
# Contacts within their cadence

The cadence of a contact is the list of follow-ups of its campaign. A contact is within it
if no more were sent than the cadence has, and if the next one is scheduled only while one
is left. A follow-up is counted and the next one scheduled in one transaction, so the
operations that count follow-ups agree that every contact is within its cadence, or was
sent as many follow-ups before.
-/

namespace MailerAgent

open Concurrent Relational Mail Native Program

/-! ## Cadences -/

/-- Within a cadence of `limit` follow-ups. -/
structure Within
    (limit : Nat)
    (contact : Contact) : Prop where
  counted : contact.followUpIndex ≤ limit
  scheduled : ActiveAndScheduled contact → contact.followUpIndex < limit

/-- Within the cadence of its campaign. -/
def OnCadence
    (database : Database)
    (contact : Contact) : Prop :=
  ∃ campaign, database.campaignOf contact = some campaign ∧
    Within campaign.followUpDays.length contact

/-- Every contact is within its cadence. -/
def Paced (database : Database) : Prop :=
  ∀ key contact, database.contacts.get key = some contact → OnCadence database contact

section Cadences

variable {before after : Database} {contact : Contact} {key limit : Nat}

theorem campaignOf_of_extends
    {first second : Contact}
    {campaign : Campaign}
    (campaigns : Table.Extends Eq before.campaigns after.campaigns)
    (same : second.campaignId = first.campaignId)
    (found : before.campaignOf first = some campaign) :
    after.campaignOf second = some campaign := by
  obtain ⟨_, kept, rfl⟩ := campaigns _ campaign found
  unfold Database.campaignOf
  rw [same]
  exact kept

theorem OnCadence.of_extends
    (onCadence : OnCadence before contact)
    (campaigns : Table.Extends Eq before.campaigns after.campaigns) :
    OnCadence after contact := by
  obtain ⟨campaign, found, within⟩ := onCadence
  exact ⟨campaign, campaignOf_of_extends campaigns rfl found, within⟩

/-- Nothing was sent to a new contact, and nothing is scheduled. -/
theorem within_of_unscheduled
    (count : contact.followUpIndex = 0)
    (unscheduled : contact.nextActionAt = none) :
    Within limit contact :=
  ⟨by omega, fun active => absurd unscheduled active.2⟩

theorem onCadence_of_within
    (wellFormed : after.WellFormed)
    (found : after.contacts.get key = some contact)
    (within : ∀ limit, Within limit contact) :
    OnCadence after contact := by
  obtain ⟨campaign, stored⟩ :=
    Table.exists_get_of_lt_size (wellFormed.contactCampaign key contact found)
  exact ⟨campaign, stored, within _⟩

/-- All that the columns say that a cadence is about. -/
theorem Within.of_same
    {current : Contact}
    (within : Within limit contact)
    (count : current.followUpIndex = contact.followUpIndex)
    (scheduled : ActiveAndScheduled current → ActiveAndScheduled contact) :
    Within limit current :=
  ⟨count ▸ within.counted, fun active => count ▸ within.scheduled (scheduled active)⟩

end Cadences

/-! ## Changes -/

namespace Native

/-- The changes that neither create a contact nor count a follow-up. -/
def Change.Uncounted : Change → Prop
  | insertContact _ => False
  | updateContact _ patch => patch.followUpIndex = none
  | _ => True

/-- The changes that moreover schedule nothing. -/
def Change.Calm : Change → Prop
  | insertContact _ => False
  | updateContact _ patch =>
      patch.followUpIndex = none ∧ patch.status ≠ some .active ∧
        ∀ instant, patch.nextActionAt ≠ some (some instant)
  | _ => True

end Native

section Changes

variable {before after : Database} {changes : List Change} {key limit : Nat}

theorem tracks_counts :
    Tracks Change.apply Change.Uncounted Database.contacts Change.insertedContact
      (fun before after => after.followUpIndex = before.followUpIndex) where
  refl _ := rfl
  trans _ _ _ first second := second.trans first
  effect := by
    intro store result change uncounted applied
    have contacts := Change.apply_contacts applied
    cases change with
    | insertContact row => exact uncounted.elim
    | updateContact key patch =>
        rw [contacts]
        refine .modified key patch.apply fun row _ => ?_
        change patch.followUpIndex.getD row.followUpIndex = row.followUpIndex
        rw [show patch.followUpIndex = none from uncounted]
        rfl
    | _ =>
        rw [contacts]
        exact .kept

theorem tracks_enrolled :
    Tracks Change.apply Change.Enrolls Database.contacts Change.insertedContact Eq where
  refl _ := rfl
  trans _ _ _ := Eq.trans
  effect := by
    intro store result change enrolls applied
    have contacts := Change.apply_contacts applied
    cases change with
    | insertContact row =>
        rw [contacts]
        exact .inserted row
    | _ => exact enrolls.elim

/-- What changes make of a contact that is stored. -/
theorem get_foldl_onContacts
    {contacts : Table Contact}
    {contact : Contact}
    (found : contacts.get key = some contact) :
    (changes.foldl Change.onContacts contacts).get key =
      some (inSession changes key contact) := by
  induction changes generalizing contacts contact with
  | nil => exact found
  | cons change rest inductionHypothesis =>
      cases change with
      | insertContact row => exact inductionHypothesis (Table.get_insert_of_get found row)
      | updateContact other patch =>
          refine inductionHypothesis ?_
          change (contacts.modify other patch.apply).get key = _
          rw [Table.get_modify, found]
          by_cases here : other = key
          · subst here
            simp
          · simp [here, Ne.symm here]
      | _ => exact inductionHypothesis found

theorem contact_of_applyAll
    {contact : Contact}
    (applied : applyAll Change.apply before changes = some after)
    (found : before.contacts.get key = some contact) :
    after.contacts.get key = some (inSession changes key contact) := by
  rw [applyAll_contacts applied]
  exact get_foldl_onContacts found

end Changes

/-! ## Careful transactions -/

/-- The limit is that of the campaign of the contact under a key, if there is one. -/
def LimitOf
    (database : Database)
    (key limit : Nat) : Prop :=
  ∀ contact campaign, database.contacts.get key = some contact →
    database.campaignOf contact = some campaign → campaign.followUpDays.length = limit

/-- The changes keep every contact within its cadence, whatever else it is by then. -/
structure Careful
    (base : Database)
    (changes : List Change) : Prop where
  nobody : ∀ row, .insertContact row ∉ changes
  keeps : ∀ key limit, LimitOf base key limit → ∀ contact, Within limit contact →
    Within limit (inSession changes key contact)

/-- How the database may change while follow-ups are sent. -/
structure Follows (before after : Database) : Prop where
  later : Later before after
  campaigns : Table.Extends Eq before.campaigns after.campaigns
  paced : Paced after

/-- Every contact is within its cadence, or was sent as many follow-ups before. -/
def Accounted (before after : Database) : Prop :=
  ∀ key contact, after.contacts.get key = some contact →
    OnCadence after contact ∨
      ∃ old, before.contacts.get key = some old ∧
        contact.followUpIndex = old.followUpIndex

/-- The agreement of the operations that count follow-ups. -/
def pacing : Agreement Database Change Signal Signal.Reply Observed where
  apply := Change.apply
  rely _ _ := Follows
  guarantee before after := Paced before → Accounted before after
  note := observe

section Careful

variable {base store result : Database} {first second changes : List Change}
variable {key limit : Nat} {contact : Contact}

theorem Follows.refl_right (follows : Follows base store) : Follows store store :=
  ⟨follows.later.refl_right, .refl (fun _ => rfl) _, follows.paced⟩

theorem Follows.trans
    (left : Follows base store)
    (right : Follows store result) :
    Follows base result :=
  ⟨left.later.trans right.later, left.campaigns.trans (fun _ _ _ => Eq.trans)
    right.campaigns, right.paced⟩

theorem pacing_lawful : pacing.Lawful where
  refl relied _ _ := relied.refl_right
  trans := Follows.trans

theorem LimitOf.of_follows
    (limits : LimitOf store key limit)
    (follows : Follows base store) :
    LimitOf base key limit := by
  intro contact campaign found stored
  obtain ⟨kept, foundKept, same⟩ := follows.later.extended.contacts key contact found
  exact limits kept campaign foundKept (campaignOf_of_extends follows.campaigns same.1 stored)

theorem Careful.follows
    (careful : Careful base changes)
    (follows : Follows base store) :
    Careful store changes :=
  ⟨careful.nobody, fun key limit limits =>
    careful.keeps key limit (limits.of_follows follows)⟩

theorem careful_nil : Careful base [] :=
  ⟨fun _ => List.not_mem_nil, fun _ _ _ _ => id⟩

theorem Careful.append
    (left : Careful base first)
    (right : Careful base second) :
    Careful base (first ++ second) := by
  refine ⟨fun row member => ?_, fun key limit limits contact within => ?_⟩
  · exact (List.mem_append.mp member).elim (left.nobody row) (right.nobody row)
  · rw [inSession_append]
    exact right.keeps key limit limits _ (left.keeps key limit limits contact within)

theorem Careful.flushed (careful : Careful base changes) :
    Careful base (unitOfWork changes) := by
  refine ⟨fun row member => ?_, fun key limit limits contact within => ?_⟩
  · exact careful.nobody row (mem_unitOfWork.mp member)
  · rw [inSession_unitOfWork]
    exact careful.keeps key limit limits contact within

theorem Within.calm
    {change : Change}
    (within : Within limit contact)
    (calm : change.Calm) :
    Within limit (inSession [change] key contact) := by
  cases change with
  | updateContact other patch =>
      change Within limit (if other = key then patch.apply contact else contact)
      split
      · obtain ⟨uncounted, inactive, unscheduled⟩ := calm
        refine within.of_same ?_ ?_
        · change patch.followUpIndex.getD contact.followUpIndex = contact.followUpIndex
          rw [uncounted]
          rfl
        · rintro ⟨active, scheduled⟩
          change patch.status.getD contact.status = .active at active
          change patch.nextActionAt.getD contact.nextActionAt ≠ none at scheduled
          constructor
          · cases status : patch.status with
            | none => simpa [status] using active
            | some moved =>
                rw [status] at active inactive
                exact absurd (congrArg some active) inactive
          · cases next : patch.nextActionAt with
            | none => simpa [next] using scheduled
            | some date =>
                cases date with
                | none => simp [next] at scheduled
                | some instant => exact absurd next (unscheduled instant)
      · exact within
  | _ => exact within

theorem careful_of_calm (calm : ∀ change ∈ changes, change.Calm) : Careful base changes := by
  induction changes with
  | nil => exact careful_nil
  | cons change rest inductionHypothesis =>
      have here := calm change List.mem_cons_self
      have alone : Careful base [change] := by
        refine ⟨fun row member => ?_, fun key limit _ contact within => within.calm here⟩
        obtain rfl := List.mem_singleton.mp member
        exact here
      exact alone.append (inductionHypothesis fun other member =>
        calm other (List.mem_cons_of_mem _ member))

/-- The contacts of a view of a careful transaction. -/
theorem Careful.view
    (careful : Careful store changes)
    (paced : Paced store)
    (applied : applyAll Change.apply store changes = some result)
    (found : result.contacts.get key = some contact) :
    ∃ stored campaign, store.contacts.get key = some stored ∧
      store.campaignOf stored = some campaign ∧ contact.campaignId = stored.campaignId ∧
      Within campaign.followUpDays.length contact := by
  rcases tracks_contacts.origin (fun _ _ => trivial) applied found with
    ⟨stored, foundStored, -⟩ | ⟨change, member, row, inserted, -⟩
  · obtain rfl : inSession changes key stored = contact :=
      Option.some.inj ((contact_of_applyAll applied foundStored).symm.trans found)
    obtain ⟨campaign, chosen, within⟩ := paced key stored foundStored
    refine ⟨stored, campaign, foundStored, chosen, (inSession_samePerson key stored).1, ?_⟩
    refine careful.keeps key _ (fun other others foundOther chosenOther => ?_) stored within
    obtain rfl : stored = other := Option.some.inj (foundStored.symm.trans foundOther)
    obtain rfl : campaign = others := Option.some.inj (chosen.symm.trans chosenOther)
    rfl
  · cases change with
    | insertContact other => exact absurd member (careful.nobody other)
    | _ => cases inserted

/-- A careful transaction keeps every contact within its cadence. -/
theorem Careful.paced
    (careful : Careful store changes)
    (paced : Paced store)
    (applied : applyAll Change.apply store changes = some result) :
    Paced result := by
  intro key contact found
  obtain ⟨stored, campaign, -, chosen, same, within⟩ := careful.view paced applied found
  exact ⟨campaign, campaignOf_of_extends
    (tracks_campaigns.extends_table (fun _ _ => trivial) applied) same chosen, within⟩

end Careful

end MailerAgent
