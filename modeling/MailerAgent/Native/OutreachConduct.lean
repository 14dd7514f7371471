import MailerAgent.Native.Conduct

/-!
# Outreach keeps the standing of contacts

The sending functions, the claims and the scheduler jobs keep a closed law. A job claims
its contacts before it works on them one by one; until then every stored contact is
pinned, and afterwards the contacts that are still to be worked on.
-/

namespace MailerAgent
namespace Native

open Concurrent Relational Mail Program

/-! ## Initial outreach and follow-ups -/

section Sending

variable {law : Law} {key : Nat} {contact : Contact} {deployment : Deployment}

theorem conducts_loadCampaignFor :
    Conducts law (Held law key contact) (loadCampaign contact)
      fun _ => Held law key contact :=
  (conducts_loadCampaign fun _ _ => id).weaken (fun _ _ _ found => found.2) fun _ _ _ => id

/-- A contact that waits for a review leaves its schedule. -/
theorem respects_parkForGroundingReview
    (closed : law.Closed)
    (free : law.Free key) :
    Respects law (Held law key contact) (parkForGroundingReview key contact) :=
  (conducts_unscheduled closed free .needsHuman rfl rfl).weaken
    (fun _ _ _ holds => holds.2.orderly) fun _ _ _ => id

/-- A send without a known outcome ends in the hands of a human. -/
theorem respects_escalateUnknown
    (closed : law.Closed)
    (free : law.Free key) :
    Respects law (Held law key contact) (escalateUnknown key contact) :=
  (conducts_unscheduled closed free .needsHuman rfl rfl).weaken
    (fun _ _ _ holds => holds.2.orderly) fun _ _ _ => id

/-- A contact that may get any next action. -/
abbrev Scheduling
    (law : Law)
    (key : Nat)
    (contact : Contact) : Assertion Heard :=
  Focus law key contact (∀ date, law.holds key contact.status date)

/-- A contact that may be dated complies already without a date. -/
theorem Scheduling.orderly
    (free : law.Free key)
    {pending : List Change}
    {desk : Desk Database Heard}
    (scheduling : Scheduling law key contact pending desk) :
    Orderly law pending desk :=
  (scheduling.held free fun holds => holds _).orderly

/-- A neutral assignment leaves a contact that may be dated. -/
theorem conducts_assignScheduling
    {patch : ContactPatch}
    (neutral : patch.Neutral) :
    Conducts law (Scheduling law key contact) (assign key contact patch)
      fun after => Scheduling law key after := by
  refine (conducts_assign patch).weaken ?_ fun _ _ _ => id
  rintro after pending desk ⟨patched, focus⟩
  refine focus.weaken fun holds => ?_
  rw [patched.status, neutral.status]
  exact holds

/-- A contact that may be dated is dated. -/
theorem respects_schedule
    {patch : ContactPatch}
    (free : law.Free key)
    (still : patch.status = none) :
    Respects law (Scheduling law key contact) (assign key contact patch) := by
  refine (conducts_assignHeld free ?_).weaken (fun _ _ _ held => held.orderly) fun _ _ _ => id
  intro holds
  rw [still]
  exact holds _

/-- The law allows an initial message to be sent to a contact. -/
def Law.Sends
    (law : Law)
    (key : Nat)
    (status : ContactStatus) : Prop :=
  ∀ next date, law.holds key status next →
    law.holds key (Law.moved status .initialSent) date

/-- A new contact may be sent to under every closed law. -/
theorem Law.Closed.sendsNew
    (closed : law.Closed)
    (key : Nat) :
    law.Sends key .new :=
  closed.sends key

/-- What follows a first message: a date, a human or the next attempt. -/
theorem respects_afterInitialSend
    {campaign : Campaign}
    {result : SendResult}
    (closed : law.Closed)
    (free : law.Free key)
    (sends : law.Sends key contact.status) :
    Respects law (Held law key contact) (afterInitialSend key contact campaign result) := by
  refine Performs.ite (fun _ => ?_) fun _ => Performs.ite (fun _ => ?_) fun _ => ?_
  · have sent : Conducts law (Held law key contact)
        (transitionContactState key contact .initialSent) fun moved =>
          Scheduling law key moved.1 := by
      refine ((conducts_transition .initialSent).weaken ?_ fun _ _ _ => id).strengthen
        fun _ _ held => held.focus
      rintro moved pending desk ⟨effect, focus⟩
      refine focus.weaken fun holds date => ?_
      rw [effect.status]
      exact sends contact.nextActionAt date holds
    refine Performs.bind sent fun moved => ?_
    refine Performs.bind (conducts_utcnow stores_focus) fun sentAt => ?_
    refine Performs.bind (conducts_assignScheduling ⟨rfl, rfl⟩) fun stamped => ?_
    refine Performs.bind (conducts_utcnow stores_focus) fun now => ?_
    refine Performs.bind (conducts_computed fun _ _ => Scheduling.orderly free) fun next => ?_
    exact Performs.given fun _ => respects_schedule free rfl
  · exact respects_escalateUnknown closed free
  · exact Performs.pure fun _ _ held => held.orderly

/-- What is reported of a skipped contact: its transition was tried, and nothing else. -/
abbrev Skipped
    (law : Law)
    (key : Nat)
    (contact : Contact)
    (skipped : Prop)
    (next : Option Instant) : Assertion Heard :=
  Shows law key skipped fun after =>
    after.status = Law.moved contact.status .unsubscribed ∧ after.nextActionAt = next

theorem shows_unclaimed
    {claim : Prop}
    {property : Contact → Prop}
    (unclaimed : ¬claim)
    {pending : List Change}
    {desk : Desk Database Heard}
    (orderly : Orderly law pending desk) :
    Shows law key claim property pending desk :=
  ⟨orderly, fun claimed => (unclaimed claimed).elim⟩

/-- The first message reports a skipped contact truly. -/
theorem conducts_sendInitialOutreach
    (closed : law.Closed)
    (free : law.Free key)
    (sends : law.Sends key contact.status) :
    Conducts law (Held law key contact) (sendInitialOutreach deployment key contact)
      fun action => Skipped law key contact (action = .skippedSuppressed)
        contact.nextActionAt := by
  refine Performs.bind (conducts_ask (fun _ _ => rfl) stores_held) fun _ => ?_
  refine Performs.bind conducts_loadCampaignFor fun loaded => ?_
  refine Performs.ite (fun _ => Performs.pure fun _ _ held =>
    shows_unclaimed nofun held.orderly) fun _ => ?_
  refine Performs.bind (conducts_look aborts_held) fun suppressed => ?_
  refine Performs.ite (fun _ => ?_) fun _ => ?_
  · have skipped : Conducts law (Held law key contact)
        (transitionContactState key contact .unsubscribed)
        fun _ => Skipped law key contact True contact.nextActionAt := by
      refine ((conducts_transition .unsubscribed).weaken ?_ fun _ _ _ => id).strengthen
        fun _ _ held => held.focus
      rintro result pending desk ⟨moved, focus⟩
      have held : Held law key result.1 pending desk := by
        refine focus.held free fun holds => ?_
        unfold Law.row
        rw [moved.status, moved.nextActionAt]
        exact closed.skips key _ _ holds
      exact ⟨held.orderly, fun _ => ⟨result.1, ⟨moved.status, moved.nextActionAt⟩, held⟩⟩
    refine Performs.bind skipped fun _ => ?_
    refine Performs.bind (conducts_flush steady_shows) fun _ => ?_
    exact Performs.pure fun _ _ flushed =>
      ⟨flushed.2.orderly, fun _ => flushed.2.shown trivial⟩
  refine Performs.bind (conducts_required fun _ _ held => held.orderly) fun campaign => ?_
  refine Performs.given fun _ => ?_
  refine Performs.bind (conducts_look aborts_held) fun messages => ?_
  refine Performs.bind conducts_draftMessage fun draft => ?_
  refine Performs.ite (fun _ => ?_) fun _ => ?_
  · refine Performs.bind conducts_addMessageHeld fun _ => ?_
    refine Performs.bind (respects_parkForGroundingReview closed free) fun _ => ?_
    exact Performs.bind respects_flush fun _ => Performs.pure fun _ _ =>
      shows_unclaimed nofun
  refine Performs.bind (conducts_sendEmail stores_held fun _ _ held => held.orderly)
    fun result => ?_
  refine Performs.bind conducts_addMessageHeld fun _ => ?_
  refine Performs.bind (respects_afterInitialSend closed free sends) fun current => ?_
  refine Performs.bind respects_flush fun _ => ?_
  exact Performs.bind (conducts_maybeSummarize steady_orderly) fun _ =>
    Performs.pure fun _ _ => shows_unclaimed nofun

/-- The end of a sequence takes the date of the contact away. -/
theorem respects_exhaustAndSchedule
    {next : Option Instant}
    (closed : law.Closed)
    (free : law.Free key) :
    Respects law (Scheduling law key contact)
      (do
        let ended ← exhaustSequence key contact next
        assign key ended { nextActionAt := some next }) := by
  cases next with
  | none =>
      have ended : Conducts law (Scheduling law key contact)
          (exhaustSequence key contact none) fun ended => Leaving law key ended := by
        refine Performs.bind ((conducts_leave closed .sequenceExhausted).strengthen ?_)
          fun _ => Performs.pure fun _ _ => id
        exact fun _ _ focus => focus.weaken fun holds => holds none
      refine Performs.bind ended fun ended => ?_
      exact (conducts_unschedule free rfl rfl).weaken (fun _ _ _ holds => holds.2.orderly)
        fun _ _ _ => id
  | some date =>
      have kept : Conducts law (Scheduling law key contact)
          (exhaustSequence key contact (some date)) fun ended => Scheduling law key ended :=
        Performs.pure fun _ _ => id
      exact Performs.bind kept fun ended => respects_schedule free rfl

/-- What follows a follow-up: the next date, the end or a human. -/
theorem respects_afterFollowup
    {campaign : Campaign}
    {result : SendResult}
    (closed : law.Closed)
    (free : law.Free key)
    (active : contact.status = .active) :
    Respects law (Held law key contact) (afterFollowup key contact campaign result) := by
  refine Performs.ite (fun _ => ?_) fun _ => Performs.ite (fun _ => ?_) fun _ => ?_
  · have sent : Conducts law (Held law key contact)
        (transitionContactState key contact .followupSent) fun moved =>
          Scheduling law key moved.1 := by
      refine ((conducts_transition .followupSent).weaken ?_ fun _ _ _ => id).strengthen
        fun _ _ held => held.focus
      rintro moved pending desk ⟨effect, focus⟩
      refine focus.weaken fun holds date => ?_
      unfold Law.row at holds
      rw [effect.status, active]
      rw [active] at holds
      exact closed.follows key _ date holds
    refine Performs.bind sent fun moved => ?_
    refine Performs.bind (conducts_utcnow stores_focus) fun sentAt => ?_
    refine Performs.bind (conducts_assignScheduling ⟨rfl, rfl⟩) fun counted => ?_
    refine Performs.bind (conducts_utcnow stores_focus) fun now => ?_
    refine Performs.bind (conducts_computed fun _ _ => Scheduling.orderly free) fun next => ?_
    exact Performs.given fun _ => respects_exhaustAndSchedule closed free
  · exact respects_escalateUnknown closed free
  · exact Performs.pure fun _ _ held => held.orderly

/-- Only an active contact is sent a follow-up. -/
theorem active_of_canSendFollowup
    {services : Services}
    {now : Instant}
    (sendable : canSendFollowup services now contact = .ok true) :
    contact.status = .active := by
  unfold canSendFollowup at sendable
  split at sendable
  · cases sendable
  · next active => exact not_not.mp active

/-- A follow-up reports a skipped contact truly. -/
theorem conducts_sendFollowupIfDue
    {origin : Nat → SendOrigin}
    (closed : law.Closed)
    (free : law.Free key) :
    Conducts law (Held law key contact) (sendFollowupIfDue deployment origin key contact)
      fun action => Skipped law key contact (action = some .skippedSuppressed) none := by
  have unsent : ∀ action : Option OutreachAction, action ≠ some .skippedSuppressed →
      ∀ pending desk, Held law key contact pending desk →
        Skipped law key contact (action = some .skippedSuppressed) none pending desk :=
    fun action other _ _ held => shows_unclaimed other held.orderly
  refine Performs.bind (conducts_ask (fun _ _ => rfl) stores_held) fun _ => ?_
  refine Performs.bind conducts_loadCampaignFor fun loaded => ?_
  refine Performs.ite (fun _ => Performs.pure (unsent _ nofun)) fun _ => ?_
  refine Performs.bind (conducts_utcnow stores_held) fun checkedAt => ?_
  refine Performs.bind (conducts_computed fun _ _ held => held.orderly) fun due => ?_
  refine Performs.given fun _ => ?_
  refine Performs.ite (fun _ => Performs.pure (unsent _ nofun)) fun _ => ?_
  refine Performs.bind (conducts_utcnow stores_held) fun confirmedAt => ?_
  refine Performs.bind (conducts_computed fun _ _ held => held.orderly) fun sendable => ?_
  refine Performs.given fun confirmed => ?_
  refine Performs.ite (fun _ => Performs.pure (unsent _ nofun)) fun sends => ?_
  have active : contact.status = .active := by
    refine active_of_canSendFollowup (confirmed.trans (congrArg Except.ok ?_))
    simpa using sends
  refine Performs.bind (conducts_look aborts_held) fun suppressed => ?_
  refine Performs.ite (fun _ => ?_) fun _ => ?_
  · refine conducts_leaveSchedule closed free .unsubscribed rfl rfl fun after status next => ?_
    refine Performs.bind (conducts_flush steady_held) fun _ => ?_
    exact Performs.pure fun _ _ flushed =>
      ⟨flushed.2.orderly, fun _ => ⟨after, ⟨status, next⟩, flushed.2⟩⟩
  refine Performs.bind (conducts_required fun _ _ held => held.orderly) fun campaign => ?_
  refine Performs.given fun _ => ?_
  refine Performs.bind (conducts_utcnow stores_held) fun hintedAt => ?_
  refine Performs.bind (conducts_computed fun _ _ held => held.orderly) fun _ => ?_
  refine Performs.given fun _ => ?_
  refine Performs.bind (conducts_look aborts_held) fun messages => ?_
  refine Performs.bind conducts_draftMessage fun draft => ?_
  refine Performs.ite (fun _ => ?_) fun _ => ?_
  · refine Performs.bind conducts_addMessageHeld fun _ => ?_
    refine Performs.bind (respects_parkForGroundingReview closed free) fun _ => ?_
    exact Performs.bind respects_flush fun _ => Performs.pure fun _ _ =>
      shows_unclaimed nofun
  refine Performs.bind (conducts_sendEmail stores_held fun _ _ held => held.orderly)
    fun result => ?_
  refine Performs.bind conducts_addMessageHeld fun _ => ?_
  refine Performs.bind (respects_afterFollowup closed free active) fun current => ?_
  refine Performs.bind respects_flush fun _ => ?_
  exact Performs.bind (conducts_maybeSummarize steady_orderly) fun _ =>
    Performs.pure fun _ _ => shows_unclaimed nofun

theorem respects_sendFollowupIfDue
    {origin : Nat → SendOrigin}
    (closed : law.Closed)
    (free : law.Free key) :
    Respects law (Held law key contact)
      (sendFollowupIfDue deployment origin key contact) :=
  (conducts_sendFollowupIfDue closed free).weaken (fun _ _ _ skipped => skipped.orderly)
    fun _ _ _ => id

end Sending

/-! ## Claims -/

/-- All contacts comply, and nothing of their standing was changed since the transaction
began. -/
structure Preparing
    (law : Law)
    (pending : List Change)
    (desk : Desk Database Heard) : Prop where
  orderly : Orderly law pending desk
  neutral : ∀ change ∈ pending, change.Neutral
  keeps : ∀ view, desk.view = some view → KeepsStanding desk.store view

section Claims

variable {law : Law} {key : Nat} {contact : Contact} {deployment : Deployment}
variable {workerId : String} {locked : List Nat}

theorem Clean.preparing
    {pending : List Change}
    {desk : Desk Database Heard}
    (clean : Clean law pending desk) :
    Preparing law pending desk where
  orderly := clean.orderly
  neutral := by
    rw [clean.empty]
    exact fun _ member => (List.not_mem_nil member).elim
  keeps view seen := by
    cases clean.view.symm.trans seen
    exact .of_same rfl

theorem stores_preparing : Assertion.Stores law (Preparing law) :=
  fun _ _ preparing => preparing.orderly.store

theorem aborts_preparing : Assertion.Aborts law (Preparing law) :=
  fun _ _ preparing => preparing.orderly.abort none

theorem conducts_assignPreparing
    {patch : ContactPatch}
    (neutral : patch.Neutral) :
    Conducts law (Preparing law) (assign key contact patch) fun _ => Preparing law := by
  refine Performs.bind (conducts_utcnow stores_preparing) fun now => ?_
  have stamped := neutral.stamped now
  have staged : Conducts law (Preparing law)
      (stage (.updateContact key { patch with updatedAt := some now }))
      fun _ => Preparing law := by
    refine Performs.stage fun pending desk preparing => ?_
    refine ⟨preparing.orderly.stage stamped, fun change member => ?_, preparing.keeps⟩
    rcases List.mem_append.mp member with old | added
    · exact preparing.neutral change old
    · rw [List.mem_singleton.mp added]
      exact stamped
  exact Performs.bind staged fun _ => Performs.pure fun _ _ => id

theorem conducts_flushPreparing :
    Conducts law (Preparing law) flush fun _ pending desk =>
      pending = [] ∧ Preparing law pending desk := by
  refine Performs.flush (fun _ _ _ preparing _ => preparing.orderly.abort none) ?_
    fun _ preparing => ⟨rfl, preparing⟩
  intro pending desk view after preparing seen applied
  refine ⟨rfl, preparing.orderly.flushed seen applied,
    fun _ member => (List.not_mem_nil member).elim, ?_⟩
  rintro _ ⟨⟩
  refine (preparing.keeps view seen).trans (keepsStanding_applyAll ?_ applied)
  exact fun change member => preparing.neutral change (mem_unitOfWork.mp member)

/-- Recovery changes the claims and nothing of the standing. -/
theorem conducts_recoverExpiredClaims :
    Conducts law (Preparing law) (recoverExpiredClaims deployment) fun _ pending desk =>
      pending = [] ∧ Preparing law pending desk := by
  refine Performs.bind (conducts_utcnow stores_preparing) fun now => ?_
  refine Performs.bind (conducts_look aborts_preparing) fun stale => ?_
  refine Performs.bind ?_ fun _ => conducts_flushPreparing
  induction stale with
  | nil => exact Performs.pure fun _ _ => id
  | cons entry rest inductionHypothesis =>
      have released : Conducts law (Preparing law)
          (do let _ ← assign entry.1 entry.2 releasePatch) fun _ => Preparing law :=
        Performs.bind (conducts_assignPreparing ⟨rfl, rfl⟩) fun _ => Performs.pure fun _ _ => id
      exact Performs.bind released fun _ => inductionHypothesis

/-- The claimed contacts, as the transaction sees them. -/
structure Claimed
    (law : Law)
    (status : ContactStatus)
    (claimed : List Nat)
    (pending : List Change)
    (desk : Desk Database Heard) : Prop where
  empty : pending = []
  preparing : Preparing law pending desk
  status : ∀ view, desk.view = some view → ∀ key ∈ claimed, ∀ contact,
    view.contacts.get key = some contact → contact.status = status

/-- The claimed contacts had the status that was asked for. -/
theorem conducts_claimDueContacts
    {status : ContactStatus}
    {limit : Nat} :
    Conducts law (fun pending desk => pending = [] ∧ Preparing law pending desk)
      (claimDueContacts deployment workerId status locked limit)
      fun claimed => Claimed law status claimed := by
  refine Performs.bind (conducts_utcnow fun _ _ holds => holds.2.orderly.store) fun now => ?_
  refine Performs.execute (fun _ _ _ holds _ => holds.2.orderly.abort none) ?_
  rintro pending desk view after ⟨empty, preparing⟩ seen applied
  have keeps : KeepsStanding view after := by
    refine keepsStanding_applyAll (fun change member => ?_) applied
    obtain ⟨key, -, rfl⟩ := List.mem_map.mp member
    exact ⟨rfl, rfl⟩
  have wellFormed := applyAll_wellFormed (preparing.orderly.wellFormed view seen) applied
  refine ⟨empty, ⟨preparing.orderly.executed seen wellFormed keeps, preparing.neutral, ?_⟩, ?_⟩
  · rintro _ ⟨⟩
    exact (preparing.keeps view seen).trans keeps
  · rintro _ ⟨⟩ key member contact found
    have selected := List.mem_of_mem_take member
    rw [List.mem_insertionSort, List.mem_filter, Table.mem_keysWhere] at selected
    obtain ⟨⟨row, foundRow, claims⟩, -⟩ := selected
    obtain ⟨stored, foundStored, same⟩ := keeps.rows key row foundRow
    cases foundStored.symm.trans found
    unfold claimable at claims
    simp only [Bool.and_eq_true, beq_iff_eq] at claims
    exact same.status.trans claims.1.1.1

/-- The contacts that are still to be worked on: all different, and current in the
transaction and in the database. -/
def Law.due
    (law : Law)
    (due : List (Nat × Contact)) : Law :=
  law.pin fun key contact => (key, contact) ∈ due

/-- What `reloadActive` loads. -/
structure Loaded
    (view : Database)
    (claimed : List Nat)
    (due : List (Nat × Contact)) :
    Prop where
  distinct : due.Pairwise fun first second => first.1 ≠ second.1
  found : ∀ entry ∈ due, view.contacts.get entry.1 = some entry.2
  claimed : ∀ entry ∈ due, entry.1 ∈ claimed

theorem loaded_reloadActive
    (claimed : List Nat)
    (view : Database) :
    Loaded view claimed (reloadActive claimed view) := by
  have origin : ∀ key entry, (if claimed.contains key then
      (view.contacts.get key).map fun contact => (key, contact) else none) = some entry →
      entry.1 = key ∧ view.contacts.get key = some entry.2 ∧ key ∈ claimed := by
    intro key entry selected
    split at selected
    · next member =>
        obtain ⟨row, present, rfl⟩ := Option.map_eq_some_iff.mp selected
        exact ⟨rfl, present, List.contains_iff_mem.mp member⟩
    · cases selected
  refine ⟨?_, fun entry member => ?_, fun entry member => ?_⟩
  · refine List.Pairwise.filterMap _ ?_ (Table.nodup_keysWhere _ _)
    rintro first second different left fromFirst right fromSecond
    rw [(origin first left fromFirst).1, (origin second right fromSecond).1]
    exact different
  · obtain ⟨key, -, selected⟩ := List.mem_filterMap.mp member
    obtain ⟨here, present, -⟩ := origin key entry selected
    rw [here]
    exact present
  · obtain ⟨key, -, selected⟩ := List.mem_filterMap.mp member
    obtain ⟨here, -, taken⟩ := origin key entry selected
    rw [here]
    exact taken

/-- The loaded contacts are ready to be worked on. -/
structure Ready
    (law : Law)
    (status : ContactStatus)
    (due : List (Nat × Contact))
    (pending : List Change)
    (desk : Desk Database Heard) : Prop where
  orderly : Orderly (law.due due) pending desk
  distinct : due.Pairwise fun first second => first.1 ≠ second.1
  status : ∀ entry ∈ due, entry.2.status = status

/-- With fewer pins, less is required. -/
theorem Editing.unpin
    {except : Option Nat}
    {pins : Nat → Contact → Prop}
    {pending : List Change}
    {desk : Desk Database Heard}
    (fewer : ∀ key contact, law.pins key contact → pins key contact)
    (editing : Editing (law.pin pins) except pending desk) :
    Editing law except pending desk where
  store := editing.store
  wellFormed := editing.wellFormed
  size := editing.size
  known := editing.known
  fresh := editing.fresh
  rows := editing.rows
  pinned key contact member := editing.pinned key contact (fewer key contact member)
  kept key contact member := editing.kept key contact (fewer key contact member)

/-- Contacts loaded by a transaction that has changed no standing. -/
theorem Preparing.ready
    {status : ContactStatus}
    {due : List (Nat × Contact)}
    {desk : Desk Database Heard}
    {view : Database}
    (preparing : Preparing law [] desk)
    (seen : desk.view = some view)
    (distinct : due.Pairwise fun first second => first.1 ≠ second.1)
    (found : ∀ entry ∈ due, view.contacts.get entry.1 = some entry.2)
    (same : ∀ entry ∈ due, entry.2.status = status) :
    Ready law status due [] desk where
  orderly :=
    { store := preparing.orderly.store
      wellFormed := preparing.orderly.wellFormed
      size := preparing.orderly.size
      known := preparing.orderly.known
      fresh := preparing.orderly.fresh
      rows := preparing.orderly.rows
      pinned := by
        intro key contact member _ current seenCurrent
        cases seen.symm.trans seenCurrent
        exact ⟨contact, found _ member, .refl contact⟩
      kept := by
        intro key contact member
        have keeps := preparing.keeps view seen
        obtain ⟨stored, foundStored⟩ :=
          Table.exists_get_of_lt_size (keeps.size ▸ Table.lt_size_of_get (found _ member))
        obtain ⟨row, foundRow, same⟩ := keeps.rows key stored foundStored
        cases foundRow.symm.trans (found _ member)
        exact ⟨stored, foundStored, same.symm⟩ }
  distinct := distinct
  status := same

/-- After the commit of a claim the contacts are loaded as they are then. -/
theorem conducts_reloadActive
    {status : ContactStatus}
    {claimed : List Nat} :
    Conducts law (Claimed law status claimed) (query (reloadActive claimed))
      fun due => Ready law status due := by
  refine (conducts_query fun _ _ holds => holds.preparing.orderly.abort none).weaken ?_
    fun _ _ _ => id
  rintro due pending desk ⟨holds, view, seen, rfl⟩
  have loaded := loaded_reloadActive claimed view
  obtain rfl := holds.empty
  refine holds.preparing.ready seen loaded.distinct loaded.found fun entry member => ?_
  exact holds.status view seen entry.1 (loaded.claimed entry member) entry.2
    (loaded.found entry member)

end Claims

/-! ## Scheduler jobs -/

section Jobs

variable {law : Law} {key : Nat} {contact : Contact} {deployment : Deployment}
variable {workerId : String} {locked : List Nat}

theorem respects_releaseClaim :
    Respects law (Orderly law) (releaseClaim key contact) :=
  Performs.bind (respects_assign ⟨rfl, rfl⟩) fun _ => respects_flush

/-- One new contact is handled under the law. -/
theorem respects_dispatchNewContact
    (closed : law.Closed)
    (free : law.Free key)
    (fresh : contact.status = .new) :
    Respects law (Held law key contact) (dispatchNewContact deployment key contact) := by
  have processed : Respects law (Held law key contact)
      (do let _ ← sendInitialOutreach deployment key contact; commit) := by
    refine Performs.bind (conducts_sendInitialOutreach closed free ?_) fun _ =>
      respects_commit.strengthen fun _ _ skipped => skipped.orderly
    rw [fresh]
    exact closed.sendsNew key
  refine Performs.ensuringEither (Performs.bind processed.attemptEither fun result => ?_)
    respects_releaseClaim
  cases result with
  | ok value => exact respects_pure
  | error failure => exact respects_rollback

/-- The next of the loaded contacts. -/
theorem Editing.next
    {except : Option Nat}
    {entry : Nat × Contact}
    {rest : List (Nat × Contact)}
    {pending : List Change}
    {desk : Desk Database Heard}
    (editing : Editing (law.due (entry :: rest)) except pending desk) :
    Editing (law.due rest) except pending desk :=
  have pinned : Editing ((law.due rest).pin fun key contact => (key, contact) ∈ entry :: rest)
      except pending desk := editing
  pinned.unpin fun _ _ member => List.mem_cons_of_mem _ member

theorem Editing.heldNext
    {rest : List (Nat × Contact)}
    {pending : List Change}
    {desk : Desk Database Heard}
    (orderly : Orderly (law.due ((key, contact) :: rest)) pending desk) :
    Held (law.due rest) key contact pending desk :=
  ⟨orderly.next, orderly.pinned key contact List.mem_cons_self (Option.some_ne_none key).symm⟩

theorem free_of_distinct
    {rest : List (Nat × Contact)}
    (distinct : ((key, contact) :: rest).Pairwise fun first second => first.1 ≠ second.1) :
    (law.due rest).Free key :=
  fun _ member => (List.pairwise_cons.mp distinct).1 _ member rfl

/-- A pinned contact is loaded again. -/
theorem conducts_loadContact
    {stale : Contact}
    {rest : List (Nat × Contact)} :
    Conducts (law.due rest) (Orderly (law.due ((key, stale) :: rest))) (loadContact key)
      fun current pending desk => SameStanding stale (current.getD stale) ∧
        Held (law.due rest) key (current.getD stale) pending desk := by
  intro pending begun initially
  have loaded := @Performs.query _ _ (law.due rest).rules
    (fun waiting desk => waiting = pending ∧ Orderly (law.due ((key, stale) :: rest)) waiting desk)
    (fun current waiting desk => SameStanding stale (current.getD stale) ∧
      Held (law.due rest) key (current.getD stale) waiting desk)
    (fun _ => Orderly (law.due rest))
    (fun view => (view.contacts.get key).map (inSession pending key))
    (fun _ _ _ holds _ => holds.2.next.abort none) (by
      rintro waiting desk view ⟨rfl, orderly⟩ seen
      have held := orderly.heldNext
      obtain ⟨stored, found, same⟩ := held.current view seen
      rw [found]
      refine ⟨same, held.orderly, ?_⟩
      intro current seenCurrent
      cases seen.symm.trans seenCurrent
      exact ⟨stored, found, .refl _⟩)
  exact loaded pending begun ⟨rfl, initially⟩

theorem respects_dispatchRest
    {rest : List (Nat × Contact)}
    (closed : law.Closed)
    (distinct : rest.Pairwise fun first second => first.1 ≠ second.1)
    (fresh : ∀ entry ∈ rest, entry.2.status = .new)
    (unpinned : ∀ key, law.Free key) :
    Respects law (Orderly (law.due rest))
      (forEach rest fun (other, stale) => do
        let current ← loadContact other
        dispatchNewContact deployment other (current.getD stale)) := by
  induction rest with
  | nil =>
      exact Performs.pure fun _ _ orderly =>
        orderly.unpin fun key contact member => (unpinned key contact member).elim
  | cons entry rest inductionHypothesis =>
      obtain ⟨other, stale⟩ := entry
      have loaded : Conducts (law.due rest) (Orderly (law.due ((other, stale) :: rest)))
          (do
            let current ← loadContact other
            dispatchNewContact deployment other (current.getD stale))
          fun _ => Orderly (law.due rest) := by
        refine Performs.bind conducts_loadContact fun current => Performs.given fun same => ?_
        refine respects_dispatchNewContact (closed.pin _) (free_of_distinct distinct) ?_
        exact same.status.trans (fresh _ List.mem_cons_self)
      refine Performs.bind (loaded.weaken (fun _ _ _ => id) fun _ _ _ orderly => ?_) fun _ => ?_
      · exact orderly.unpin fun key contact member => (unpinned key contact member).elim
      · exact inductionHypothesis (List.pairwise_cons.mp distinct).2
          fun entry member => fresh entry (List.mem_cons_of_mem _ member)

/-- The contacts of a batch differ, so that each is loaded as it was. -/
theorem respects_dispatchNewContacts
    {due : List (Nat × Contact)}
    (closed : law.Closed)
    (unpinned : ∀ key, law.Free key) :
    Respects law (Ready law .new due) (dispatchNewContacts deployment due) := by
  intro pending desk ready
  obtain ⟨orderly, distinct, fresh⟩ := ready
  cases due with
  | nil =>
      exact respects_pure pending desk (orderly.unpin fun key contact member =>
        (unpinned key contact member).elim)
  | cons entry rest =>
      obtain ⟨key, contact⟩ := entry
      have first : Respects (law.due rest) (Orderly (law.due ((key, contact) :: rest)))
          (dispatchNewContact deployment key contact) :=
        (respects_dispatchNewContact (closed.pin _) (free_of_distinct distinct)
          (fresh _ List.mem_cons_self)).strengthen fun _ _ orderly => orderly.heldNext
      refine Performs.bind (first.weaken (fun _ _ _ => id) fun _ _ _ orderly => ?_) (fun _ => ?_)
        pending desk orderly
      · exact orderly.unpin fun key contact member => (unpinned key contact member).elim
      · exact respects_dispatchRest closed (List.pairwise_cons.mp distinct).2
          (fun entry member => fresh entry (List.mem_cons_of_mem _ member)) unpinned

/-- The job of the scheduler for new contacts keeps the law. -/
theorem respects_dispatchNewContactsJob
    (closed : law.Closed)
    (unpinned : ∀ key, law.Free key) :
    Respects law (Clean law) (dispatchNewContactsJob deployment workerId locked) := by
  refine respects_sessionScope ?_
  refine Performs.bind (conducts_recoverExpiredClaims.strengthen fun _ _ clean =>
    clean.preparing) fun _ => ?_
  refine Performs.bind conducts_claimDueContacts fun claimed => ?_
  refine Performs.ite (fun _ => Performs.pure fun _ _ holds => holds.preparing.orderly)
    fun _ => ?_
  refine Performs.bind conducts_reloadActive fun due => ?_
  exact respects_dispatchNewContacts closed unpinned

/-- The loop of `run_followup_cycle`. -/
theorem respects_followupLoop
    {due : List (Nat × Contact)}
    (closed : law.Closed)
    (distinct : due.Pairwise fun first second => first.1 ≠ second.1)
    (unpinned : ∀ key, law.Free key) :
    Respects law (Orderly (law.due due))
      (forEach due fun (key, contact) =>
        Program.ensuring
          (do
            let _ ← attempt (sendFollowupIfDue deployment .followUp key contact))
          (releaseClaim key contact)) := by
  induction due with
  | nil =>
      exact Performs.pure fun _ _ orderly =>
        orderly.unpin fun key contact member => (unpinned key contact member).elim
  | cons entry rest inductionHypothesis =>
      obtain ⟨key, contact⟩ := entry
      have sent : Respects (law.due rest) (Orderly (law.due ((key, contact) :: rest)))
          (do let _ ← attempt (sendFollowupIfDue deployment .followUp key contact)) := by
        have due : Respects (law.due rest) (Held (law.due rest) key contact)
            (sendFollowupIfDue deployment .followUp key contact) :=
          respects_sendFollowupIfDue (closed.pin _) (free_of_distinct distinct)
        exact Performs.bind (due.attemptEither.strengthen fun _ _ orderly => orderly.heldNext)
          fun _ => respects_pure
      have released : Respects (law.due rest) (Orderly (law.due rest))
          (releaseClaim key contact) := respects_releaseClaim
      have worked := sent.ensuringEither released
      refine Performs.bind (worked.weaken (fun _ _ _ => id) fun _ _ _ orderly => ?_) fun _ => ?_
      · exact orderly.unpin fun key contact member => (unpinned key contact member).elim
      · exact inductionHypothesis (List.pairwise_cons.mp distinct).2

/-- The cycle for follow-ups keeps the law. -/
theorem respects_runFollowupCycle
    (closed : law.Closed)
    (unpinned : ∀ key, law.Free key) :
    Respects law (Clean law) (runFollowupCycle deployment workerId locked) := by
  refine Performs.bind (conducts_recoverExpiredClaims.strengthen fun _ _ clean =>
    clean.preparing) fun _ => ?_
  refine Performs.bind conducts_claimDueContacts fun claimed => ?_
  refine Performs.ite (fun _ => Performs.pure fun _ _ holds => holds.preparing.orderly)
    fun _ => ?_
  refine Performs.bind conducts_reloadActive fun due => ?_
  refine Performs.bind ?_ fun _ => respects_commit
  intro pending desk ready
  exact respects_followupLoop closed ready.distinct unpinned pending desk ready.orderly

theorem respects_releaseAllClaims :
    Respects law (Orderly law) (releaseAllClaims workerId) := by
  refine respects_execute fun view change member => ?_
  obtain ⟨key, -, rfl⟩ := List.mem_map.mp member
  exact ⟨rfl, rfl⟩

end Jobs

end Native
end MailerAgent
