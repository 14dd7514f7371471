import MailerAgent.Native.Company
import MailerAgent.World.Cadence
import MailerAgent.World.Ingestion

/-!
# Claims that a cycle leaves behind

The cycles of the schedulers claim due contacts, go on with those of active campaigns, and
release each one after its send. The claims of the others are never released, and in
`dispatch_new_contacts_job` a release waits in the transaction that the exception of the
next contact rolls back. Where neither happens, no contact keeps a claim of a cycle that
has ended normally.
-/

namespace MailerAgent

open Concurrent Relational Mail Native Program

/-! ## Claims on contacts -/

/-- The claim that a cycle writes: its worker, and the time it was taken. -/
structure CycleClaim where
  workerId : String
  claimedAt : Instant
  deriving DecidableEq, Repr

/-- The contact carries a claim. -/
def CycleClaim.On
    (claim : CycleClaim)
    (contact : Contact) : Prop :=
  contact.claimedBy = some claim.workerId ∧ contact.claimedAt = some claim.claimedAt

instance (claim : CycleClaim) : DecidablePred claim.On :=
  fun contact => inferInstanceAs (Decidable (contact.claimedBy = _ ∧ contact.claimedAt = _))

/-- The row under a key carries a claim. -/
def CycleClaim.Held
    (claim : CycleClaim)
    (database : Database)
    (key : Nat) : Prop :=
  ∃ contact, database.contacts.get key = some contact ∧ claim.On contact

/-- The contact under a key belongs to an inactive campaign. -/
def Database.Paused
    (database : Database)
    (key : Nat) : Prop :=
  ∃ contact campaign, database.contacts.get key = some contact ∧
    database.campaignOf contact = some campaign ∧ campaign.isActive = false

/-- The change of `release_claim`, at some time. -/
def releases
    (key : Nat)
    (now : Instant) : Change :=
  .updateContact key { releasePatch with updatedAt := some now }

/-- The open transaction has released a contact whose committed row carries the claim. -/
def CycleClaim.ReleaseOpen
    (claim : CycleClaim)
    (store : Database)
    (session : Session Change) : Prop :=
  ∃ key now, claim.Held store key ∧ releases key now ∈ session.writes

/-! ## Transactions that take no claim -/

/-- The changes of a cycle other than its claim. -/
def Native.Change.TakesNoClaim : Change → Prop
  | .insertContact _ => False
  | .updateContact _ patch => patch.takesNoClaim = true
  | _ => True

/-- What a cycle does with a contact before it ends a transaction. -/
def tending : Bounds Change Signal where
  writes := Change.TakesNoClaim
  asks _ := True
  transacts := False

instance : Admits tending where
  updates _ claimless := claimless
  messages _ _ := trivial
  notes {change} notes := by
    cases change with
    | insertSuppression row => trivial
    | interpretMessage contactId reference interpretation => trivial
    | _ => exact notes.elim
  asks _ := trivial

/-- The claim is gone, or the one it was. -/
def SameClaim (before after : Contact) : Prop :=
  after.claimedBy = none ∨
    after.claimedBy = before.claimedBy ∧ after.claimedAt = before.claimedAt

section Claims

variable {claim : CycleClaim} {changes : List Change} {key : Nat} {contact : Contact}

theorem sameClaim_apply
    {patch : ContactPatch}
    (claimless : patch.takesNoClaim = true)
    (contact : Contact) :
    SameClaim contact (patch.apply contact) := by
  rcases Bool.or_eq_true_iff.mp claimless with ended | kept
  · left
    change patch.claimedBy.getD contact.claimedBy = none
    rw [beq_iff_eq.mp ended]
    rfl
  · right
    obtain ⟨worker, taken⟩ := Bool.and_eq_true_iff.mp kept
    change patch.claimedBy.getD contact.claimedBy = contact.claimedBy ∧
      patch.claimedAt.getD contact.claimedAt = contact.claimedAt
    rw [Option.isNone_iff_eq_none.mp worker, Option.isNone_iff_eq_none.mp taken]
    exact ⟨rfl, rfl⟩

theorem SameClaim.trans
    {first second third : Contact}
    (left : SameClaim first second)
    (right : SameClaim second third) :
    SameClaim first third := by
  rcases right with gone | ⟨worker, taken⟩
  · exact .inl gone
  · rcases left with gone | ⟨before, since⟩
    · exact .inl (worker.trans gone)
    · exact .inr ⟨worker.trans before, taken.trans since⟩

theorem sameClaim_inSession
    (claimless : ∀ change ∈ changes, change.TakesNoClaim)
    (contact : Contact) :
    SameClaim contact (inSession changes key contact) := by
  induction changes generalizing contact with
  | nil => exact .inr ⟨rfl, rfl⟩
  | cons change rest inductionHypothesis =>
      have here := claimless change List.mem_cons_self
      have later := inductionHypothesis fun other member =>
        claimless other (List.mem_cons_of_mem _ member)
      cases change with
      | updateContact other patch =>
          refine SameClaim.trans ?_ (later _)
          change SameClaim contact (if other = key then patch.apply contact else contact)
          split
          · exact sameClaim_apply here contact
          · exact .inr ⟨rfl, rfl⟩
      | _ => exact later contact

theorem CycleClaim.On.of_sameClaim
    {before after : Contact}
    (on : claim.On after)
    (same : SameClaim before after) :
    claim.On before := by
  rcases same with gone | ⟨worker, taken⟩
  · rw [On, gone] at on
    cases on.1
  · exact ⟨worker.symm.trans on.1, taken.symm.trans on.2⟩

/-- A released contact carries no claim, whatever else the transaction does to it. -/
theorem not_on_of_released
    {now : Instant}
    (claimless : ∀ change ∈ changes, change.TakesNoClaim)
    (released : releases key now ∈ changes)
    (contact : Contact) :
    ¬claim.On (inSession changes key contact) := by
  obtain ⟨first, second, rfl⟩ := List.append_of_mem released
  have after : ∀ change ∈ second, change.TakesNoClaim := fun change member =>
    claimless change (List.mem_append_right _ (List.mem_cons_of_mem _ member))
  intro on
  rw [inSession_append] at on
  unfold releases at on
  rw [inSession_update] at on
  cases (on.of_sameClaim (sameClaim_inSession after _)).1

end Claims

/-! ## The company of a cycle -/

/-- A campaign that was neither switched on nor off. -/
def Campaign.SameActivity (before after : Campaign) : Prop :=
  after.isActive = before.isActive

/-- What the others do meanwhile: they insert and update rows under the constraints of the
schema, they switch no campaign on or off, and they do not take the claim of the cycle. -/
structure CycleClaim.Beside
    (claim : CycleClaim)
    (before after : Database) : Prop where
  contacts : Table.Extends Contact.SamePerson before.contacts after.contacts
  campaigns : Table.Extends Campaign.SameActivity before.campaigns after.campaigns
  wellFormed : before.WellFormed → after.WellFormed
  held : ∀ key, claim.Held after key → claim.Held before key

theorem CycleClaim.Beside.refl
    {claim : CycleClaim}
    (database : Database) :
    claim.Beside database database where
  contacts := .refl (fun _ => ⟨rfl, rfl⟩) _
  campaigns := .refl (fun campaign => Eq.refl campaign.isActive) _
  wellFormed := id
  held _ := id

theorem CycleClaim.Beside.trans
    {claim : CycleClaim}
    {first second third : Database}
    (left : claim.Beside first second)
    (right : claim.Beside second third) :
    claim.Beside first third where
  contacts := left.contacts.trans
    (fun _ _ _ before after => ⟨after.1.trans before.1, after.2.trans before.2⟩) right.contacts
  campaigns := left.campaigns.trans (fun _ _ _ before after => after.trans before)
    right.campaigns
  wellFormed := right.wellFormed ∘ left.wellFormed
  held key := left.held key ∘ right.held key

/-- What the other operations do between two steps of a cycle, unless they take its claim. -/
theorem CycleClaim.beside_of_reaches
    {claim : CycleClaim}
    {deployment : Deployment}
    {before after : World}
    (reachable : (system deployment).Reachable before)
    (reaches : (system deployment).Reaches before after)
    (held : ∀ key, claim.Held after.database key → claim.Held before.database key) :
    claim.Beside before.database after.database where
  contacts := (extends_of_reaches reachable reaches).contacts
  campaigns := by
    refine reaches.invariant (fun world => Table.Extends Campaign.SameActivity
      before.database.campaigns world.database.campaigns) reachable
      (.refl (fun campaign => Eq.refl campaign.isActive) _) ?_
    intro _ _ _ reached extended stepped
    refine extended.trans (fun _ _ _ first second => second.trans first) ?_
    intro key campaign found
    obtain ⟨_, kept, rfl⟩ := campaigns_of_step reached stepped key campaign found
    exact ⟨campaign, kept, rfl⟩
  wellFormed _ :=
    (Invariant.of_reachable (reachable.reaches reaches)).current.consistent.toWellFormed
  held := held

/-- A cycle among others. -/
def CycleClaim.alongside (claim : CycleClaim) : Company Database Change where
  apply := Change.apply
  others := claim.Beside
  refl := .refl
  trans := .trans

/-- The contact under a key carries a claim in the open transaction. -/
def CycleClaim.Open
    (claim : CycleClaim)
    (store : Database)
    (session : Session Change)
    (key : Nat) : Prop :=
  ∃ contact, store.contacts.get key = some contact ∧
    claim.On (inSession session.writes key contact)

/-- A commit that applies the transaction finds no claim in it on a contact of an inactive
campaign, and one that fails takes no release back. -/
def CycleClaim.Closes
    (claim : CycleClaim)
    (store : Database)
    (session : Session Change) : Option Database → Prop
  | some _ => ∀ key, claim.Open store session key → ¬store.Paused key
  | none => ¬claim.ReleaseOpen store session

/-- The same for the steps in which every commit closes well, and no rollback takes a
release back. -/
def CycleClaim.cycling (claim : CycleClaim) : Company Database Change :=
  { claim.alongside with
    commits := claim.Closes
    rollbacks := fun store session => ¬claim.ReleaseOpen store session }

/-! ## What is left to release -/

/-- While the contacts under some keys are left to be released, no others carry the claim
in the transaction but those of inactive campaigns; and the committed rows that do are
released in the transaction. -/
structure CycleClaim.Settling
    (claim : CycleClaim)
    (left : List Nat)
    (store : Database)
    (writes : List Change) : Prop where
  wellFormed : store.WellFormed
  stored : ∀ key ∈ left, ∃ contact, store.contacts.get key = some contact
  nobody : ∀ row, .insertContact row ∉ writes
  /-- Of every row, because the others may change the rows. -/
  takes : ∀ key contact, claim.On (inSession writes key contact) →
    key ∈ left ∨ store.Paused key ∨ claim.On contact ∧ ¬claim.Held store key
  keeps : ∀ key, claim.Held store key →
    key ∈ left ∨ store.Paused key ∨ ∃ now, releases key now ∈ writes

section Settling

variable {claim : CycleClaim} {left : List Nat} {store next : Database}
variable {writes changes : List Change} {key : Nat}

theorem Database.Paused.of_extends
    (paused : store.Paused key)
    (contacts : Table.Extends Contact.SamePerson store.contacts next.contacts)
    (campaigns : Table.Extends Campaign.SameActivity store.campaigns next.campaigns) :
    next.Paused key := by
  obtain ⟨contact, campaign, found, chosen, inactive⟩ := paused
  obtain ⟨kept, foundKept, same⟩ := contacts key contact found
  obtain ⟨current, foundCurrent, alike⟩ := campaigns _ campaign chosen
  refine ⟨kept, current, foundKept, ?_, alike.trans inactive⟩
  unfold Database.campaignOf
  rw [same.1]
  exact foundCurrent

theorem get_campaign_of_applied
    {position : Nat}
    {campaign : Campaign}
    (applied : applyAll Change.apply store writes = some next)
    (chosen : store.campaigns.get position = some campaign) :
    next.campaigns.get position = some campaign := by
  obtain ⟨_, kept, rfl⟩ :=
    tracks_campaigns.extends_table (fun _ _ => trivial) applied position campaign chosen
  exact kept

/-- A claimed contact is loaded again if its campaign is active. -/
theorem mem_reloadActive
    {contact : Contact}
    {claimed : List Nat}
    (member : key ∈ claimed)
    (found : store.contacts.get key = some contact)
    (active : (store.campaignOf contact).any Campaign.isActive = true) :
    key ∈ (reloadActive claimed store).map Prod.fst := by
  have loaded : (key, contact) ∈ reloadActive claimed store := by
    refine List.mem_filterMap.mpr ⟨key, ?_, ?_⟩
    · exact (Table.mem_keysWhere _ _ _).mpr ⟨contact, found, active⟩
    · rw [if_pos (List.contains_iff_mem.mpr member), found]
      rfl
  exact List.mem_map.mpr ⟨_, loaded, rfl⟩

theorem mem_of_mem_reloadActive
    {claimed : List Nat}
    (member : key ∈ (reloadActive claimed store).map Prod.fst) :
    key ∈ claimed := by
  obtain ⟨⟨other, contact⟩, loaded, rfl⟩ := List.mem_map.mp member
  obtain ⟨position, -, here⟩ := List.mem_filterMap.mp loaded
  split at here
  · next chosen =>
      obtain ⟨_, -, same⟩ := Option.map_eq_some_iff.mp here
      obtain ⟨rfl, -⟩ := Prod.mk.inj same
      exact List.contains_iff_mem.mp chosen
  · cases here

theorem exists_of_mem_claimedContacts
    {status : ContactStatus}
    {now cutoff : Instant}
    {locked : List Nat}
    {limit : Nat}
    (member : key ∈ claimedContacts store status now cutoff locked limit) :
    ∃ contact, store.contacts.get key = some contact := by
  have sorted := List.mem_of_mem_take member
  have candidate := (List.perm_insertionSort _ _).mem_iff.mp sorted
  obtain ⟨contact, found, -⟩ := (Table.mem_keysWhere _ _ _).mp (List.mem_filter.mp candidate).1
  exact ⟨contact, found⟩

namespace CycleClaim.Settling

theorem start
    (wellFormed : store.WellFormed)
    (free : ∀ key, ¬claim.Held store key) :
    claim.Settling [] store [] where
  wellFormed := wellFormed
  stored _ member := (List.not_mem_nil member).elim
  nobody _ := List.not_mem_nil
  takes key _ on := .inr (.inr ⟨on, free key⟩)
  keeps key held := (free key held).elim

theorem of_beside
    (settling : claim.Settling left store writes)
    (beside : claim.Beside store next) :
    claim.Settling left next writes where
  wellFormed := beside.wellFormed settling.wellFormed
  stored key member := by
    obtain ⟨contact, found⟩ := settling.stored key member
    obtain ⟨kept, foundKept, -⟩ := beside.contacts key contact found
    exact ⟨kept, foundKept⟩
  nobody := settling.nobody
  takes key contact on := by
    rcases settling.takes key contact on with member | paused | ⟨was, free⟩
    · exact .inl member
    · exact .inr (.inl (paused.of_extends beside.contacts beside.campaigns))
    · exact .inr (.inr ⟨was, fun held => free (beside.held key held)⟩)
  keeps key held := by
    rcases settling.keeps key (beside.held key held) with member | paused | released
    · exact .inl member
    · exact .inr (.inl (paused.of_extends beside.contacts beside.campaigns))
    · exact .inr (.inr released)

/-- Changes that take no claim. -/
theorem append
    (settling : claim.Settling left store writes)
    (claimless : ∀ change ∈ changes, change.TakesNoClaim) :
    claim.Settling left store (writes ++ changes) where
  wellFormed := settling.wellFormed
  stored := settling.stored
  nobody row member :=
    (List.mem_append.mp member).elim (settling.nobody row) (claimless (.insertContact row))
  takes key contact on := by
    rw [inSession_append] at on
    exact settling.takes key contact (on.of_sameClaim (sameClaim_inSession claimless _))
  keeps key held := by
    rcases settling.keeps key held with member | paused | ⟨now, released⟩
    · exact .inl member
    · exact .inr (.inl paused)
    · exact .inr (.inr ⟨now, List.mem_append_left _ released⟩)

/-- A release settles a contact. -/
theorem release
    {now : Instant}
    (settling : claim.Settling (key :: left) store writes)
    (claimless : ∀ change ∈ changes, change.TakesNoClaim)
    (released : releases key now ∈ changes) :
    claim.Settling left store (writes ++ changes) where
  wellFormed := settling.wellFormed
  stored other member := settling.stored other (List.mem_cons_of_mem _ member)
  nobody := (settling.append claimless).nobody
  takes other contact on := by
    rcases (settling.append claimless).takes other contact on with member | rest
    · rcases List.mem_cons.mp member with rfl | member
      · rw [inSession_append] at on
        exact (not_on_of_released claimless released _ on).elim
      · exact .inl member
    · exact .inr rest
  keeps other held := by
    rcases (settling.append claimless).keeps other held with member | rest
    · rcases List.mem_cons.mp member with rfl | member
      · exact .inr (.inr ⟨now, List.mem_append_right _ released⟩)
      · exact .inl member
    · exact .inr rest

/-- The transaction is forgotten. -/
theorem forget
    {session : Session Change}
    (settling : claim.Settling left store session.writes)
    (closed : ¬claim.ReleaseOpen store session) :
    claim.Settling left store [] := by
  have keeps : ∀ key, claim.Held store key → key ∈ left ∨ store.Paused key := by
    intro key held
    rcases settling.keeps key held with member | paused | ⟨now, released⟩
    · exact .inl member
    · exact .inr paused
    · exact (closed ⟨key, now, held, released⟩).elim
  refine ⟨settling.wellFormed, settling.stored, fun _ => List.not_mem_nil, ?_, ?_⟩
  · intro key contact on
    by_cases held : claim.Held store key
    · exact (keeps key held).imp_right .inl
    · exact .inr (.inr ⟨on, held⟩)
  · intro key held
    exact (keeps key held).imp_right .inl

/-- What carries the claim after a commit carried it in the transaction. -/
theorem open_of_applied
    {session : Session Change}
    (settling : claim.Settling left store session.writes)
    (applied : applyAll Change.apply store session.writes = some next)
    (held : claim.Held next key) :
    claim.Open store session key := by
  obtain ⟨contact, found, on⟩ := held
  rcases tracks_contacts.origin (fun _ _ => trivial) applied found with
    ⟨old, foundOld, -⟩ | ⟨change, member, row, inserted, -⟩
  · obtain rfl : inSession session.writes key old = contact :=
      Option.some.inj ((contact_of_applyAll applied foundOld).symm.trans found)
    exact ⟨old, foundOld, on⟩
  · cases change with
    | insertContact other => exact (settling.nobody other member).elim
    | _ => cases inserted

/-- The contacts that carry the claim in the transaction. -/
theorem left_or_paused
    {session : Session Change}
    (settling : claim.Settling left store session.writes)
    (carries : claim.Open store session key) :
    key ∈ left ∨ store.Paused key := by
  obtain ⟨old, found, on⟩ := carries
  rcases settling.takes key old on with member | paused | ⟨was, free⟩
  · exact .inl member
  · exact .inr paused
  · exact (free ⟨old, found, was⟩).elim

/-- The transaction is committed, and no contact in it that carries the claim is one of an
inactive campaign. -/
theorem commit
    {session : Session Change}
    (settling : claim.Settling left store session.writes)
    (closes : ∀ key, claim.Open store session key → ¬store.Paused key)
    (applied : applyAll Change.apply store session.writes = some next) :
    claim.Settling left next [] ∧ ∀ key, claim.Held next key → key ∈ left := by
  have only : ∀ key, claim.Held next key → key ∈ left := by
    intro key held
    have carries := settling.open_of_applied applied held
    exact (settling.left_or_paused carries).resolve_right (closes key carries)
  refine ⟨⟨applyAll_wellFormed settling.wellFormed applied, ?_, fun _ => List.not_mem_nil, ?_,
    fun key held => .inl (only key held)⟩, only⟩
  · intro key member
    obtain ⟨contact, found⟩ := settling.stored key member
    exact ⟨_, contact_of_applyAll applied found⟩
  · intro key contact on
    by_cases held : claim.Held next key
    · exact .inl (only key held)
    · exact .inr (.inr ⟨on, held⟩)

/-- The contacts that the transaction sees are stored. -/
theorem stored_of_seen
    {view : Database}
    {contact : Contact}
    (settling : claim.Settling left store writes)
    (seen : applyAll Change.apply store writes = some view)
    (found : view.contacts.get key = some contact) :
    ∃ old, store.contacts.get key = some old := by
  rcases tracks_contacts.origin (fun _ _ => trivial) seen found with
    ⟨old, foundOld, -⟩ | ⟨change, member, row, inserted, -⟩
  · exact ⟨old, foundOld⟩
  · cases change with
    | insertContact other => exact (settling.nobody other member).elim
    | _ => cases inserted

/-- The contacts of a claim are left to be released. -/
theorem claimed
    {claims : List Change}
    {keys : List Nat}
    (settling : claim.Settling [] store writes)
    (stored : ∀ key ∈ keys, ∃ contact, store.contacts.get key = some contact)
    (nobody : ∀ row, .insertContact row ∉ claims)
    (only : ∀ key patch, .updateContact key patch ∈ claims → key ∈ keys) :
    claim.Settling keys store (writes ++ claims) where
  wellFormed := settling.wellFormed
  stored := stored
  nobody row member := (List.mem_append.mp member).elim (settling.nobody row) (nobody row)
  takes key contact on := by
    by_cases member : key ∈ keys
    · exact .inl member
    · have untouched : ∀ patch, .updateContact key patch ∉ claims :=
        fun patch present => member (only key patch present)
      rw [inSession_append, inSession_of_not_mem untouched] at on
      rcases settling.takes key contact on with absent | rest
      · exact (List.not_mem_nil absent).elim
      · exact .inr rest
  keeps key held := by
    rcases settling.keeps key held with absent | paused | ⟨now, released⟩
    · exact (List.not_mem_nil absent).elim
    · exact .inr (.inl paused)
    · exact .inr (.inr ⟨now, List.mem_append_left _ released⟩)

/-- Only contacts of inactive campaigns are missing from those that are loaded again. -/
theorem reloaded
    {view : Database}
    (settling : claim.Settling left store writes)
    (seen : applyAll Change.apply store writes = some view) :
    claim.Settling ((reloadActive left view).map Prod.fst) store writes := by
  have dropped : ∀ key ∈ left,
      key ∈ (reloadActive left view).map Prod.fst ∨ store.Paused key := by
    intro key member
    obtain ⟨contact, found⟩ := settling.stored key member
    obtain ⟨campaign, chosen⟩ :=
      Table.exists_get_of_lt_size (settling.wellFormed.contactCampaign key contact found)
    cases active : campaign.isActive with
    | false => exact .inr ⟨contact, campaign, found, chosen, active⟩
    | true =>
        left
        refine mem_reloadActive member (contact_of_applyAll seen found) ?_
        unfold Database.campaignOf
        rw [(inSession_samePerson key contact).1, get_campaign_of_applied seen chosen]
        exact active
  refine ⟨settling.wellFormed, ?_, settling.nobody, ?_, ?_⟩
  · exact fun key member => settling.stored key (mem_of_mem_reloadActive member)
  · intro key contact on
    rcases settling.takes key contact on with member | rest
    · exact (dropped key member).imp_right .inl
    · exact .inr rest
  · intro key held
    rcases settling.keeps key held with member | rest
    · exact (dropped key member).imp_right .inl
    · exact .inr rest

end CycleClaim.Settling

end Settling

/-! ## Cycles -/

namespace CycleClaim

variable (claim : CycleClaim)

/-- The contacts under some keys are left to be released. -/
def left (keys : List Nat) : Circumstance claim.cycling where
  holds pending store session :=
    (∀ change ∈ pending, change.TakesNoClaim) ∧ claim.Settling keys store session.writes
  stable holds beside := ⟨holds.1, holds.2.of_beside beside⟩

/-- The release of a contact waits for a flush. -/
def releasing
    (key : Nat)
    (keys : List Nat) : Circumstance claim.cycling where
  holds pending store session :=
    (∃ now, releases key now ∈ pending) ∧
      (claim.left (key :: keys)).holds pending store session
  stable holds beside := ⟨holds.1, (claim.left (key :: keys)).stable holds.2 beside⟩

/-- After a commit only the contacts under some keys carry the claim. -/
def only (keys : List Nat) : Circumstance claim.cycling where
  holds pending store session :=
    (claim.left keys).holds pending store session ∧ ∀ key, claim.Held store key → key ∈ keys
  stable holds beside :=
    ⟨(claim.left keys).stable holds.1 beside, fun key held => holds.2 key (beside.held key held)⟩

/-- No contact carries the claim. -/
def absent : Circumstance claim.cycling where
  holds _ store _ := ∀ key, ¬claim.Held store key
  stable free beside key held := free key (beside.held key held)

variable {claim} {keys : List Nat} {key : Nat} {contact : Contact}
variable {deployment : Deployment} {workerId : String} {locked : List Nat}

/-- What takes no claim and ends no transaction settles nothing. -/
theorem leads_tending
    {Value : Type}
    {program : Program Value}
    (heeds : Heeds tending program) :
    Leads (claim.left keys) program (fun _ => claim.left keys) fun _ => claim.left keys := by
  refine .confined heeds not_false (fun _ _ _ holds => holds.1) ?_ ?_
  · intro pending store session value waiting made aborted holds _ claimless within _
    exact ⟨claimless, holds.2.append within⟩
  · intro pending store session failure waiting made aborted holds claimless within _
    exact ⟨claimless, holds.2.append within⟩

theorem leads_assignRelease :
    Leads (claim.left (key :: keys)) (assign key contact releasePatch)
      (fun _ => claim.releasing key keys) fun _ => .top := by
  have reads : Leads (claim.left (key :: keys)) utcnow
      (fun _ => claim.left (key :: keys)) fun _ => .top := .ask fun _ _ _ _ => id
  refine .bind reads fun now => ?_
  have stages : Leads (claim.left (key :: keys)) (stage (releases key now))
      (fun _ => claim.releasing key keys) fun _ => .top := by
    refine .stage fun pending store session holds => ⟨⟨now, ?_⟩, ?_, holds.2⟩
    · exact List.mem_append_right _ (List.mem_singleton_self _)
    · intro change member
      rcases List.mem_append.mp member with earlier | here
      · exact holds.1 change earlier
      · obtain rfl := List.mem_singleton.mp here
        exact (rfl : releasePatch.takesNoClaim = true)
  exact .bind stages fun _ => .pure fun _ _ _ => id

theorem leads_releaseClaim :
    Leads (claim.left (key :: keys)) (releaseClaim key contact) (fun _ => claim.left keys)
      fun _ => .top := by
  refine .bind leads_assignRelease fun _ => .flush ?_ ?_ ?_ ?_
  · rintro store session ⟨⟨now, released⟩, -⟩
    exact (List.not_mem_nil released).elim
  · rintro pending store session view after ⟨⟨now, released⟩, claimless, settling⟩ - - -
    refine ⟨fun _ member => (List.not_mem_nil member).elim, ?_⟩
    exact settling.release
      (fun change member => claimless change (mem_unitOfWork.mp member))
      (mem_unitOfWork.mpr released)
  · exact fun _ _ _ _ _ => trivial
  · exact fun _ _ _ _ => trivial

theorem leads_flush :
    Leads (claim.left keys) flush (fun _ => claim.left keys) fun _ => claim.left keys := by
  refine .flush (fun _ _ => id) ?_ (fun _ _ _ holds _ => holds) fun _ _ _ holds => holds
  intro pending store session view after holds _ _ _
  refine ⟨fun _ member => (List.not_mem_nil member).elim, holds.2.append ?_⟩
  exact fun change member => holds.1 change (mem_unitOfWork.mp member)

theorem leads_commit :
    Leads (claim.left keys) commit (fun _ => claim.only keys) fun _ => claim.left keys := by
  refine .bind leads_flush fun _ => .commitTransaction ?_ ?_
  · intro pending store session result holds considered applied
    obtain ⟨settled, only⟩ := holds.2.commit considered applied
    exact ⟨⟨⟨holds.1, settled⟩, only⟩, holds.1, settled⟩
  · exact fun pending store session holds considered => ⟨holds.1, holds.2.forget considered⟩

theorem leads_rollback
    {raises : Failure → Circumstance claim.cycling} :
    Leads (claim.left keys) rollback (fun _ => claim.left keys) raises :=
  .rollback fun _ _ _ holds considered =>
    ⟨fun _ member => (List.not_mem_nil member).elim, holds.2.forget considered⟩

theorem leads_claimDueContacts
    {status : ContactStatus}
    {limit : Nat} :
    Leads (claim.only []) (claimDueContacts deployment workerId status locked limit)
      claim.only fun _ => .top := by
  have reads : Leads (claim.only []) utcnow (fun _ => claim.only []) fun _ => .top :=
    .ask fun _ _ _ _ => id
  refine .bind reads fun now => .execute ?_ (fun _ _ _ _ _ _ _ => trivial) fun _ _ _ _ => trivial
  intro pending store session view after holds _ seen _
  refine ⟨⟨holds.1.1, holds.1.2.claimed ?_ ?_ ?_⟩, fun key held => ?_⟩
  · intro key member
    obtain ⟨contact, found⟩ := exists_of_mem_claimedContacts member
    exact holds.1.2.stored_of_seen seen found
  · intro row member
    obtain ⟨key, -, same⟩ := List.mem_map.mp member
    cases same
  · intro key patch member
    obtain ⟨other, taken, same⟩ := List.mem_map.mp member
    cases same
    exact taken
  · exact (List.not_mem_nil (holds.2 key held)).elim

/-- The claimed contacts of active campaigns are left to be released. -/
theorem leads_reloadActive :
    Leads (claim.only keys) (query (reloadActive keys))
      (fun due => claim.left (due.map Prod.fst)) fun _ => .top :=
  .query (fun _ _ _ _ holds _ seen => ⟨holds.1.1, holds.1.2.reloaded seen⟩)
    fun _ _ _ _ => trivial

theorem leads_recoverExpiredClaims :
    Leads (claim.only keys) (recoverExpiredClaims deployment) (fun _ => claim.only keys)
      fun _ => .top := by
  have heeds : Heeds tending (recoverExpiredClaims deployment) := plain_recoverExpiredClaims
  refine .confined heeds not_false (fun _ _ _ holds => holds.1.1) ?_
    fun _ _ _ _ _ _ _ _ _ _ _ => trivial
  intro pending store session value waiting made aborted holds _ claimless within _
  exact ⟨⟨claimless, holds.1.2.append within⟩, holds.2⟩

theorem leads_loadContact :
    Leads (claim.left keys) (loadContact key) (fun _ => claim.left keys) fun _ => .top :=
  (leads_tending (Confined.loadContact key)).weaken (fun _ _ _ _ => id)
    fun _ _ _ _ _ => trivial

/-- With nobody left to be released, a commit leaves no claim. -/
theorem leads_finalCommit :
    Leads (claim.left []) commit (fun _ => claim.absent) fun _ => .top := by
  refine leads_commit.weaken (fun _ _ _ _ holds key held => ?_) fun _ _ _ _ _ => trivial
  exact (List.not_mem_nil (holds.2 key held)).elim

theorem leads_dispatchNewContact :
    Leads (claim.left (key :: keys)) (dispatchNewContact deployment key contact)
      (fun _ => claim.left keys) fun _ => .top := by
  refine .ensuring ?_ leads_releaseClaim
  have sends : Leads (claim.left (key :: keys))
      (do let _ ← sendInitialOutreach deployment key contact; commit)
      (fun _ => claim.left (key :: keys)) fun _ => claim.left (key :: keys) := by
    refine .bind (leads_tending plain_sendInitialOutreach) fun _ => ?_
    exact leads_commit.weaken (fun _ _ _ _ holds => holds.1) fun _ _ _ _ => id
  have tries : Leads (claim.left (key :: keys))
      (attempt do let _ ← sendInitialOutreach deployment key contact; commit)
      (fun _ => claim.left (key :: keys)) fun _ => claim.left (key :: keys) :=
    .attempt sends
  refine .bind tries fun processed => ?_
  cases processed with
  | ok _ => exact .pure fun _ _ _ => id
  | error failure => exact leads_rollback

theorem leads_dispatchNewContacts {due : List (Nat × Contact)} :
    Leads (claim.left (due.map Prod.fst)) (dispatchNewContacts deployment due)
      (fun _ => claim.left []) fun _ => .top := by
  cases due with
  | nil => exact .pure fun _ _ _ => id
  | cons first rest =>
      refine .bind leads_dispatchNewContact fun _ => ?_
      refine .forEach (fun items => claim.left (items.map Prod.fst)) fun ⟨other, stale⟩ _ => ?_
      exact .bind leads_loadContact fun _ => leads_dispatchNewContact

theorem leads_sessionScope
    {program : Program Unit}
    (settles : Leads (claim.only []) program (fun _ => claim.left []) fun _ => .top) :
    Leads (claim.only []) (sessionScope program) (fun _ => claim.absent) fun _ => .top := by
  have commits : Leads (claim.only []) (do let value ← program; commit; pure value)
      (fun _ => claim.absent) fun _ => .top :=
    .bind settles fun _ => .bind leads_finalCommit fun _ => .pure fun _ _ _ => id
  exact commits.sessionScope fun _ _ _ _ => id

theorem leads_dispatchNewContactsJob :
    Leads (claim.only []) (dispatchNewContactsJob deployment workerId locked)
      (fun _ => claim.absent) fun _ => .top := by
  refine leads_sessionScope (.bind leads_recoverExpiredClaims fun _ =>
    .bind leads_claimDueContacts fun claimed => ?_)
  refine .ite (fun noneThere => ?_) fun _ => .bind leads_reloadActive fun due =>
    leads_dispatchNewContacts
  rw [List.isEmpty_iff.mp noneThere]
  exact .pure fun _ _ _ holds => holds.1

theorem leads_runFollowupCycle :
    Leads (claim.only []) (runFollowupCycle deployment workerId locked)
      (fun _ => claim.absent) fun _ => .top := by
  refine .bind leads_recoverExpiredClaims fun _ => .bind leads_claimDueContacts fun claimed => ?_
  refine .ite (fun noneThere => ?_) fun _ => .bind leads_reloadActive fun due => ?_
  · rw [List.isEmpty_iff.mp noneThere]
    exact .pure fun _ _ _ holds key held => List.not_mem_nil (holds.2 key held)
  · refine .bind (.forEach (fun items => claim.left (items.map Prod.fst))
      fun ⟨key, contact⟩ _ => ?_) fun _ => leads_finalCommit
    exact .ensuring (.bind (.attempt (leads_tending (plain_sendFollowupIfDue fun _ _ => id)))
      fun _ => .pure fun _ _ _ => id) leads_releaseClaim

end CycleClaim

/-- In every run of a cycle among others that ends normally, in which no transaction with a
claim on a contact of an inactive campaign is committed and no rollback or failing commit takes the release
of a claimed contact back: no contact carries the claim of the cycle. -/
theorem cycles_leave_no_claim
    (deployment : Deployment)
    (workerId : String)
    (locked : List Nat)
    (claimedAt : Instant)
    (before : Database)
    (wellFormed : before.WellFormed)
    (fresh : ∀ key, ¬CycleClaim.Held ⟨workerId, claimedAt⟩ before key) :
    (∀ after final waiting,
      Served (CycleClaim.cycling ⟨workerId, claimedAt⟩) before {}
        (dispatchNewContactsJob deployment workerId locked []) after final (.ok (), waiting) →
      ∀ key, ¬CycleClaim.Held ⟨workerId, claimedAt⟩ after key) ∧
    ∀ after final waiting,
      Served (CycleClaim.cycling ⟨workerId, claimedAt⟩) before {}
        (runFollowupCycle deployment workerId locked []) after final (.ok (), waiting) →
      ∀ key, ¬CycleClaim.Held ⟨workerId, claimedAt⟩ after key := by
  have start : (CycleClaim.only ⟨workerId, claimedAt⟩ []).holds [] before {} :=
    ⟨⟨fun _ member => (List.not_mem_nil member).elim, .start wellFormed fresh⟩,
      fun key held => (fresh key held).elim⟩
  constructor
  · intro after final waiting served
    exact CycleClaim.leads_dispatchNewContactsJob [] before {} after final (.ok ()) waiting
      start served
  · intro after final waiting served
    exact CycleClaim.leads_runFollowupCycle [] before {} after final (.ok ()) waiting
      start served

namespace Sample

/-- Two contacts of a campaign are due. -/
def twoDue : List Action :=
  perform 0 (.createCampaign "acme" campaign) answer 3 ++
    perform 1 (.ingestLeads "acme" 0 twoLeads) answer 9 ++
    perform 2 (.startCampaign "acme" 0) answer 8

/-- A contact to whom the first message was sent. -/
def oneSent : List Action :=
  perform 0 (.createCampaign "acme" shortCadence) answer 3 ++ outreach "p@x.test"

/-- The draft for the second contact fails. -/
def draftsFirst : (signal : Signal) → signal.Reply
  | .draftMessage 1 _ => .raised "TimeoutError"
  | signal => answer signal

/-- The first campaign is switched off. -/
def switchedOff (database : Database) : Database :=
  database.modifyCampaign 0 fun row => { row with isActive := false }

/-- A cycle of the worker `w`. -/
def cycle (program : Program Unit) : Thread Database Change Signal Signal.Reply
    (Except Failure Unit × List Change) :=
  ⟨program [], {}⟩

/-- A cycle that has ended normally. -/
def endedNormally
    (done : Thread Database Change Signal Signal.Reply
      (Except Failure Unit × List Change)) : Bool :=
  done.finished.any fun result => result.1.toOption.isSome

/-- A contact that carries a claim. -/
def anyClaimed
    (claim : CycleClaim)
    (database : Database) : Bool :=
  database.contacts.existsWhere fun contact => decide (claim.On contact)

theorem exists_endedNormally
    {done : Thread Database Change Signal Signal.Reply (Except Failure Unit × List Change)}
    (ended : endedNormally done = true) :
    ∃ waiting, done.finished = some (.ok (), waiting) := by
  obtain ⟨⟨result, waiting⟩, finished, normal⟩ := (Option.any_eq_true _ _).mp ended
  cases result with
  | error failure => cases normal
  | ok value => exact ⟨waiting, finished⟩

theorem not_held_of_anyClaimed
    {claim : CycleClaim}
    {database : Database}
    (noneThere : anyClaimed claim database = false)
    (key : Nat) :
    ¬claim.Held database key := by
  rintro ⟨contact, found, on⟩
  exact of_decide_eq_false (Table.existsWhere_eq_false noneThere found) on

theorem exists_held_of_anyClaimed
    {claim : CycleClaim}
    {database : Database}
    (someClaimed : anyClaimed claim database = true) :
    ∃ key, claim.Held database key := by
  obtain ⟨key, contact, found, on⟩ := (Table.existsWhere_iff _ _).mp someClaimed
  exact ⟨key, contact, found, of_decide_eq_true on⟩

theorem considers_alongside
    {Value : Type}
    (claim : CycleClaim)
    (database : Database)
    (thread : Thread Database Change Signal Signal.Reply Value)
    (stimulus : Stimulus Signal Signal.Reply)
    (_ : anyStep database thread stimulus = true) :
    Served.Considers claim.alongside database thread stimulus := by
  unfold Served.Considers
  split <;> trivial

/-- A step that commits a transaction without claims on contacts of inactive campaigns, or
gives up one without changes. -/
def tidy
    {Value : Type}
    (claim : CycleClaim)
    (database : Database)
    (thread : Thread Database Change Signal Signal.Reply Value)
    (stimulus : Stimulus Signal Signal.Reply) : Bool :=
  match thread.process with
  | .commit _ =>
      (thread.session.landing Change.apply database stimulus.commit).isSome &&
        (List.range database.contacts.size).all fun key =>
          (database.contacts.get key).all fun contact =>
            !(decide (claim.On (inSession thread.session.writes key contact)) &&
              (database.campaignOf contact).any fun campaign => !campaign.isActive)
  | .rollback _ => thread.session.writes.isEmpty
  | _ => true

theorem considers_tidy
    {Value : Type}
    (claim : CycleClaim)
    (database : Database)
    (thread : Thread Database Change Signal Signal.Reply Value)
    (stimulus : Stimulus Signal Signal.Reply)
    (considered : tidy claim database thread stimulus = true) :
    Served.Considers claim.cycling database thread stimulus := by
  unfold Served.Considers
  unfold tidy at considered
  split
  · trivial
  · next next process =>
      rw [process] at considered
      obtain ⟨lands, clear⟩ := Bool.and_eq_true_iff.mp considered
      obtain ⟨result, landed⟩ := Option.isSome_iff_exists.mp lands
      change claim.Closes database thread.session
        (thread.session.landing Change.apply database stimulus.commit)
      rw [landed]
      rintro key ⟨contact, found, on⟩ ⟨same, campaign, foundSame, chosen, inactive⟩
      obtain rfl := Option.some.inj (found.symm.trans foundSame)
      have free := List.all_eq_true.mp clear key (List.mem_range.mpr (Table.lt_size_of_get found))
      rw [found, Option.all_some, chosen, decide_eq_true on, Option.any_some, inactive] at free
      cases free
  · next next process =>
      rw [process] at considered
      rintro ⟨key, now, -, released⟩
      rw [List.isEmpty_iff.mp considered] at released
      exact List.not_mem_nil released
  · trivial

end Sample

/-- The first contact is sent to and released, and the draft for the second one fails: the
rollback takes the release back, and the first contact keeps the claim that was committed.
And the due contact of a campaign that was switched off is claimed and never released. -/
theorem cycles_leave_claims :
    (∃ before after final waiting, (system Sample.deployment).Reachable before ∧
      (∀ key, ¬CycleClaim.Held ⟨"w", 0⟩ before.database key) ∧
      Served (CycleClaim.alongside ⟨"w", 0⟩) before.database {}
        (dispatchNewContactsJob Sample.deployment "w" [] []) after final (.ok (), waiting) ∧
      ∃ key, CycleClaim.Held ⟨"w", 0⟩ after key) ∧
    ∃ before after final waiting, (system Sample.deployment).Reachable before ∧
      (∀ key, ¬CycleClaim.Held ⟨"w", 4 * day⟩ (Sample.switchedOff before.database) key) ∧
      Served (CycleClaim.alongside ⟨"w", 4 * day⟩) (Sample.switchedOff before.database) {}
        (runFollowupCycle Sample.deployment "w" [] []) after final (.ok (), waiting) ∧
      ∃ key, CycleClaim.Held ⟨"w", 4 * day⟩ after key := by
  constructor
  · obtain ⟨before, reachable, holds⟩ := reachable_of_any Sample.deployment Sample.twoDue
      (fun before => !Sample.anyClaimed ⟨"w", 0⟩ before.database &&
        ((Sample.cycle (dispatchNewContactsJob Sample.deployment "w" [])).steps Change.apply
          Sample.anyStep before.database
          (List.replicate 33 { answer := Sample.draftsFirst })).any fun (after, done) =>
            Sample.endedNormally done && Sample.anyClaimed ⟨"w", 0⟩ after)
      (by decide +kernel)
    obtain ⟨free, ran⟩ := Bool.and_eq_true_iff.mp holds
    obtain ⟨⟨after, done⟩, stepped, checked⟩ := (Option.any_eq_true _ _).mp ran
    obtain ⟨ended, claimed⟩ := Bool.and_eq_true_iff.mp checked
    obtain ⟨waiting, finished⟩ := Sample.exists_endedNormally ended
    exact ⟨before, after, done.session, waiting, reachable,
      Sample.not_held_of_anyClaimed ((Bool.not_eq_true' _).mp free),
      Served.of_finished (Sample.considers_alongside _) stepped finished,
      Sample.exists_held_of_anyClaimed claimed⟩
  · obtain ⟨before, reachable, holds⟩ := reachable_of_any Sample.deployment Sample.oneSent
      (fun before => !Sample.anyClaimed ⟨"w", 4 * day⟩ (Sample.switchedOff before.database) &&
        ((Sample.cycle (runFollowupCycle Sample.deployment "w" [])).steps Change.apply
          Sample.anyStep (Sample.switchedOff before.database)
          (List.replicate 6 { answer := Sample.onDay 4 "second" })).any fun (after, done) =>
            Sample.endedNormally done && Sample.anyClaimed ⟨"w", 4 * day⟩ after)
      (by decide +kernel)
    obtain ⟨free, ran⟩ := Bool.and_eq_true_iff.mp holds
    obtain ⟨⟨after, done⟩, stepped, checked⟩ := (Option.any_eq_true _ _).mp ran
    obtain ⟨ended, claimed⟩ := Bool.and_eq_true_iff.mp checked
    obtain ⟨waiting, finished⟩ := Sample.exists_endedNormally ended
    exact ⟨before, after, done.session, waiting, reachable,
      Sample.not_held_of_anyClaimed ((Bool.not_eq_true' _).mp free),
      Served.of_finished (Sample.considers_alongside _) stepped finished,
      Sample.exists_held_of_anyClaimed claimed⟩

/-- When both contacts are sent to, both are released. -/
theorem cycle_leaves_no_claim_of_two :
    ∃ before after, (system Sample.deployment).Reachable before ∧
      before.database.contacts.size = 2 ∧ ∀ key, ¬CycleClaim.Held ⟨"w", 0⟩ after key := by
  obtain ⟨before, reachable, holds⟩ := reachable_of_any Sample.deployment Sample.twoDue
    (fun before => before.database.contacts.size == 2 &&
      (!Sample.anyClaimed ⟨"w", 0⟩ before.database &&
        ((Sample.cycle (dispatchNewContactsJob Sample.deployment "w" [])).steps Change.apply
          (Sample.tidy ⟨"w", 0⟩) before.database
          (List.replicate 27 Sample.works ++
            List.replicate 15 { answer := Sample.onDay 0 "second" })).any fun (_, done) =>
            Sample.endedNormally done))
    (by decide +kernel)
  obtain ⟨size, run⟩ := Bool.and_eq_true_iff.mp holds
  obtain ⟨free, ran⟩ := Bool.and_eq_true_iff.mp run
  obtain ⟨⟨after, done⟩, stepped, ended⟩ := (Option.any_eq_true _ _).mp ran
  obtain ⟨waiting, finished⟩ := Sample.exists_endedNormally ended
  refine ⟨before, after, reachable, beq_iff_eq.mp size, ?_⟩
  exact (cycles_leave_no_claim Sample.deployment "w" [] 0 before.database
    (Invariant.of_reachable reachable).current.consistent.toWellFormed
    (Sample.not_held_of_anyClaimed ((Bool.not_eq_true' _).mp free))).1 after done.session waiting
      (Served.of_finished (Sample.considers_tidy _) stepped finished)

end MailerAgent
