import MailerAgent.Native.InboundSafety

/-!
# Polling keeps the contract

A message is durable when its handler has returned: the row it found is stored, or
the row it inserted is part of the transaction that was committed. The drain loop
deals with every message that the server offered, whatever happens to the others.
-/

namespace MailerAgent
namespace Native

open Concurrent Relational Mail Program

/-! ## Durability of a handled message -/

/-- The row of a message received through a mailbox, for a contact of the
organization. -/
def Receives
    (database : Database)
    (mailboxId : Nat)
    (organizationId identity : String)
    (message : Message) : Prop :=
  message.direction = .inbound ∧ message.mailboxId = some mailboxId ∧
    message.messageIdHeader = some identity ∧
    ∃ email, KnownContact database message.contactId email (some organizationId)

/-- The row of a retained message. -/
def Retains
    (mailboxId : Nat)
    (organizationId identity : String)
    (row : UnmatchedInboundMessage) : Prop :=
  row.mailboxId = mailboxId ∧ row.messageIdHeader = identity ∧
    row.organizationId = organizationId

theorem Receives.of_same
    {database : Database}
    {mailboxId : Nat}
    {organizationId identity : String}
    {message current : Message}
    (receives : Receives database mailboxId organizationId identity message)
    (same : Message.SameMail message current) :
    Receives database mailboxId organizationId identity current := by
  obtain ⟨inbound, through, header, known⟩ := receives
  obtain ⟨contact, direction, mailbox, identified⟩ := same
  refine ⟨direction.trans inbound, mailbox.trans through, identified.trans header, ?_⟩
  rw [contact]
  exact known

theorem Receives.of_extends
    {before after : Database}
    {mailboxId : Nat}
    {organizationId identity : String}
    {message : Message}
    (receives : Receives before mailboxId organizationId identity message)
    (extended : before.Extends after) :
    Receives after mailboxId organizationId identity message := by
  obtain ⟨inbound, through, header, email, known⟩ := receives
  exact ⟨inbound, through, header, email, known.of_extends extended⟩

theorem Retains.of_same
    {mailboxId : Nat}
    {organizationId identity : String}
    {row current : UnmatchedInboundMessage}
    (retains : Retains mailboxId organizationId identity row)
    (same : UnmatchedInboundMessage.SameMail row current) :
    Retains mailboxId organizationId identity current :=
  ⟨same.1.trans retains.1, same.2.1.trans retains.2.1, same.2.2.trans retains.2.2⟩

/-- The message is stored, or the transaction inserts it. -/
inductive Recorded
    (mailboxId : Nat)
    (organizationId identity : String)
    (database : Database)
    (writes : List Change) : Prop where
  | received (key : Nat) (message : Message)
      (found : database.messages.get key = some message)
      (receives : Receives database mailboxId organizationId identity message)
  | inserted (message : Message)
      (written : .insertMessage message ∈ writes)
      (receives : Receives database mailboxId organizationId identity message)
  | retained (key : Nat) (row : UnmatchedInboundMessage)
      (found : database.unmatched.get key = some row)
      (retains : Retains mailboxId organizationId identity row)
  | retaining (row : UnmatchedInboundMessage)
      (written : .insertUnmatched row ∈ writes)
      (retains : Retains mailboxId organizationId identity row)

section Durability

variable {mailboxId : Nat} {organizationId identity : String}
variable {database after : Database} {writes more : List Change}

theorem Recorded.mono
    (recorded : Recorded mailboxId organizationId identity database writes)
    (extended : database.Extends after)
    (included : ∀ change ∈ writes, change ∈ more) :
    Recorded mailboxId organizationId identity after more := by
  cases recorded with
  | received key message found receives =>
      obtain ⟨current, foundCurrent, keeps⟩ := extended.messages key message found
      refine .received key current foundCurrent ((receives.of_extends extended).of_same ?_)
      exact ⟨keeps.contactId, keeps.direction, keeps.mailboxId, keeps.identity receives.1⟩
  | inserted message written receives =>
      exact .inserted message (included _ written) (receives.of_extends extended)
  | retained key row found retains =>
      obtain ⟨current, foundCurrent, same⟩ := extended.unmatched key row found
      exact .retained key current foundCurrent (retains.of_same same)
  | retaining row written retains => exact .retaining row (included _ written) retains

/-- A committed transaction makes the message durable. -/
theorem Recorded.durable
    {mailbox : Mailbox}
    (recorded : Recorded mailboxId organizationId identity database writes)
    (plain : ∀ change ∈ writes, change.ordinary)
    (applied : applyAll Change.apply database writes = some after)
    (extended : database.Extends after)
    (polled : database.mailboxes.get mailboxId = some mailbox)
    (owner : mailbox.organizationId = organizationId) :
    Durable after mailboxId identity := by
  have stored : Recorded mailboxId organizationId identity after [] := by
    cases recorded with
    | received key message found receives =>
        exact Recorded.mono (.received key message found receives) extended fun _ => id
    | inserted message written receives =>
        obtain ⟨key, current, found, same⟩ :=
          tracks_messages.get_inserted plain applied written rfl
        exact .received key current found ((receives.of_extends extended).of_same same)
    | retained key row found retains =>
        exact Recorded.mono (.retained key row found retains) extended fun _ => id
    | retaining row written retains =>
        obtain ⟨key, current, found, same⟩ :=
          tracks_unmatched.get_inserted (fun _ _ => trivial) applied written rfl
        exact .retained key current found (retains.of_same same)
  obtain ⟨kept, foundKept, same⟩ := extended.mailboxes mailboxId mailbox polled
  have owned : kept.organizationId = organizationId := Eq.trans same owner
  refine ⟨kept, foundKept, ?_⟩
  rw [owned]
  cases stored with
  | received key message found receives =>
      obtain ⟨inbound, through, header, known⟩ := receives
      exact .inl ⟨key, message, found, inbound, through, header, known⟩
  | inserted message written _ => cases written
  | retained key row found retains => exact .inr ⟨key, row, found, retains⟩
  | retaining row written _ => cases written

end Durability

/-! ## One message -/

/-- The fact that a message is stored or part of the transaction. -/
def recorded
    (mailboxId : Nat)
    (organizationId identity : String) : Fact where
  holds known := Recorded mailboxId organizationId identity known.base known.writes
  grows step known := known.mono step.later.extended fun _ member => step.writes.subset member

/-- The fact that a contact belongs to an organization. -/
def member
    (organizationId : String)
    (key : Nat) : Fact :=
  .stored (fun database => ∃ email, KnownContact database key email (some organizationId))
    fun extended ⟨email, known⟩ => ⟨email, known.of_extends extended⟩

section Handling

variable {fact : Fact} {deployment : Deployment} {mailboxId : Nat}
variable {organizationId identity : String} {email : InboundEmail}

/-- A contact that the view shows in an organization is a member of it. -/
theorem member_of_view
    {known : Knowing}
    {view : Database}
    {key : Nat}
    {contact : Contact}
    (sees : Sees true known view)
    (found : view.contacts.get key = some contact)
    (owner : view.organizationOf contact = some organizationId) :
    (member organizationId key).holds known := by
  have person := (sees.person found).knownContact sees.current.consistent.toWellFormed
  have organization : view.organizationOf contact = known.base.organizationOf contact := by
    unfold Database.organizationOf Database.campaignOf
    rw [sees.sameParties.campaigns]
  rw [← organization, owner] at person
  exact ⟨contact.email, person⟩

theorem member_of_inOrganization
    {known : Knowing}
    {view : Database}
    {message : Message}
    (sees : Sees true known view)
    (visible : inOrganization view (some organizationId) message = true) :
    (member organizationId message.contactId).holds known := by
  simp only [inOrganization, Option.all_some, Option.any_eq_true, beq_iff_eq] at visible
  obtain ⟨contact, found, owner⟩ := visible
  exact member_of_view sees found owner

theorem recorded_of_view
    {known : Knowing}
    {view : Database}
    {key : Nat}
    {message : Message}
    (sees : Sees true known view)
    (found : view.messages.get key = some message)
    (inbound : isInboundMessage view mailboxId organizationId identity message = true) :
    (recorded mailboxId organizationId identity).holds known := by
  simp only [isInboundMessage, Bool.and_eq_true, beq_iff_eq] at inbound
  obtain ⟨⟨⟨through, header⟩, direction⟩, visible⟩ := inbound
  obtain ⟨address, contact⟩ := member_of_inOrganization sees visible
  have receives : Receives known.base mailboxId organizationId identity message :=
    ⟨direction, through, header, address, contact⟩
  rcases tracks_messages.origin (sees.people rfl) sees.seen found with
    ⟨old, stored, same⟩ | ⟨change, written, fresh, inserted, same⟩
  · exact .received key old stored (receives.of_same
      ⟨same.1.symm, same.2.1.symm, same.2.2.1.symm, same.2.2.2.symm⟩)
  · have original : Receives known.base mailboxId organizationId identity fresh :=
      receives.of_same ⟨same.1.symm, same.2.1.symm, same.2.2.1.symm, same.2.2.2.symm⟩
    cases change with
    | insertMessage row =>
        obtain rfl := Option.some.inj inserted
        exact .inserted row written original
    | _ => cases inserted

/-- The message was received before. -/
def receivedBefore
    (mailboxId : Nat)
    (organizationId identity : String) : Option Message → Fact
  | some _ => recorded mailboxId organizationId identity
  | none => .top

theorem keeps_findInboundMessage :
    Keeps true fact (query (findInboundMessage mailboxId organizationId identity))
      (receivedBefore mailboxId organizationId identity) := by
  refine keeps_query ?_
  intro known view sees _
  cases found : findInboundMessage mailboxId organizationId identity view with
  | none => trivial
  | some message =>
      obtain ⟨key, first, present⟩ := Option.bind_eq_some_iff.mp found
      obtain ⟨same, foundSame, matching⟩ := Table.firstWhere_eq_some first
      exact recorded_of_view sees foundSame matching

/-! ### Correlation -/

/-- The correlated contact belongs to the organization. -/
def correlated (organizationId : String) : Except UnmatchedReason Nat → Fact
  | .ok key => member organizationId key
  | .error _ => .top

/-- Every contact of a list belongs to the organization. -/
def members
    (organizationId : String)
    (keys : List Nat) : Fact :=
  .stored
    (fun database => ∀ key ∈ keys, ∃ email,
      KnownContact database key email (some organizationId))
    (by
      intro before after extended known key present
      obtain ⟨email, contact⟩ := known key present
      exact ⟨email, contact.of_extends extended⟩)

theorem keeps_referredMessages :
    Keeps true fact (query (referredMessages organizationId email)) fun referred =>
      members organizationId (referred.map fun entry => entry.2.contactId) := by
  refine keeps_query ?_
  intro known view sees _ contactId present
  obtain ⟨⟨key, message⟩, listed, rfl⟩ := List.mem_map.mp present
  obtain ⟨position, selected, same⟩ := List.mem_filterMap.mp listed
  obtain ⟨row, found, equal⟩ := Option.map_eq_some_iff.mp same
  obtain ⟨rfl, rfl⟩ := Prod.mk.inj equal
  obtain ⟨stored, foundStored, matching⟩ := (Table.mem_keysWhere _ _ _).mp selected
  obtain rfl : stored = row := Option.some.inj (foundStored.symm.trans found)
  simp only [Bool.and_eq_true] at matching
  exact member_of_inOrganization sees matching.2

theorem keeps_eligibleContacts {referred : List (Nat × Message)} :
    Keeps true fact (eligibleContacts mailboxId organizationId referred) fun eligible =>
      .always (∀ key ∈ eligible, key ∈ referred.map fun entry => entry.2.contactId) := by
  induction referred with
  | nil => exact keeps_pure fun _ _ key present => by cases present
  | cons entry rest inductionHypothesis =>
      have collects : ∀ eligible : Bool, Keeps true fact
          (do
            let others ← eligibleContacts mailboxId organizationId rest
            pure (if eligible then entry.2.contactId :: others else others))
          fun result => .always (∀ key ∈ result,
            key ∈ (entry :: rest).map fun entry => entry.2.contactId) := by
        intro eligible
        refine inductionHypothesis.bindValue fun others included => ?_
        refine keeps_pure fun _ _ key present => ?_
        cases eligible with
        | false => exact List.mem_cons_of_mem _ (included key present)
        | true =>
            rcases List.mem_cons.mp present with rfl | other
            · exact List.mem_cons_self
            · exact List.mem_cons_of_mem _ (included key other)
      refine Keeps.ite (fun _ => collects _) fun _ => ?_
      exact (keeps_query fun _ _ _ _ => trivial).andThen fun _ => collects _

theorem keeps_contactsBySender
    {services : Services}
    {address : String} :
    Keeps true fact (query (contactsBySender services organizationId address))
      (members organizationId) := by
  refine keeps_query ?_
  intro known view sees _ key present
  obtain ⟨contact, found, matching⟩ := (Table.mem_keysWhere _ _ _).mp present
  simp only [Bool.and_eq_true, beq_iff_eq] at matching
  exact member_of_view sees found matching.1.1

theorem keeps_correlateMailboxInbound :
    Keeps true fact (correlateMailboxInbound deployment mailboxId organizationId email)
      (correlated organizationId) := by
  have continues : ∀ referred : List (Nat × Message), Keeps true
      (fact.and (members organizationId (referred.map fun entry => entry.2.contactId)))
      (correlateReferred deployment mailboxId organizationId email referred)
      (correlated organizationId) := by
    intro referred
    refine keeps_eligibleContacts.bindValue fun threads included => ?_
    split
    · next only sole =>
        refine keeps_pure fun known holds => ?_
        have listed : only ∈ threads := by
          rw [← List.mem_eraseDups, sole]
          exact List.mem_cons_self
        exact holds.2 only (included only listed)
    · exact keeps_pure fun _ _ => trivial
    · refine Keeps.ite (fun _ => keeps_pure fun _ _ => trivial) fun _ => ?_
      refine keeps_contactsBySender.bind fun senders => keeps_pure fun known holds => ?_
      rcases senders with _ | ⟨only, _ | ⟨second, rest⟩⟩
      · trivial
      · exact holds.2 only List.mem_cons_self
      · trivial
  rw [correlateMailboxInbound_eq]
  refine Keeps.ite (fun _ => ?_) fun _ => keeps_referredMessages.bind continues
  refine Keeps.bind ?_ continues
  exact keeps_pure fun _ _ key present => by cases present

/-! ### Storage -/

/-- The insertion of a correlated message: the row is new, or it is already there. -/
theorem keeps_insertCorrelatedMessage
    {key : Nat}
    {createdAt : Instant}
    {reference : String}
    (polled : ∀ known, fact.holds known → OwnMailbox known.base mailboxId organizationId)
    (belongs : ∀ known, fact.holds known → (member organizationId key).holds known) :
    Keeps true fact
      (insertCorrelatedMessage mailboxId organizationId identity
        (inboundMessage key (some mailboxId) (some identity) email createdAt reference))
      fun _ => recorded mailboxId organizationId identity := by
  let row := inboundMessage key (some mailboxId) (some identity) email createdAt reference
  have inserts : Keeps true fact
      (execute
        (fun view =>
          if view.messages.clashes Message.mailboxIdentity row then []
          else [.insertMessage row])
        (fun view => view.messages.clashes Message.mailboxIdentity row))
      fun taken => if taken then .top else recorded mailboxId organizationId identity := by
    refine keeps_execute ?_ ?_
    · intro known view _ holds change written
      split at written
      · cases written
      · rw [List.mem_singleton.mp written]
        refine ⟨fun _ => trivial, permitted_inboundMessage ?_⟩
        rintro mailbox ⟨⟩
        obtain ⟨address, contact⟩ := belongs known holds
        exact ⟨address, organizationId, polled known holds, contact⟩
    · intro known view sees holds
      cases view.messages.clashes Message.mailboxIdentity row with
      | true => trivial
      | false =>
          obtain ⟨address, contact⟩ := belongs known holds
          exact .inserted row (List.mem_append_right _ List.mem_cons_self)
            ⟨rfl, rfl, rfl, address, contact⟩
  refine inserts.bind fun taken => ?_
  cases taken with
  | true =>
      refine keeps_findInboundMessage.bind fun existing => ?_
      cases existing with
      | some message => exact keeps_pure fun _ holds => holds.2
      | none => exact keeps_raise
  | false =>
      refine (keeps_query fun _ _ _ _ => trivial).andThen fun _ => ?_
      exact keeps_pure fun _ holds => holds.2

/-- A message that is not attached to a contact is retained. -/
theorem keeps_retainUnmatched
    {row : UnmatchedInboundMessage}
    (polled : ∀ known, fact.holds known →
      OwnMailbox known.base row.mailboxId row.organizationId) :
    Keeps true fact (retainUnmatched row) fun _ =>
      recorded row.mailboxId row.organizationId row.messageIdHeader := by
  have inserts : Keeps true fact
      (execute
        (fun view =>
          if view.unmatched.clashes UnmatchedInboundMessage.mailboxIdentity row then []
          else [.insertUnmatched row])
        (fun _ => ()))
      fun _ => .top := by
    refine keeps_execute ?_ fun _ _ _ _ => trivial
    intro known view _ holds change written
    split at written
    · cases written
    · rw [List.mem_singleton.mp written]
      exact ⟨fun _ => trivial, polled known holds⟩
  have confirms : Keeps true fact
      (query (retainedRowExists row.mailboxId row.organizationId row.messageIdHeader))
      fun retained => if retained then
        recorded row.mailboxId row.organizationId row.messageIdHeader else .top := by
    refine keeps_query ?_
    intro known view sees _
    cases present : retainedRowExists row.mailboxId row.organizationId row.messageIdHeader
        view with
    | false => trivial
    | true =>
        obtain ⟨position, stored, found, matching⟩ :=
          (Table.existsWhere_iff _ _).mp present
        simp only [Bool.and_eq_true, beq_iff_eq] at matching
        have retains : Retains row.mailboxId row.organizationId row.messageIdHeader stored :=
          ⟨matching.1.1, matching.1.2, matching.2⟩
        rcases tracks_unmatched.origin (fun _ _ => trivial) sees.seen found with
          ⟨old, foundOld, same⟩ | ⟨change, written, fresh, inserted, same⟩
        · exact .retained position old foundOld
            (retains.of_same ⟨same.1.symm, same.2.1.symm, same.2.2.symm⟩)
        · cases change with
          | insertUnmatched inserting =>
              obtain rfl := Option.some.inj inserted
              exact .retaining inserting written
                (retains.of_same ⟨same.1.symm, same.2.1.symm, same.2.2.symm⟩)
          | _ => cases inserted
  refine inserts.andThen fun _ => confirms.bind fun retained => ?_
  cases retained with
  | true => exact keeps_pure fun _ holds => holds.2
  | false => exact keeps_raise

theorem keeps_storeCorrelated
    {key : Nat}
    (timeless : fact.Timeless)
    (polled : ∀ known, fact.holds known → OwnMailbox known.base mailboxId organizationId)
    (belongs : ∀ known, fact.holds known → (member organizationId key).holds known) :
    Keeps true fact
      (storeCorrelated deployment mailboxId organizationId identity email key)
      fun _ => recorded mailboxId organizationId identity := by
  refine keeps_loadContact.bind fun loaded => ?_
  refine keeps_required.bindValue fun contact present => ?_
  refine keeps_loadCampaign.bind fun campaign => ?_
  refine Keeps.askThen trivial fun reference => ?_
  refine keeps_utcnow.andThen fun createdAt => ?_
  refine Keeps.bind (keeps_insertCorrelatedMessage ?_ ?_) fun existing => ?_
  · exact fun known holds => polled known holds.1.1
  · exact fun known holds => belongs known holds.1.1
  cases existing with
  | some message => exact keeps_pure fun _ holds => holds.2
  | none =>
      refine keeps_utcnow.andThen fun now => ?_
      have resolves : ∀ current : Fact, Keeps true current
          (resolveRetainedCopy mailboxId identity now) fun _ => .top := by
        intro current
        refine keeps_execute ?_ fun _ _ _ _ => trivial
        intro _ _ _ _ change written
        split at written
        · rw [List.mem_singleton.mp written]
          exact ⟨fun _ => trivial, trivial⟩
        · exact (List.not_mem_nil written).elim
      refine (resolves _).andThen fun _ => ?_
      have kept : (((fact.and (loadedPerson key loaded)).and
          (loadedCampaign contact campaign)).and
          (recorded mailboxId organizationId identity)).Timeless :=
        ((timeless.and (loadedPerson_settled key loaded).timeless).and
          (loadedCampaign_settled contact campaign).timeless).and fun _ _ => id
      refine (keeps_classifyAndApplyInbound kept ?_ ?_).andThen fun action => ?_
      · exact fun known holds => holds.1.1.2 contact present
      · exact fun known holds => holds.1.2
      · exact keeps_pure fun _ holds => holds.2

/-- The fact that a received message is stored or part of the transaction. -/
def handled
    (mailboxId : Nat)
    (organizationId : String)
    (received : InboundEmail) : Fact where
  holds known := ∃ identity, inboundIdentity received.normalized = some identity ∧
    Recorded mailboxId organizationId identity known.base known.writes
  grows step := fun ⟨identity, named, known⟩ =>
    ⟨identity, named, (recorded mailboxId organizationId identity).grows step known⟩

theorem keeps_processMailboxInbound
    {received : InboundEmail}
    (timeless : fact.Timeless)
    (polled : ∀ known, fact.holds known → OwnMailbox known.base mailboxId organizationId) :
    Keeps true fact
      (processMailboxInbound deployment mailboxId organizationId received)
      fun _ => handled mailboxId organizationId received := by
  unfold processMailboxInbound
  cases named : inboundIdentity received.normalized with
  | none =>
      simp only [named]
      exact keeps_raise
  | some identity =>
      simp only [named]
      have established : ∀ known,
          (recorded mailboxId organizationId identity).holds known →
          (handled mailboxId organizationId received).holds known :=
        fun known recorded => ⟨identity, named, recorded⟩
      refine keeps_findInboundMessage.bind fun existing => ?_
      cases existing with
      | some message => exact keeps_pure fun known holds => established known holds.2
      | none =>
          refine keeps_correlateMailboxInbound.bind fun result => ?_
          cases result with
          | error reason =>
              refine Keeps.bind (keeps_retainUnmatched ?_) fun _ => ?_
              · exact fun known holds => polled known holds.1.1
              · exact keeps_pure fun known holds => established known holds.2
          | ok key =>
              have kept : ((fact.and .top).and (member organizationId key)).Timeless :=
                (timeless.and Fact.settled_top.timeless).and fun _ _ => id
              refine (keeps_storeCorrelated kept (fun known holds => polled known holds.1.1)
                fun _ holds => holds.2).weaken ?_
              exact fun _ known _ recorded => established known recorded

end Handling

/-! ## One mailbox -/

/-- The target of a poll is a stored mailbox with its organization. -/
def Polled
    (target : MailboxImapTarget)
    (database : Database) : Prop :=
  OwnMailbox database target.mailboxId target.organizationId

theorem Polled.of_extends
    {target : MailboxImapTarget}
    {before after : Database}
    (polled : Polled target before)
    (extended : before.Extends after) :
    Polled target after :=
  OwnMailbox.of_extends polled extended

/-- The fact that a target is polled. -/
def polling (target : MailboxImapTarget) : Fact :=
  .stored (Polled target) fun extended polled => polled.of_extends extended

theorem polling_settled (target : MailboxImapTarget) : (polling target).Settled :=
  Fact.settled_of_base fun _ _ same ⟨mailbox, found, owner⟩ =>
    ⟨mailbox, same ▸ found, owner⟩

/-- The fact that a received message is durable. -/
def durable
    (mailboxId : Nat)
    (received : InboundEmail) : Fact :=
  .stored
    (fun database => ∃ identity, inboundIdentity received.normalized = some identity ∧
      Durable database mailboxId identity)
    fun extended ⟨identity, named, stored⟩ => ⟨identity, named, stored.of_extends extended⟩

section Polling

variable {fact : Fact} {deployment : Deployment} {target : MailboxImapTarget}
variable {email : InboundEmail}

/-- The commit of a handled message. -/
theorem keeps_processAndCommit
    (settled : fact.Settled)
    (polled : ∀ known, fact.holds known → Polled target known.base) :
    Keeps true fact
      (do
        let result ← processMailboxInbound deployment target.mailboxId
          target.organizationId email
        commit
        pure result)
      fun _ => durable target.mailboxId email := by
  intro pending known steady holds
  refine runs_bind.mpr
    ((keeps_processMailboxInbound settled.timeless polled pending known steady holds).mono ?_)
  rintro result pending after ⟨steady, holds, established⟩
  cases result with
  | error failure => exact ⟨steady, holds, nofun⟩
  | ok value =>
      refine runs_bind.mpr (runs_commit steady ?_ ?_)
      · intro failure waiting last steady later ghost _
        exact ⟨steady, settled.lasting after last later ghost holds, nofun⟩
      · intro store committed unaborted later bound applied
        have last := later.trans bound
        refine ⟨steady.ended last, settled.lasting after _ last rfl holds, ?_⟩
        intro _ _
        obtain ⟨identity, named, recorded⟩ := established value rfl
        obtain ⟨mailbox, found, owner⟩ := (polled after holds).of_extends later.extended
        have included : ∀ change ∈ after.writes, change ∈ after.writes ++ unitOfWork pending :=
          fun _ => List.mem_append_left _
        refine ⟨identity, named, (recorded.mono later.extended included).durable ?_ applied
          bound.extended found owner⟩
        intro change member
        refine steady.people unaborted rfl change (List.mem_append.mpr ?_)
        exact (List.mem_append.mp member).imp_right mem_unitOfWork.mp

theorem durable_settled
    (mailboxId : Nat)
    (received : InboundEmail) :
    (durable mailboxId received).Settled :=
  Fact.settled_of_base fun _ _ same ⟨identity, named, stored⟩ =>
    ⟨identity, named, same ▸ stored⟩

/-- The handler returns only when the message is durable. -/
theorem keeps_persistInbound
    (settled : fact.Settled)
    (polled : ∀ known, fact.holds known → Polled target known.base) :
    Keeps true fact (persistInbound deployment target email)
      fun _ => durable target.mailboxId email := by
  refine keeps_session ?_ settled.lasting fun _ => (durable_settled _ _).lasting
  refine (keeps_processAndCommit settled polled).attempt.bind fun result => ?_
  cases result with
  | ok value => exact keeps_pure fun _ holds => holds.2
  | error failure =>
      exact (keeps_rollback (settled.lasting.and Fact.lasting_top)).andThen
        fun _ => keeps_raise

/-! ### The drain loop -/

/-- What is observed of a connection. -/
def watching
    (connection : Option Nat)
    (outstanding : List Nat)
    (current : Option (Nat × Option InboundEmail)) : Fact where
  holds known := known.ghost.connection = connection ∧
    known.ghost.outstanding = outstanding ∧ known.ghost.current = current
  grows step watched := by
    rw [step.ghost]
    exact watched

theorem watching_settled
    (connection : Option Nat)
    (outstanding : List Nat)
    (current : Option (Nat × Option InboundEmail)) :
    (watching connection outstanding current).Settled where
  lasting before after _ ghost watched := by
    obtain ⟨first, second, third⟩ := watched
    rw [← ghost] at first second third
    exact ⟨first, second, third⟩
  timeless _ _ := id

/-- A session in the drain loop of a mailbox. -/
structure Draining
    (target : MailboxImapTarget)
    (outstanding : List Nat)
    (current : Option (Nat × Option InboundEmail))
    (pending : List Change)
    (known : Knowing) : Prop where
  steady : Steady true pending known
  polled : Polled target known.base
  watched : (watching (some target.mailboxId) outstanding current).holds known

variable {outstanding : List Nat} {current : Option (Nat × Option InboundEmail)}
variable {pending : List Change} {known : Knowing} {store : Database}

/-- After an interaction with the server. -/
theorem Draining.asked
    {observed : Observed}
    {remaining : List Nat}
    {next : Option (Nat × Option InboundEmail)}
    (draining : Draining target outstanding current pending known)
    (later : Later known.base store)
    (since : observed.since = known.ghost.since)
    (watched : observed.connection = known.ghost.connection ∧
      observed.outstanding = remaining ∧ observed.current = next) :
    Draining target remaining next pending
      { known with base := store, ghost := observed } where
  steady :=
    { draining.steady.later later with
      since := since ▸ draining.steady.since.trans later.extended }
  polled := draining.polled.of_extends later.extended
  watched := ⟨watched.1.trans draining.watched.1, watched.2⟩

/-- The handler of a drain loop. -/
theorem Draining.handle
    {fetched : Nat}
    (draining : Draining target outstanding (some (fetched, some email)) pending known) :
    Runs (persistInbound deployment target email)
      (fun result pending after =>
        Draining target outstanding (some (fetched, some email)) pending after ∧
          ∀ value, result = .ok value → (durable target.mailboxId email).holds after)
      pending known := by
  have settled : ((polling target).and (watching (some target.mailboxId) outstanding
      (some (fetched, some email)))).Settled :=
    (polling_settled target).and (watching_settled _ _ _)
  refine (keeps_persistInbound settled (fun _ holds => holds.1) pending known
    draining.steady ⟨draining.polled, draining.watched⟩).mono ?_
  rintro result pending after ⟨steady, holds, established⟩
  exact ⟨⟨steady, holds.1, holds.2⟩, established⟩

/-- Fetching and handling a message. -/
theorem Draining.fetch
    {uid : Nat}
    (draining : Draining target outstanding none pending known) :
    Runs (fetchAndHandle (persistInbound deployment target) uid)
      (fun result pending after =>
        (∃ fetched, Draining target (outstanding.filter fun other => other != uid)
          (some (uid, fetched)) pending after) ∧
        ∀ email, result = .ok email →
          Draining target (outstanding.filter fun other => other != uid)
            (some (uid, some email)) pending after ∧
          (durable target.mailboxId email).holds after)
      pending known := by
  refine runs_ask.mpr fun store later => ⟨draining.watched.2.2, fun reply => ?_⟩
  have fetched : Draining target (outstanding.filter fun other => other != uid)
      (some (uid, fetchedEmail reply)) pending
      { known with
        base := store
        ghost := observe known.ghost store (.fetch uid) reply } := by
    refine draining.asked later rfl ⟨rfl, ?_, rfl⟩
    rw [← draining.watched.2.1]
    rfl
  cases reply with
  | ok email =>
      change Runs (persistInbound deployment target email >>= fun _ => pure email) _ _ _
      refine runs_bind.mpr (fetched.handle.mono ?_)
      rintro result pending after ⟨draining, established⟩
      cases result with
      | error failure => exact ⟨⟨_, draining⟩, nofun⟩
      | ok value =>
          refine ⟨⟨_, draining⟩, ?_⟩
          rintro _ ⟨⟩
          exact ⟨draining, established value rfl⟩
  | refused => exact ⟨⟨_, fetched⟩, nofun⟩
  | raised name => exact ⟨⟨_, fetched⟩, nofun⟩

/-- One message of the loop: whatever happened, it was dealt with. -/
theorem Draining.message
    {uid : Nat}
    (draining : Draining target outstanding none pending known) :
    Runs (drainMessage target.mailboxId (persistInbound deployment target) uid)
      (fun result pending after => (∃ seen, result = .ok seen) ∧
        Draining target (outstanding.filter fun other => other != uid) none pending after)
      pending known := by
  refine runs_bind.mpr (runs_attempt.mpr (draining.fetch.mono ?_))
  rintro result pending after ⟨⟨fetched, draining⟩, established⟩
  cases result with
  | error failure =>
      refine runs_ask.mpr fun store later => ⟨⟨fetched, draining.watched.2.2⟩, fun _ => ?_⟩
      exact ⟨⟨false, rfl⟩, draining.asked later rfl ⟨rfl, draining.watched.2.1, rfl⟩⟩
  | ok email =>
      obtain ⟨draining, stored⟩ := established email rfl
      refine runs_ask.mpr fun store later => ⟨?_, fun reply => ?_⟩
      · obtain ⟨identity, named, present⟩ := stored
        exact ⟨draining.watched.1, draining.watched.2.2, identity, named,
          present.of_extends later.extended⟩
      · have asked : Draining target (outstanding.filter fun other => other != uid) none pending
            { after with
              base := store
              ghost := observe after.ghost store
                (.storeSeen target.mailboxId uid email) reply } :=
          draining.asked later rfl ⟨rfl, draining.watched.2.1, rfl⟩
        cases reply with
        | ok _ => exact ⟨⟨true, rfl⟩, asked⟩
        | refused => exact ⟨⟨false, rfl⟩, asked⟩
        | raised name => exact ⟨⟨false, rfl⟩, asked⟩

/-- The whole loop: nothing that was offered is left over. -/
theorem Draining.messages
    {uids : List Nat}
    {stats : DrainStats}
    (draining : Draining target outstanding none pending known)
    (offered : ∀ uid ∈ outstanding, uid ∈ uids) :
    Runs (drainMessages target.mailboxId (persistInbound deployment target) uids stats)
      (fun result pending after => (∃ stats, result = .ok stats) ∧
        Draining target [] none pending after)
      pending known := by
  induction uids generalizing outstanding pending known stats with
  | nil =>
      obtain rfl : outstanding = [] :=
        List.eq_nil_iff_forall_not_mem.mpr fun uid waiting => by cases offered uid waiting
      exact ⟨⟨stats, rfl⟩, draining⟩
  | cons uid rest inductionHypothesis =>
      refine runs_bind.mpr (draining.message.mono ?_)
      rintro _ pending after ⟨⟨seen, rfl⟩, draining⟩
      refine inductionHypothesis draining fun other waiting => ?_
      obtain ⟨before, different⟩ := List.mem_filter.mp waiting
      rcases List.mem_cons.mp (offered other before) with rfl | later
      · simp at different
      · exact later

/-! ### The poll -/

/-- The fact that nothing that a server offered waits. -/
def idling : Fact where
  holds known := known.ghost.idle
  grows step idle := by
    rw [step.ghost]
    exact idle

theorem idling_settled : idling.Settled where
  lasting _ _ _ ghost idle := by
    obtain ⟨first, second⟩ := idle
    rw [← ghost] at first second
    exact ⟨first, second⟩
  timeless _ _ := id

/-- The end of a drain loop, or of an attempt to start one. -/
def Rested
    (target : MailboxImapTarget)
    (pending : List Change)
    (known : Knowing) : Prop :=
  Steady true pending known ∧ known.ghost.idle ∧ Polled target known.base

theorem Draining.rested
    (draining : Draining target [] none pending known) :
    Rested target pending known :=
  ⟨draining.steady, ⟨draining.watched.2.1, draining.watched.2.2⟩, draining.polled⟩

/-- The search of a connection and the loop over what it offers. -/
theorem Draining.search
    (draining : Draining target [] none pending known) :
    Runs (do
        let uids ← ofExcept (imapValue "ImapPollError" (← ask .search))
        drainMessages target.mailboxId (persistInbound deployment target) uids {})
      (fun _ pending after => Rested target pending after) pending known := by
  refine runs_ask.mpr fun store later => ⟨draining.watched.2, fun reply => ?_⟩
  cases reply with
  | refused => exact (draining.asked later rfl ⟨rfl, draining.watched.2⟩).rested
  | raised name => exact (draining.asked later rfl ⟨rfl, draining.watched.2⟩).rested
  | ok uids =>
      have offered : Draining target uids none pending
          { known with
            base := store
            ghost := observe known.ghost store .search (.ok uids) } :=
        draining.asked later rfl ⟨rfl, rfl, draining.watched.2.2⟩
      change Runs (drainMessages target.mailboxId (persistInbound deployment target) uids {})
        _ _ _
      exact (offered.messages fun _ => id).mono fun _ _ _ ended => ended.2.rested

/-- `drain_unseen` of a connection. -/
theorem Draining.unseen
    (draining : Draining target [] none pending known) :
    Runs (drainUnseen target.mailboxId (persistInbound deployment target))
      (fun _ pending after => Rested target pending after) pending known := by
  refine runs_ask.mpr fun store later => ⟨trivial, fun reply => ?_⟩
  have selected : Draining target [] none pending
      { known with base := store, ghost := observe known.ghost store .select reply } :=
    draining.asked later rfl ⟨rfl, draining.watched.2⟩
  cases reply with
  | refused => exact selected.rested
  | raised name => exact selected.rested
  | ok _ => exact selected.search

theorem keeps_pollMailbox :
    Keeps true (idling.and (polling target)) (pollMailbox deployment target)
      fun _ => .top := by
  unfold pollMailbox
  split
  · rintro pending known steady ⟨idle, polled⟩
    have polls : Runs (do
          let _ ← ofExcept (imapValue "IMAP4.error" (← ask (.login target.mailboxId)))
          drainUnseen target.mailboxId (persistInbound deployment target))
        (fun _ pending after => Rested target pending after) pending known := by
      refine runs_ask.mpr fun store later => ⟨idle, fun reply => ?_⟩
      have connected : Draining target [] none pending
          { known with
            base := store
            ghost := observe known.ghost store (.login target.mailboxId) reply } :=
        ⟨{ steady.later later with }, polled.of_extends later.extended, rfl, idle⟩
      cases reply with
      | refused => exact connected.rested
      | raised name => exact connected.rested
      | ok _ => exact connected.unseen
    refine runs_bind.mpr (runs_attempt.mpr (polls.mono ?_))
    rintro result pending after ⟨steady, idle, polled⟩
    cases result with
    | ok stats => exact ⟨steady, ⟨idle, polled⟩, fun _ _ => trivial⟩
    | error failure => exact ⟨steady, ⟨idle, polled⟩, fun _ _ => trivial⟩
  · exact keeps_pure fun _ _ => trivial

/-- The fact that a loaded target, if any, is polled. -/
def loadedTarget : Option MailboxImapTarget → Fact
  | some target => polling target
  | none => .top

theorem keeps_loadPollableTarget
    {mailboxId : Nat}
    (settled : fact.Settled) :
    Keeps true fact (loadPollableTarget mailboxId) loadedTarget := by
  refine keeps_session (keeps_query ?_) settled.lasting ?_
  · intro known view sees _
    cases eligible : (view.mailboxes.get mailboxId).bind (pollableTarget mailboxId) with
    | none => trivial
    | some target =>
        obtain ⟨mailbox, found, chosen⟩ := Option.bind_eq_some_iff.mp eligible
        obtain ⟨same, owner⟩ := pollableTarget_owner chosen
        obtain ⟨stored, present, kept⟩ := sees.sameParties.mailboxes mailboxId mailbox found
        exact ⟨stored, same ▸ present, (Eq.symm kept).trans owner.symm⟩
  · intro loaded
    cases loaded with
    | none => exact Fact.lasting_top
    | some target => exact (polling_settled target).lasting

theorem keeps_pollListedMailbox {mailboxId : Nat} :
    Keeps true idling (pollListedMailbox deployment mailboxId) fun _ => .top := by
  have polls : Keeps true idling
      (pollIfEligible deployment mailboxId) fun _ => .top := by
    refine (keeps_loadPollableTarget idling_settled).bind fun loaded => ?_
    cases loaded with
    | none => exact keeps_pure fun _ _ => trivial
    | some target => exact keeps_pollMailbox
  refine polls.attempt.bind fun result => ?_
  cases result with
  | ok outcome => exact keeps_pure fun _ _ => trivial
  | error failure => exact keeps_pure fun _ _ => trivial

theorem keeps_pollAllMailboxesReport :
    Keeps true idling (pollAllMailboxesReport deployment) fun _ => .top := by
  have listed : ∀ ids, Keeps true idling (pollListedMailboxes deployment ids)
      fun _ => .top := by
    intro ids
    induction ids with
    | nil => exact keeps_pure fun _ _ => trivial
    | cons mailboxId rest inductionHypothesis =>
        refine keeps_pollListedMailbox.andThen fun outcome => ?_
        exact inductionHypothesis.andThen fun outcomes => keeps_pure fun _ _ => trivial
  have lists : Keeps true idling listPollableMailboxIds fun _ => .top :=
    keeps_session (keeps_query fun _ _ _ _ => trivial) idling_settled.lasting
      fun _ => Fact.lasting_top
  refine (lists.attempt.weaken fun _ _ _ _ => trivial).andThen fun result => ?_
  cases result with
  | error failure => exact keeps_pure fun _ _ => trivial
  | ok ids => exact (listed ids).andThen fun outcomes => keeps_pure fun _ _ => trivial

end Polling

end Native
end MailerAgent
