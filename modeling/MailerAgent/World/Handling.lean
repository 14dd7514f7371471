import MailerAgent.World.Coupling

/-!
# The handling of a message by a poll

`process_mailbox_inbound` and the loops around it honour the agreement of the polls: what
the lookups of a pair saw still holds when its transaction is committed.
-/

namespace MailerAgent

open Concurrent Relational Mail Native Program

variable {deployment : Deployment} {exclusive : Prop} {target : MailboxImapTarget}
variable {email : InboundEmail} {pair : Nat × String}

/-! ## Knowledge of a poll -/

/-- Connected to a mailbox. -/
structure Connected
    (target : MailboxImapTarget)
    (known : Knowing) : Prop where
  current : Later known.base known.base
  connection : known.ghost.connection = some target.mailboxId
  owner : OwnMailbox known.base target.mailboxId target.organizationId

/-- Connected, with a message that was fetched. -/
structure Handling
    (target : MailboxImapTarget)
    (email : InboundEmail)
    (known : Knowing) : Prop extends Connected target known where
  fetched : known.ghost.current.bind Prod.snd = some email

/-- Nothing is written, and only plain interactions are had. -/
def musing : Bounds Change Signal where
  writes _ := False
  asks := Signal.Plain
  transacts := False

/-- What no change to the transaction and no plain interaction can destroy. -/
theorem handling_stable
    {bounds : Bounds Change Signal}
    (asks : ∀ signal, bounds.asks signal →
    signal.Plain) :
    (coupling exclusive).Stable bounds (Handling target email) where
  others handling relied :=
    { current := relied.1.refl_right
      connection := handling.connection
      owner := handling.owner.of_extends relied.1.extended
      fetched := handling.fetched }
  aborts handling := ⟨⟨handling.current, handling.connection, handling.owner⟩, handling.fetched⟩
  grows handling _ :=
    ⟨⟨handling.current, handling.connection, handling.owner⟩, handling.fetched⟩
  asks := by
    intro known signal reply handling asked
    have plain := asks signal asked
    cases signal with
    | login | select | search | fetch | leftUnseen | storeSeen => exact plain.elim
    | _ =>
        exact ⟨⟨handling.current, handling.connection, handling.owner⟩, handling.fetched⟩

theorem handledMessage_observe
    {observed : Observed}
    {database : Database}
    {signal : Signal}
    (reply : signal.Reply)
    (plain : signal.Plain) :
    handledMessage (observe observed database signal reply) = handledMessage observed := by
  cases signal with
  | login | select | search | fetch | leftUnseen | storeSeen => exact plain.elim
  | _ => rfl

theorem Handling.handles
    {known : Knowing}
    {identity : String}
    (handling : Handling target email known)
    (named : inboundIdentity email.normalized = some identity) :
    handledMessage known.ghost = some (target.mailboxId, identity) := by
  unfold handledMessage
  rw [handling.connection, Option.bind_some, handling.fetched, Option.bind_some, named,
    Option.map_some]

/-- The lookup of a pair found nothing, and nothing is written yet. -/
structure Sought
    (exclusive : Prop)
    (pair : Nat × String)
    (known : Knowing) : Prop where
  handles : handledMessage known.ghost = some pair
  writes : known.writes = []
  unattached : exclusive → ¬Attached known.base pair

theorem sought_stable : (coupling exclusive).Stable musing (Sought exclusive pair) where
  others sought relied :=
    ⟨sought.handles, sought.writes, fun holds attached =>
      sought.unattached holds ((relied.2 holds pair sought.handles).1 attached)⟩
  aborts sought := ⟨sought.handles, sought.writes, sought.unattached⟩
  grows := by
    intro known writes sought nothing
    refine ⟨sought.handles, ?_, sought.unattached⟩
    rw [show writes = [] from List.eq_nil_iff_forall_not_mem.mpr nothing]
    simp only [Knowledge.extend, sought.writes, List.append_nil]
  asks reply sought plain :=
    ⟨(handledMessage_observe reply plain).trans sought.handles, sought.writes,
      sought.unattached⟩

/-- Plain changes and plain interactions. -/
def plainly : Bounds Change Signal :=
  withPlain { writes := fun _ => False, asks := fun _ => False, transacts := False }

instance : Admits plainly :=
  inferInstanceAs (Admits (withPlain _))

theorem storing_stable : (coupling exclusive).Stable plainly (Storing exclusive pair) where
  others := Storing.others
  aborts storing := ⟨storing.handles, storing.writes⟩
  grows storing plain := storing.extend fun change member =>
    (plain change member).resolve_right id
  asks reply storing plain :=
    ⟨(handledMessage_observe reply (plain.resolve_right id)).trans storing.handles,
      storing.writes⟩

/-! ## One message -/

/-- Before a message is handled, or its lookup found nothing. -/
def seeking
    (exclusive : Prop)
    (target : MailboxImapTarget)
    (email : InboundEmail)
    (pair : Nat × String) : Situation :=
  fun pending known =>
    (∀ change ∈ pending, musing.writes change) ∧
      Handling target email known ∧ Sought exclusive pair known

/-- The transaction may be committed. -/
def storing
    (exclusive : Prop)
    (target : MailboxImapTarget)
    (email : InboundEmail)
    (pair : Nat × String) : Situation :=
  fun pending known =>
    (∀ change ∈ pending, plainly.writes change) ∧
      Handling target email known ∧ Storing exclusive pair known

/-- A transaction may be committed after a normal return. -/
def settling
    (exclusive : Prop)
    (target : MailboxImapTarget)
    (email : InboundEmail)
    (pair : Nat × String)
    {Value : Type} : Ending Value
  | .ok _ => storing exclusive target email pair
  | .error _ => fun _ known => Handling target email known

/-- A program that only reads, after the lookup. -/
theorem abides_musing
    {Value : Type}
    {program : Program Value}
    {ensures : Value → Prop}
    (confined : program.Confined musing ensures) :
    Abides (coupling exclusive) (seeking exclusive target email pair) program
      fun result pending known => seeking exclusive target email pair pending known ∧
        ∀ value, result = .ok value → ensures value := by
  refine (Abides.of_confined ((handling_stable fun _ => id).and sought_stable) id
    confined).weaken ?_
  rintro result pending known ⟨within, ⟨handling, sought⟩, ends⟩
  exact ⟨⟨within, handling, sought⟩, ends⟩

theorem confined_musing
    {signal : Signal}
    (plain : signal.Plain) :
    Confined musing (ask signal) fun _ => True :=
  Confined.ask plain fun _ => trivial

/-- A program that only makes plain changes, once the pair is written. -/
theorem abides_plainly
    {Value : Type}
    {program : Program Value}
    (confined : program.Confined plainly fun _ => True) :
    Abides (coupling exclusive) (storing exclusive target email pair) program
      fun _ => storing exclusive target email pair := by
  refine (Abides.of_confined ((handling_stable fun _ asked => Or.resolve_right asked id).and
    storing_stable) id confined).weaken ?_
  rintro result pending known ⟨within, ⟨handling, storing⟩, -⟩
  exact ⟨within, handling, storing⟩

section Message

variable {identity : String} {key : Nat}

/-- A pair that a poll may write without more. -/
theorem Sought.nothing
    {known : Knowing}
    (sought : Sought exclusive pair known) :
    Storing exclusive pair known :=
  ⟨sought.handles, [], [], sought.writes, .nothing,
    fun _ member => (List.not_mem_nil member).elim⟩

/-- The first writes after the lookup. -/
theorem Sought.write
    {known : Knowing}
    {store : Database}
    {changes : List Change}
    (sought : Sought exclusive pair known)
    (relied : (coupling exclusive).rely known.ghost known.writes known.base store)
    (opens : (exclusive → ¬Attached store pair) → Opening exclusive pair store changes) :
    Storing exclusive pair (known.extend store changes) := by
  have reached := sought_stable.others sought relied
  refine ⟨sought.handles, changes, [], ?_, opens reached.unattached,
    fun _ member => (List.not_mem_nil member).elim⟩
  simp only [Knowledge.extend, sought.writes, List.nil_append, List.append_nil]

/-- A message of a mailbox belongs to the contact of the mailbox's organization. -/
theorem isInboundMessage_of_attached
    {database : Database}
    {key : Nat}
    {message : Message}
    (later : Later database database)
    (owner : OwnMailbox database target.mailboxId target.organizationId)
    (found : database.messages.get key = some message)
    (identified : message.mailboxIdentity = some (target.mailboxId, identity)) :
    isInboundMessage database target.mailboxId target.organizationId identity message =
      true := by
  obtain ⟨through, header⟩ := mailboxIdentity_eq_some.mp identified
  obtain ⟨inbound, mailbox, contact, foundMailbox, foundContact, belongs⟩ :=
    later.inbox.delivered key message _ found through
  obtain ⟨same, foundSame, organization⟩ := owner
  obtain rfl : mailbox = same := Option.some.inj (foundMailbox.symm.trans foundSame)
  unfold isInboundMessage inOrganization
  simp [through, header, inbound, foundContact, belongs, organization]

theorem settling_of_storing
    {Value : Type}
    {result : Except Failure Value}
    {pending : List Change}
    {known : Knowing}
    (stores : storing exclusive target email pair pending known) :
    settling exclusive target email pair result pending known := by
  cases result with
  | ok value => exact stores
  | error failure => exact stores.2.1

theorem Handling.abort
    {known : Knowing}
    {store : Database}
    (handling : Handling target email known)
    (relied : (coupling exclusive).rely known.ghost known.writes known.base store) :
    Handling target email (known.abort store) :=
  have stable := @handling_stable exclusive target email musing fun _ => id
  stable.aborts (stable.others handling relied)

theorem Handling.extend
    {known : Knowing}
    {store : Database}
    (handling : Handling target email known)
    (relied : (coupling exclusive).rely known.ghost known.writes known.base store)
    (changes : List Change) :
    Handling target email (known.extend store changes) :=
  ⟨⟨relied.1.refl_right, handling.connection, handling.owner.of_extends relied.1.extended⟩,
    handling.fetched⟩

/-- Before anything is looked up. -/
def fetchedMessage
    (target : MailboxImapTarget)
    (email : InboundEmail) : Situation :=
  fun pending known => pending = [] ∧ known.writes = [] ∧ Handling target email known

/-- The end of the lookup of a pair. -/
def lookedUp
    (exclusive : Prop)
    (target : MailboxImapTarget)
    (email : InboundEmail)
    (pair : Nat × String) : Ending (Option Message)
  | .ok (some _) => storing exclusive target email pair
  | .ok none => seeking exclusive target email pair
  | .error _ => fun _ known => Handling target email known

theorem abides_findInboundMessage
    (named : inboundIdentity email.normalized = some identity) :
    Abides (coupling exclusive) (fetchedMessage target email)
      (query (findInboundMessage target.mailboxId target.organizationId identity))
      (lookedUp exclusive target email (target.mailboxId, identity)) := by
  refine Abides.query ?_ ?_
  · rintro failure pending known store ⟨-, -, handling⟩ relied
    exact handling.abort relied
  · rintro pending known store view ⟨rfl, writes, handling⟩ relied seen
    rw [writes] at seen
    obtain rfl : store = view := Option.some.inj seen
    have handling :=
      (@handling_stable exclusive target email musing fun _ => id).others handling relied
    have handles := handling.handles named
    cases found : findInboundMessage target.mailboxId target.organizationId identity store with
    | some existing =>
        exact ⟨fun _ member => (List.not_mem_nil member).elim, handling, handles, [], [],
          writes, .nothing, fun _ member => (List.not_mem_nil member).elim⟩
    | none =>
        refine ⟨fun _ member => (List.not_mem_nil member).elim, handling, handles, writes, ?_⟩
        rintro - ⟨key, message, stored, -, identified⟩
        have shown := isInboundMessage_of_attached handling.current handling.owner stored
          identified
        unfold findInboundMessage at found
        cases first : store.messages.firstWhere (isInboundMessage store target.mailboxId
            target.organizationId identity) with
        | none =>
            rw [Table.firstWhere_eq_none.mp first key message stored] at shown
            cases shown
        | some chosen =>
            obtain ⟨row, foundRow, -⟩ := Table.firstWhere_eq_some first
            rw [first, Option.bind_some, foundRow] at found
            cases found

theorem abides_retainUnmatched
    {row : UnmatchedInboundMessage}
    (identified : row.mailboxIdentity = some pair)
    (unresolved : row.resolvedAt = none) :
    Abides (coupling exclusive) (seeking exclusive target email pair) (retainUnmatched row)
      (settling exclusive target email pair) := by
  have inserts : Abides (coupling exclusive) (seeking exclusive target email pair)
      (execute
        (fun view =>
          if view.unmatched.clashes UnmatchedInboundMessage.mailboxIdentity row then []
          else [.insertUnmatched row])
        (fun _ => ()))
      (settling exclusive target email pair) := by
    refine Abides.execute ?_ ?_
    · rintro failure pending known store ⟨-, handling, -⟩ relied
      exact handling.abort relied
    · rintro pending known store view ⟨within, handling, sought⟩ relied -
      refine ⟨fun change member => (within change member).elim, handling.extend relied _,
        sought.write relied fun unattached => ?_⟩
      split
      · exact .nothing
      · exact .retained identified unresolved unattached
  refine inserts.bind (fun _ => ?_) fun _ _ _ ends => ends
  have looks : Abides (coupling exclusive) (storing exclusive target email pair)
      (query (retainedRowExists row.mailboxId row.organizationId row.messageIdHeader))
      (settling exclusive target email pair) :=
    (abides_plainly Confined.look).weaken fun _ _ _ => settling_of_storing
  refine looks.bind (fun retained => ?_) fun _ _ _ ends => ends
  exact Abides.ite (fun _ => Abides.pure fun _ _ => id)
    fun _ => Abides.raise fun _ _ stores => stores.2.1

/-! ### A correlated message -/

/-- The message is inserted, and the retained copy is not yet looked up. -/
structure Inserted
    (pair : Nat × String)
    (row : Message)
    (known : Knowing) : Prop where
  handles : handledMessage known.ghost = some pair
  writes : known.writes = [.insertMessage row]

theorem inserted_stable {row : Message} :
    (coupling exclusive).Stable musing (Inserted pair row) where
  others inserted _ := ⟨inserted.handles, inserted.writes⟩
  aborts inserted := ⟨inserted.handles, inserted.writes⟩
  grows := by
    intro known writes inserted nothing
    refine ⟨inserted.handles, ?_⟩
    rw [show writes = [] from List.eq_nil_iff_forall_not_mem.mpr nothing]
    simp only [Knowledge.extend, inserted.writes, List.append_nil]
  asks reply inserted plain :=
    ⟨(handledMessage_observe reply plain).trans inserted.handles, inserted.writes⟩

/-- The message is inserted. -/
def inserting
    (target : MailboxImapTarget)
    (email : InboundEmail)
    (pair : Nat × String)
    (row : Message) : Situation :=
  fun pending known =>
    (∀ change ∈ pending, musing.writes change) ∧
      Handling target email known ∧ Inserted pair row known

theorem abides_inserting
    {Value : Type}
    {row : Message}
    {program : Program Value}
    (confined : program.Confined musing fun _ => True) :
    Abides (coupling exclusive) (inserting target email pair row) program
      fun _ => inserting target email pair row := by
  refine (Abides.of_confined ((handling_stable fun _ => id).and inserted_stable) id
    confined).weaken ?_
  rintro result pending known ⟨within, ⟨handling, inserted⟩, -⟩
  exact ⟨within, handling, inserted⟩

/-- The end of the insertion of a message; the value is a copy that was there. -/
def insertedOr
    (exclusive : Prop)
    (target : MailboxImapTarget)
    (email : InboundEmail)
    (pair : Nat × String)
    (row : Message) : Ending (Option Message)
  | .ok (some _) => storing exclusive target email pair
  | .ok none => inserting target email pair row
  | .error _ => fun _ known => Handling target email known

theorem abides_insertCorrelatedMessage {row : Message} :
    Abides (coupling exclusive) (seeking exclusive target email pair)
      (insertCorrelatedMessage target.mailboxId target.organizationId identity row)
      (insertedOr exclusive target email pair row) := by
  have inserts : Abides (coupling exclusive) (seeking exclusive target email pair)
      (execute
        (fun view =>
          if view.messages.clashes Message.mailboxIdentity row then []
          else [.insertMessage row])
        (fun view => view.messages.clashes Message.mailboxIdentity row))
      (fun
        | .ok true => storing exclusive target email pair
        | .ok false => inserting target email pair row
        | .error _ => fun _ known => Handling target email known) := by
    refine Abides.execute ?_ ?_
    · rintro failure pending known store ⟨-, handling, -⟩ relied
      exact handling.abort relied
    · rintro pending known store view ⟨within, handling, sought⟩ relied -
      cases view.messages.clashes Message.mailboxIdentity row with
      | true =>
          exact ⟨fun change member => (within change member).elim, handling.extend relied _,
            sought.write relied fun _ => .nothing⟩
      | false =>
          refine ⟨within, handling.extend relied _, sought.handles, ?_⟩
          exact congrArg (· ++ [Change.insertMessage row]) sought.writes
  refine inserts.bind (fun taken => ?_) fun _ _ _ ends => ends
  cases taken with
  | true =>
      have looks : Abides (coupling exclusive) (storing exclusive target email pair)
          (query (findInboundMessage target.mailboxId target.organizationId identity))
          (fun _ => storing exclusive target email pair) :=
        abides_plainly Confined.look
      refine looks.bind (fun found => ?_) fun _ _ _ stores => stores.2.1
      cases found with
      | some existing => exact Abides.pure fun _ _ => id
      | none => exact Abides.raise fun _ _ stores => stores.2.1
  | false =>
      refine (abides_inserting Confined.look).bind (fun _ => ?_) fun _ _ _ ends => ends.2.1
      exact Abides.pure fun _ _ => id

/-- The statement that resolves the retained copy sees all that was committed before it. -/
theorem abides_resolveRetainedCopy
    {row : Message}
    {now : Instant}
    (inbound : row.direction = .inbound)
    (identified : row.mailboxIdentity = some pair) :
    Abides (coupling exclusive) (inserting target email pair row)
      (resolveRetainedCopy pair.1 pair.2 now)
      (settling exclusive target email pair) := by
  refine Abides.execute ?_ ?_
  · rintro failure pending known store ⟨-, handling, -⟩ relied
    exact handling.abort relied
  · rintro pending known store view ⟨within, handling, inserted⟩ relied seen
    refine ⟨fun change member => (within change member).elim, handling.extend relied _,
      inserted.handles, _, [], (List.append_nil _).symm, ?_,
      fun _ member => (List.not_mem_nil member).elim⟩
    simp only [Knowledge.extend, inserted.writes]
    split
    · exact .resolved now inbound identified
    · next nothing =>
        refine .attached identified fun _ => ?_
        rintro ⟨key, copy, stored, same, unset⟩
        rw [inserted.writes] at seen
        have kept : view.unmatched = store.unmatched := by
          refine applyAll_unmatched ?_ seen
          intro change member
          rw [List.mem_singleton.mp member]
          exact id
        refine nothing ((Table.existsWhere_iff _ _).mpr ⟨key, copy, kept ▸ stored, ?_⟩)
        obtain ⟨mailbox, header⟩ := Prod.mk.inj (Option.some.inj same)
        simp [mailbox, header, unset]

theorem abides_storeCorrelated :
    Abides (coupling exclusive)
      (seeking exclusive target email (target.mailboxId, identity))
      (storeCorrelated deployment target.mailboxId target.organizationId identity
        email.normalized key)
      (settling exclusive target email (target.mailboxId, identity)) := by
  refine (abides_musing (Confined.loadContact key)).bind (fun loaded => ?_)
    fun _ _ _ ends => ends.1.2.1
  refine Abides.strengthen ?_ fun _ _ ends => ends.1
  refine (abides_musing Confined.required).bind (fun contact => ?_) fun _ _ _ ends => ends.1.2.1
  refine Abides.strengthen ?_ fun _ _ ends => ends.1
  refine (abides_musing Confined.look).bind (fun campaign => ?_) fun _ _ _ ends => ends.1.2.1
  refine Abides.strengthen ?_ fun _ _ ends => ends.1
  refine (abides_musing (@confined_musing .newReference trivial)).bind (fun reference => ?_)
    fun _ _ _ ends => ends.1.2.1
  refine Abides.strengthen ?_ fun _ _ ends => ends.1
  refine (abides_musing (@confined_musing .utcnow trivial)).bind (fun createdAt => ?_)
    fun _ _ _ ends => ends.1.2.1
  refine Abides.strengthen ?_ fun _ _ ends => ends.1
  refine abides_insertCorrelatedMessage.bind (fun inserted => ?_) fun _ _ _ ends => ends
  cases inserted with
  | some existing => exact Abides.pure fun _ _ => id
  | none =>
      refine (abides_inserting (@confined_musing .utcnow trivial)).bind (fun now => ?_)
        fun _ _ _ ends => ends.2.1
      refine (abides_resolveRetainedCopy rfl rfl).bind (fun _ => ?_) fun _ _ _ ends => ends
      refine (abides_plainly plain_classifyAndApplyInbound).bind (fun action => ?_)
        fun _ _ _ ends => ends.2.1
      exact Abides.pure fun _ _ => id

/-- The end of the handling of a message, whatever its pair is. -/
def handledEnd
    (exclusive : Prop)
    (target : MailboxImapTarget)
    (email : InboundEmail)
    {Value : Type} : Ending Value
  | .ok _ => fun pending known => ∃ pair, storing exclusive target email pair pending known
  | .error _ => fun _ known => Handling target email known

theorem abides_processMailboxInbound :
    Abides (coupling exclusive) (fetchedMessage target email)
      (processMailboxInbound deployment target.mailboxId target.organizationId email)
      (handledEnd exclusive target email) := by
  unfold processMailboxInbound
  dsimp only
  split
  · exact Abides.raise fun _ _ fetched => fetched.2.2
  · next identity named =>
      have settles : ∀ {Value : Type} {program : Program Value} {before : Situation},
          Abides (coupling exclusive) before program
            (settling exclusive target email (target.mailboxId, identity)) →
          Abides (coupling exclusive) before program (handledEnd exclusive target email) := by
        intro Value program before abides
        refine abides.weaken fun result pending known ends => ?_
        cases result with
        | ok value => exact ⟨_, ends⟩
        | error failure => exact ends
      refine (abides_findInboundMessage named).bind (fun found => ?_) fun _ _ _ ends => ends
      refine settles ?_
      cases found with
      | some existing => exact Abides.pure fun _ _ => id
      | none =>
          refine (abides_musing confined_correlateMailboxInbound).bind (fun correlated => ?_)
            fun _ _ _ ends => ends.1.2.1
          refine Abides.strengthen ?_ fun _ _ ends => ends.1
          cases correlated with
          | error reason =>
              have retains := @abides_retainUnmatched exclusive target email _
                (retainedMessage target.mailboxId target.organizationId identity
                  email.normalized reason) rfl rfl
              refine retains.bind (fun _ => ?_) fun _ _ _ ends => ends
              exact Abides.pure fun _ _ => id
          | ok key => exact abides_storeCorrelated

/-! ### One session -/

/-- Between messages nothing is written, and nothing waits for a flush. -/
def Between (target : MailboxImapTarget) : Situation :=
  fun pending known => pending = [] ∧ known.writes = [] ∧ Connected target known

theorem Handling.ended
    {known : Knowing}
    {store : Database}
    {aborted : Bool}
    (handling : Handling target email known)
    (relied : (coupling exclusive).rely known.ghost known.writes known.base store) :
    Handling target email (known.ended store aborted) :=
  ⟨⟨relied.1.refl_right, handling.connection, handling.owner.of_extends relied.1.extended⟩,
    handling.fetched⟩

theorem abides_commit
    {before : Situation}
    (stores : ∀ pending known, before pending known →
      ∃ pair, storing exclusive target email pair pending known) :
    Abides (coupling exclusive) before commit fun _ _ known => Handling target email known := by
  have flushes : Abides (coupling exclusive) before flush
      (handledEnd exclusive target email) := by
    refine Abides.flush (fun known holds => stores [] known holds) ?_ ?_
    · intro failure pending known store holds relied
      obtain ⟨pair, -, handling, -⟩ := stores pending known holds
      exact handling.abort relied
    · intro pending known store holds relied
      obtain ⟨pair, within, handling, ready⟩ := stores pending known holds
      refine ⟨pair, fun _ member => (List.not_mem_nil member).elim, handling.extend relied _,
        (ready.others relied).extend fun change member => ?_⟩
      exact (within change (mem_unitOfWork.mp member)).resolve_right id
  refine flushes.bind (fun _ => Abides.commitTransaction ?_ ?_) fun _ _ _ ends => ends
  · rintro pending known store ⟨pair, -, handling, -⟩ relied
    exact handling.ended relied
  · rintro pending known store result ⟨pair, -, handling, ready⟩ relied applied
    refine ⟨ready.guarantee relied applied, fun valid => ?_⟩
    have owner := handling.owner.of_extends relied.1.extended
    obtain ⟨mailbox, found, organization⟩ := owner
    obtain ⟨kept, foundKept, same⟩ :=
      tracks_mailboxes.extends_table (fun _ _ => trivial) applied _ mailbox found
    have ended : ∀ aborted, Handling target email (known.ended result aborted) :=
      fun aborted => ⟨⟨valid.1.refl_right, handling.connection, kept, foundKept,
        Eq.trans same organization⟩, handling.fetched⟩
    exact ⟨ended _, ended _⟩

theorem abides_persistInbound :
    Abides (coupling exclusive) (fetchedMessage target email)
      (persistInbound deployment target email) fun _ => Between target := by
  have handles : Abides (coupling exclusive) (fetchedMessage target email)
      (do
        let result ← processMailboxInbound deployment target.mailboxId target.organizationId
          email
        commit
        pure result)
      (fun _ _ known => Handling target email known) := by
    refine abides_processMailboxInbound.bind (fun result => ?_) fun _ _ _ ends => ends
    refine (abides_commit fun _ _ => id).bind (fun _ => ?_) fun _ _ _ ends => ends
    exact Abides.pure fun _ _ => id
  have rolls : Abides (coupling exclusive) (fun _ known => Handling target email known)
      rollback fun _ _ known => Handling target email known :=
    Abides.rollback fun _ _ _ handling relied => handling.ended relied
  have body : Abides (coupling exclusive) (fetchedMessage target email)
      (attempt (do
        let result ← processMailboxInbound deployment target.mailboxId target.organizationId
          email
        commit
        pure result) >>= persisted)
      (fun _ _ known => Handling target email known) := by
    refine handles.attempt.bind (fun handled => ?_) fun _ _ _ impossible => impossible.elim
    cases handled with
    | ok result => exact Abides.pure fun _ _ => id
    | error failure =>
        exact rolls.bind (fun _ => Abides.raise fun _ _ => id) fun _ _ _ ends => ends
  refine body.session ?_
  intro result pending known store handling relied
  exact ⟨rfl, rfl, (handling.ended relied).toConnected⟩

end Message

/-! ## The loops -/

section Loops

theorem connection_observe
    {observed : Observed}
    {database : Database}
    {signal : Signal}
    (reply : signal.Reply)
    (stays : ∀ mailboxId, signal ≠ .login mailboxId) :
    (observe observed database signal reply).connection = observed.connection := by
  cases signal with
  | login mailboxId => exact absurd rfl (stays mailboxId)
  | search => cases reply <;> rfl
  | _ => rfl

/-- An interaction of a connected poll. -/
theorem abides_ask_between
    {signal : Signal}
    (stays : ∀ mailboxId, signal ≠ .login mailboxId) :
    Abides (coupling exclusive) (Between target) (ask signal) fun _ => Between target := by
  refine Abides.ask ?_
  rintro pending known store reply ⟨rfl, writes, connected⟩ relied
  exact ⟨rfl, writes, relied.1.refl_right,
    (connection_observe reply stays).trans connected.connection,
    connected.owner.of_extends relied.1.extended⟩

/-- Fetching and handling a message. -/
theorem abides_fetchAndHandle {uid : Nat} :
    Abides (coupling exclusive) (Between target)
      (fetchAndHandle (persistInbound deployment target) uid) fun _ => Between target := by
  have fetches : Abides (coupling exclusive) (Between target) (ask (.fetch uid))
      (fun result pending known => Between target pending known ∧
        ∀ email, result = .ok (.ok email) → fetchedMessage target email pending known) := by
    refine Abides.ask ?_
    rintro pending known store reply ⟨rfl, writes, connected⟩ relied
    have still : Connected target
        { known with base := store, ghost := observe known.ghost store (.fetch uid) reply } :=
      ⟨relied.1.refl_right, connected.connection,
        connected.owner.of_extends relied.1.extended⟩
    refine ⟨⟨rfl, writes, still⟩, ?_⟩
    rintro email fetched
    obtain rfl : reply = .ok email := Except.ok.inj fetched
    exact ⟨rfl, writes, still, rfl⟩
  refine fetches.bind (fun reply => ?_) fun _ _ _ ends => ends.1
  have parses : Abides (coupling exclusive)
      (fun pending known => Between target pending known ∧
        ∀ email, Except.ok reply = (.ok (.ok email) : Except Failure (ImapReply InboundEmail)) →
          fetchedMessage target email pending known)
      (ofExcept (imapValue "ValueError" reply))
      (fun result pending known => Between target pending known ∧
        ∀ email, result = .ok email → fetchedMessage target email pending known) := by
    refine Abides.ofExcept fun pending known ends => ⟨ends.1, fun email parsed => ?_⟩
    cases reply with
    | ok fetched =>
        obtain rfl : fetched = email := Except.ok.inj parsed
        exact ends.2 fetched rfl
    | refused | raised name => cases parsed
  refine parses.bind (fun email => ?_) fun _ _ _ ends => ends.1
  refine (abides_persistInbound.strengthen fun _ _ ends => ends.2 email rfl).bind (fun _ => ?_)
    fun _ _ _ ends => ends
  exact Abides.pure fun _ _ => id

theorem abides_drainMessage {uid : Nat} :
    Abides (coupling exclusive) (Between target)
      (drainMessage target.mailboxId (persistInbound deployment target) uid)
      fun _ => Between target := by
  refine abides_fetchAndHandle.attempt.bind (fun handled => ?_)
    fun _ _ _ impossible => impossible.elim
  cases handled with
  | error failure =>
      refine (abides_ask_between (by rintro _ ⟨⟩)).bind (fun _ => ?_) fun _ _ _ ends => ends
      exact Abides.pure fun _ _ => id
  | ok email =>
      refine (abides_ask_between (by rintro _ ⟨⟩)).bind (fun stored => ?_) fun _ _ _ ends => ends
      cases stored with
      | ok _ | refused | raised name => exact Abides.pure fun _ _ => id

theorem abides_drainMessages
    {uids : List Nat}
    {stats : DrainStats} :
    Abides (coupling exclusive) (Between target)
      (drainMessages target.mailboxId (persistInbound deployment target) uids stats)
      fun _ => Between target := by
  induction uids generalizing stats with
  | nil => exact Abides.pure fun _ _ => id
  | cons uid rest inductionHypothesis =>
      exact abides_drainMessage.bind (fun seen => inductionHypothesis) fun _ _ _ ends => ends

theorem abides_drainUnseen :
    Abides (coupling exclusive) (Between target)
      (drainUnseen target.mailboxId (persistInbound deployment target))
      fun _ => Between target := by
  refine (abides_ask_between (by rintro _ ⟨⟩)).bind (fun selected => ?_) fun _ _ _ ends => ends
  have computes : ∀ {Value : Type} {result : Except Failure Value},
      Abides (coupling exclusive) (Between target) (ofExcept result) fun _ => Between target :=
    Abides.ofExcept fun _ _ => id
  refine computes.bind (fun _ => ?_) fun _ _ _ ends => ends
  refine (abides_ask_between (by rintro _ ⟨⟩)).bind (fun searched => ?_) fun _ _ _ ends => ends
  exact computes.bind (fun uids => abides_drainMessages) fun _ _ _ ends => ends

/-- Between mailboxes. -/
def Resting : Situation :=
  fun pending known => pending = [] ∧ known.writes = [] ∧ Later known.base known.base

theorem abides_pollMailbox :
    Abides (coupling exclusive)
      (fun pending known => Resting pending known ∧
        OwnMailbox known.base target.mailboxId target.organizationId)
      (pollMailbox deployment target) fun _ => Resting := by
  unfold pollMailbox
  split
  · have connects : Abides (coupling exclusive)
        (fun pending known => Resting pending known ∧
          OwnMailbox known.base target.mailboxId target.organizationId)
        (ask (.login target.mailboxId)) (fun _ => Between target) := by
      refine Abides.ask ?_
      rintro pending known store reply ⟨⟨rfl, writes, -⟩, owner⟩ relied
      exact ⟨rfl, writes, relied.1.refl_right, rfl, owner.of_extends relied.1.extended⟩
    have computes : ∀ {result : Except Failure Unit},
        Abides (coupling exclusive) (Between target) (ofExcept result)
          fun _ => Between target :=
      Abides.ofExcept fun _ _ => id
    have drains := connects.bind
      (fun reply => (@computes (imapValue "IMAP4.error" reply)).bind
        (fun _ => @abides_drainUnseen deployment exclusive target) fun _ _ _ ends => ends)
      fun _ _ _ ends => ends
    refine drains.attempt.bind (fun polled => ?_) fun _ _ _ impossible => impossible.elim
    have rests : ∀ {value : MailboxPollOutcome},
        Abides (coupling exclusive) (Between target) (pure value : Program MailboxPollOutcome)
          fun _ => Resting :=
      Abides.pure fun _ _ ends => ⟨ends.1, ends.2.1, ends.2.2.current⟩
    cases polled with
    | ok stats => exact rests
    | error failure => exact rests
  · exact Abides.pure fun _ _ ends => ends.1

/-- A session that only reads. -/
theorem abides_reading
    {Value : Type}
    {read : Database → Value}
    {ensures : Value → Database → Prop}
    (stays : ∀ value {before after}, Later before after → ensures value before →
      ensures value after)
    (reads : ∀ view, ensures (read view) view) :
    Abides (coupling exclusive) Resting (session (query read))
      fun result pending known => Resting pending known ∧
        ∀ value, result = .ok value → ensures value known.base := by
  have queries : Abides (coupling exclusive) Resting (query read)
      fun result pending known => ∀ value, result = .ok value → ensures value known.base := by
    refine Abides.query (fun _ _ _ _ _ _ => nofun) ?_
    rintro pending known store view ⟨rfl, writes, -⟩ relied seen
    rw [writes] at seen
    obtain rfl : store = view := Option.some.inj seen
    rintro _ ⟨⟩
    exact reads store
  refine queries.session ?_
  intro result pending known store ends relied
  exact ⟨⟨rfl, rfl, relied.1.refl_right⟩,
    fun value returned => stays value relied.1 (ends value returned)⟩

theorem abides_loadPollableTarget {mailboxId : Nat} :
    Abides (coupling exclusive) Resting (loadPollableTarget mailboxId)
      fun result pending known => Resting pending known ∧
        ∀ found, result = .ok found → ∀ target, found = some target →
          OwnMailbox known.base target.mailboxId target.organizationId := by
  refine @abides_reading exclusive (Option MailboxImapTarget) _
    (fun found base => ∀ target, found = some target →
      OwnMailbox base target.mailboxId target.organizationId) ?_ ?_
  · intro found before after later owns target eligible
    exact (owns target eligible).of_extends later.extended
  · intro view target eligible
    obtain ⟨mailbox, found, eligible⟩ := Option.bind_eq_some_iff.mp eligible
    obtain ⟨same, owner⟩ := pollableTarget_owner eligible
    rw [same, owner]
    exact ⟨mailbox, found, rfl⟩

theorem abides_pollListedMailbox {mailboxId : Nat} :
    Abides (coupling exclusive) Resting (pollListedMailbox deployment mailboxId)
      fun _ => Resting := by
  have polls : Abides (coupling exclusive) Resting
      (pollIfEligible deployment mailboxId)
      (fun _ => Resting) := by
    refine abides_loadPollableTarget.bind (fun found => ?_) fun _ _ _ ends => ends.1
    cases found with
    | none => exact Abides.pure fun _ _ ends => ends.1
    | some target =>
        exact abides_pollMailbox.strengthen fun _ _ ends =>
          ⟨ends.1, ends.2 (some target) rfl target rfl⟩
  refine polls.attempt.bind (fun polled => ?_) fun _ _ _ impossible => impossible.elim
  cases polled with
  | ok outcome => exact Abides.pure fun _ _ => id
  | error failure => exact Abides.pure fun _ _ => id

theorem abides_pollListedMailboxes {ids : List Nat} :
    Abides (coupling exclusive) Resting (pollListedMailboxes deployment ids)
      fun _ => Resting := by
  induction ids with
  | nil => exact Abides.pure fun _ _ => id
  | cons mailboxId rest inductionHypothesis =>
      refine abides_pollListedMailbox.bind (fun outcome => ?_) fun _ _ _ ends => ends
      refine inductionHypothesis.bind (fun outcomes => ?_) fun _ _ _ ends => ends
      exact Abides.pure fun _ _ => id

/-- The poll of all mailboxes honours the agreement. -/
theorem abides_pollAllMailboxesReport :
    Abides (coupling exclusive) Resting (pollAllMailboxesReport deployment)
      fun _ => Resting := by
  have lists : Abides (coupling exclusive) Resting listPollableMailboxIds fun _ => Resting :=
    (@abides_reading exclusive (List Nat) _ (fun _ _ => True) (fun _ _ _ _ => id)
      fun _ => trivial).weaken fun _ _ _ ends => ends.1
  refine lists.attempt.bind (fun listed => ?_) fun _ _ _ impossible => impossible.elim
  cases listed with
  | error failure => exact Abides.pure fun _ _ => id
  | ok ids =>
      refine abides_pollListedMailboxes.bind (fun outcomes => ?_) fun _ _ _ ends => ends
      exact Abides.pure fun _ _ => id

end Loops

end MailerAgent
