import MailerAgent.Native.Standing

/-!
# Programs keep the standing of contacts

Every native program, running alone, keeps a closed law: all contacts comply when it
returns, and also when it raises, since what a failed part left in the session may still
be committed. The steps of a program are followed through `Held` and `Focus`; what is
left to show are the moves of `Law.Closed`.
-/

namespace MailerAgent
namespace Native

open Concurrent Relational Mail Program

variable {Value Result : Type}

namespace Performs

variable {Ghost : Type} {rules : Rules Ghost} {before : Assertion Ghost}
variable {returns : Value → Assertion Ghost} {raises : Failure → Assertion Ghost}

/-- A fact that does not depend on the session. -/
theorem given
    {fact : Prop}
    {program : Program Value}
    (performs : fact → Performs rules before program returns raises) :
    Performs rules (fun pending desk => fact ∧ before pending desk) program returns raises :=
  fun pending desk ⟨holds, rest⟩ => performs holds pending desk rest

/-- `try` around what ends in the same assertion either way. -/
theorem attemptEither
    {program : Program Value}
    {after : Assertion Ghost}
    (performs : Performs rules before program (fun _ => after) fun _ => after) :
    Performs rules before program.attempt (fun _ => after) raises :=
  have caught : Performs rules before program
      (fun value => (fun _ : Except Failure Value => after) (.ok value)) _ := performs
  caught.attempt

/-- `finally` after what ends in the same assertion either way. -/
theorem ensuringEither
    {program : Program Value}
    {cleanup : Program Unit}
    {middle after : Assertion Ghost}
    (body : Performs rules before program (fun _ => middle) fun _ => middle)
    (cleaned : Performs rules middle cleanup (fun _ => after) fun _ => after) :
    Performs rules before (program.ensuring cleanup) (fun _ => after) fun _ => after := by
  refine bind (attemptEither body) fun result => bind cleaned fun _ => ofExcept ?_ ?_
  · exact fun _ _ _ _ => id
  · exact fun _ _ _ _ => id

end Performs

/-- From an assertion, a program ends in another one; all contacts comply if it raises. -/
abbrev Conducts
    (law : Law)
    (before : Assertion Heard)
    (program : Program Value)
    (returns : Value → Assertion Heard) : Prop :=
  Performs law.rules before program returns fun _ => Orderly law

/-- All contacts comply in the end. -/
abbrev Respects
    (law : Law)
    (before : Assertion Heard)
    (program : Program Value) : Prop :=
  Conducts law before program fun _ => Orderly law

/-! ## Interactions and statements -/

section Steps

variable {law : Law} {key : Nat} {contact : Contact} {fact : Prop}
variable {before : Assertion Heard}

/-- An assertion under which the committed contacts comply. -/
def Assertion.Stores
    (law : Law)
    (before : Assertion Heard) : Prop :=
  ∀ pending desk, before pending desk → law.Stored desk.store

/-- An assertion under which all contacts comply once the transaction is lost. -/
def Assertion.Aborts
    (law : Law)
    (before : Assertion Heard) : Prop :=
  ∀ pending desk, before pending desk → Orderly law pending desk.abort

theorem stores_orderly : Assertion.Stores law (Orderly law) :=
  fun _ _ orderly => orderly.store

theorem stores_held : Assertion.Stores law (Held law key contact) :=
  fun _ _ held => held.orderly.store

theorem stores_focus : Assertion.Stores law (Focus law key contact fact) :=
  fun _ _ focus => focus.editing.store

theorem aborts_orderly : Assertion.Aborts law (Orderly law) :=
  fun _ _ orderly => orderly.abort none

theorem aborts_held : Assertion.Aborts law (Held law key contact) :=
  fun _ _ held => held.orderly.abort none

theorem aborts_focus : Assertion.Aborts law (Focus law key contact fact) :=
  fun _ _ focus => focus.editing.abort none

theorem ContactPatch.Neutral.stamped
    {patch : ContactPatch}
    (neutral : patch.Neutral)
    (now : Instant) :
    { patch with updatedAt := some now }.Neutral :=
  ⟨neutral.status, neutral.nextActionAt⟩

/-- An assertion that neutral changes and flushes preserve. -/
structure Assertion.Steady
    (law : Law)
    (before : Assertion Heard) : Prop where
  orderly : ∀ pending desk, before pending desk → Orderly law pending desk
  stage : ∀ pending desk change, change.Neutral → before pending desk →
    before (pending ++ [change]) desk
  flushed : ∀ pending desk view after, before pending desk → desk.view = some view →
    applyAll Change.apply view (unitOfWork pending) = some after →
    before [] { desk with view := some after }

theorem Assertion.Steady.stores (steady : Assertion.Steady law before) :
    Assertion.Stores law before :=
  fun pending desk holds => (steady.orderly pending desk holds).store

theorem Assertion.Steady.aborts (steady : Assertion.Steady law before) :
    Assertion.Aborts law before :=
  fun pending desk holds => (steady.orderly pending desk holds).abort none

theorem steady_orderly : Assertion.Steady law (Orderly law) where
  orderly _ _ := id
  stage _ _ _ neutral orderly := orderly.stage neutral
  flushed _ _ _ _ orderly seen applied := orderly.flushed seen applied

theorem steady_held : Assertion.Steady law (Held law key contact) where
  orderly _ _ held := held.orderly
  stage _ _ _ neutral held := held.stage neutral
  flushed _ _ view _ held seen applied :=
    ⟨held.orderly.flushed seen applied, held.current.flushed
      (fun key patch => held.orderly.known view key patch seen) seen applied⟩

/-- An interaction that is not a classification. -/
theorem conducts_ask
    {signal : Signal}
    (quiet : ∀ desk reply, noteHeard desk signal reply = desk.ghost)
    (stores : Assertion.Stores law before) :
    Conducts law before (ask signal) fun _ => before := by
  refine Performs.ask fun pending desk holds reply _ => ?_
  change law.Stored desk.store ∧ before pending { desk with ghost := noteHeard desk signal reply }
  rw [quiet desk reply]
  exact ⟨stores pending desk holds, holds⟩

theorem conducts_utcnow (stores : Assertion.Stores law before) :
    Conducts law before utcnow fun _ => before :=
  conducts_ask (fun _ _ => rfl) stores

/-- A query, with its result. -/
theorem conducts_query
    {read : Database → Value}
    (aborts : Assertion.Aborts law before) :
    Conducts law before (query read) fun value pending desk =>
      before pending desk ∧ ∃ view, desk.view = some view ∧ value = read view := by
  refine Performs.query (fun _ pending desk holds _ => aborts pending desk holds) ?_
  exact fun pending desk view holds seen => ⟨holds, view, seen, rfl⟩

/-- A query whose result does not matter. -/
theorem conducts_look
    {read : Database → Value}
    (aborts : Assertion.Aborts law before) :
    Conducts law before (query read) fun _ => before :=
  (conducts_query aborts).weaken (fun _ _ _ found => found.1) fun _ _ _ => id

theorem conducts_flush (steady : Assertion.Steady law before) :
    Conducts law before flush fun _ pending desk => pending = [] ∧ before pending desk := by
  refine Performs.flush (fun _ pending desk holds _ => steady.aborts pending desk holds) ?_
    fun _ holds => ⟨rfl, holds⟩
  exact fun pending desk view after holds seen applied =>
    ⟨rfl, steady.flushed pending desk view after holds seen applied⟩

theorem respects_flush : Respects law (Orderly law) flush :=
  (conducts_flush steady_orderly).weaken (fun _ _ _ flushed => flushed.2) fun _ _ _ => id

/-- A neutral change of any contact. -/
theorem conducts_assignSteady
    {patch : ContactPatch}
    (steady : Assertion.Steady law before)
    (neutral : patch.Neutral) :
    Conducts law before (assign key contact patch) fun _ => before := by
  refine Performs.bind (conducts_utcnow steady.stores) fun now => ?_
  have staged : Conducts law before
      (stage (.updateContact key { patch with updatedAt := some now })) fun _ => before :=
    Performs.stage fun pending desk holds =>
      steady.stage pending desk _ (neutral.stamped now) holds
  exact Performs.bind staged fun _ => Performs.pure fun _ _ => id

theorem respects_assign
    {patch : ContactPatch}
    (neutral : patch.Neutral) :
    Respects law (Orderly law) (assign key contact patch) :=
  conducts_assignSteady steady_orderly neutral

theorem conducts_maybeSummarize
    {messages : List Message}
    (steady : Assertion.Steady law before) :
    Conducts law before (maybeSummarizeOlderMessages key contact messages)
      fun _ => before := by
  refine Performs.ite (fun _ => Performs.pure fun _ _ => id) fun _ => ?_
  refine Performs.bind (conducts_ask (fun _ _ => rfl) steady.stores) fun result => ?_
  change SummaryResult at result
  cases result with
  | summarized text =>
      refine Performs.bind (conducts_assignSteady steady ⟨rfl, rfl⟩) fun _ => ?_
      exact (conducts_flush steady).weaken (fun _ _ _ flushed => flushed.2) fun _ _ _ => id
  | unavailable => exact Performs.pure fun _ _ => id
  | raised name => exact Performs.raise steady.orderly

/-- A loaded object in a session that has nothing to flush. -/
def Settled
    (law : Law)
    (key : Nat)
    (contact : Contact) : Assertion Heard :=
  fun pending desk => pending = [] ∧ Held law key contact pending desk

theorem stores_settled : Assertion.Stores law (Settled law key contact) :=
  fun _ _ settled => settled.2.orderly.store

theorem aborts_settled : Assertion.Aborts law (Settled law key contact) :=
  fun _ _ settled => settled.2.orderly.abort none

/-- A statement that changes no standing. -/
theorem conducts_execute
    {changes : Database → List Change}
    {read : Database → Value}
    (neutral : ∀ view, ∀ change ∈ changes view, change.Neutral) :
    Conducts law (Settled law key contact) (execute changes read)
      fun _ => Settled law key contact := by
  refine Performs.execute (fun _ _ _ settled _ => settled.2.orderly.abort none) ?_
  rintro pending desk view after ⟨empty, held⟩ seen applied
  have keeps := keepsStanding_applyAll (neutral view) applied
  have wellFormed := applyAll_wellFormed (held.orderly.wellFormed view seen) applied
  exact ⟨empty, held.orderly.executed seen wellFormed keeps, held.current.executed seen keeps⟩

@[inherit_doc conducts_execute]
theorem respects_execute
    {changes : Database → List Change}
    {read : Database → Value}
    (neutral : ∀ view, ∀ change ∈ changes view, change.Neutral) :
    Respects law (Orderly law) (execute changes read) := by
  refine Performs.execute (fun _ _ _ orderly _ => orderly.abort none) ?_
  intro pending desk view after orderly seen applied
  exact orderly.executed seen (applyAll_wellFormed (orderly.wellFormed view seen) applied)
    (keepsStanding_applyAll (neutral view) applied)

/-- A computation that may raise. -/
theorem conducts_computed
    {computed : Except Failure Value}
    (raised : ∀ pending desk, before pending desk → Orderly law pending desk) :
    Conducts law before (ofExcept computed) fun value pending desk =>
      computed = .ok value ∧ before pending desk := by
  refine Performs.ofExcept ?_ fun _ _ => raised
  exact fun value computed _ _ holds => ⟨computed, holds⟩

theorem conducts_required
    {value : Option Value}
    (raised : ∀ pending desk, before pending desk → Orderly law pending desk) :
    Conducts law before (required value) fun present pending desk =>
      value = some present ∧ before pending desk := by
  refine Performs.required ?_ fun _ _ => raised
  exact fun present found _ _ holds => ⟨found, holds⟩

/-- A session without open changes. -/
structure Clean
    (law : Law)
    (pending : List Change)
    (desk : Desk Database Heard) : Prop where
  empty : pending = []
  view : desk.view = some desk.store
  orderly : Orderly law pending desk

/-- A claim about a contact, as the session would store it. -/
structure Shows
    (law : Law)
    (key : Nat)
    (claim : Prop)
    (property : Contact → Prop)
    (pending : List Change)
    (desk : Desk Database Heard) : Prop where
  orderly : Orderly law pending desk
  shown : claim → ∃ after, property after ∧ Held law key after pending desk

theorem steady_shows
    {claim : Prop}
    {property : Contact → Prop} :
    Assertion.Steady law (Shows law key claim property) where
  orderly _ _ showing := showing.orderly
  stage pending desk change neutral showing := by
    refine ⟨showing.orderly.stage neutral, fun claimed => ?_⟩
    obtain ⟨after, holds, held⟩ := showing.shown claimed
    exact ⟨after, holds, held.stage neutral⟩
  flushed pending desk view after showing seen applied := by
    refine ⟨showing.orderly.flushed seen applied, fun claimed => ?_⟩
    obtain ⟨contact, holds, held⟩ := showing.shown claimed
    exact ⟨contact, holds, steady_held.flushed pending desk view after held seen applied⟩

/-- What is committed about the contact. -/
theorem conducts_commitShown
    {claim : Prop}
    {property : Contact → Prop} :
    Conducts law (Shows law key claim property) commit fun _ pending desk =>
      Clean law pending desk ∧
        (claim → ∃ row after, desk.store.contacts.get key = some row ∧ property after ∧
          SameStanding after row) := by
  refine Performs.bind (conducts_flush steady_shows) fun _ => ?_
  refine Performs.commitTransaction (fun _ _ _ flushed _ => flushed.2.orderly.abort none) ?_
  rintro pending desk view ⟨rfl, showing⟩ seen
  have kept := showing.orderly.keptByCommit seen
  have stored := showing.orderly.committed seen
  refine ⟨stored, ⟨⟨rfl, rfl, ?_⟩, fun claimed => ?_⟩, fun _ => ?_⟩
  · exact Law.Stored.orderly stored (fun _ same => by cases same; rfl) kept
  · obtain ⟨after, holds, held⟩ := showing.shown claimed
    obtain ⟨row, found, same⟩ := held.current view seen
    exact ⟨row, after, found, holds, same⟩
  · exact Law.Stored.orderly stored
      (fun _ same => absurd same.symm (Option.some_ne_none _)) kept

theorem conducts_commit :
    Conducts law (Orderly law) commit fun _ => Clean law := by
  have shown : Conducts law (Shows law 0 False fun _ => True) commit _ := conducts_commitShown
  exact (shown.strengthen fun _ _ orderly => ⟨orderly, False.elim⟩).weaken
    (fun _ _ _ holds => holds.1) fun _ _ _ => id

theorem respects_commit : Respects law (Orderly law) commit :=
  conducts_commit.weaken (fun _ _ _ clean => clean.orderly) fun _ _ _ => id

theorem conducts_rollback :
    Performs law.rules (Orderly law) rollback (fun _ => Clean law) fun _ => Clean law := by
  refine Performs.rollback fun pending desk orderly _ => ?_
  exact ⟨rfl, rfl, Law.Stored.orderly orderly.store (fun _ same => by cases same; rfl)
    orderly.kept⟩

theorem respects_rollback : Respects law (Orderly law) rollback :=
  conducts_rollback.weaken (fun _ _ _ clean => clean.orderly) fun _ _ _ clean => clean.orderly

/-- A session ends clean. -/
theorem performs_session
    {program : Program Value}
    (respects : Respects law before program) :
    Performs law.rules before (session program) (fun _ => Clean law) fun _ => Clean law :=
  respects.ensuringEither conducts_rollback

theorem respects_session
    {program : Program Value}
    (respects : Respects law before program) :
    Respects law before (session program) :=
  (performs_session respects).weaken (fun _ _ _ clean => clean.orderly)
    fun _ _ _ clean => clean.orderly

/-- What a session leaves in the database. -/
theorem conducts_sessionStored
    (stored : Value → Database → Prop)
    {program : Program Value}
    (conducts : Conducts law before program fun value _ desk => stored value desk.store) :
    Conducts law before (session program) fun value _ desk => stored value desk.store := by
  let Caught : Except Failure Value → Assertion Heard :=
    byResult (fun value _ desk => stored value desk.store) (Orderly law)
  have caught : Performs law.rules before program (fun value => Caught (.ok value))
      fun failure => Caught (.error failure) := conducts
  have cleaned : ∀ result, Performs law.rules (Caught result) rollback
      (fun _ => Caught result) fun _ => Orderly law := by
    intro result
    cases result with
    | ok value => exact Performs.rollback fun _ _ holds _ => holds
    | error failure => exact respects_rollback
  exact caught.ensuring cleaned (fun _ _ _ => id) fun _ _ _ => id

theorem respects_pure {value : Value} : Respects law (Orderly law) (pure value) :=
  Performs.pure fun _ _ => id

theorem respects_raise {failure : Failure} :
    Respects law (Orderly law) (raise failure : Program Value) :=
  Performs.raise fun _ _ => id

theorem respects_sessionScope
    {program : Program Value}
    (respects : Respects law before program) :
    Respects law before (sessionScope program) := by
  have committed : Respects law before (do let value ← program; commit; pure value) :=
    Performs.bind respects fun _ => Performs.bind respects_commit fun _ => respects_pure
  refine respects_session (Performs.bind committed.attemptEither fun result => ?_)
  cases result with
  | ok value => exact respects_pure
  | error failure => exact Performs.bind respects_rollback fun _ => respects_raise

theorem respects_forEach
    {items : List Value}
    {body : Value → Program Unit}
    (each : ∀ item ∈ items, Respects law (Orderly law) (body item)) :
    Respects law (Orderly law) (forEach items body) := by
  induction items with
  | nil => exact respects_pure
  | cons item rest inductionHypothesis =>
      refine Performs.bind (each item List.mem_cons_self) fun _ => ?_
      exact inductionHypothesis fun other member => each other (List.mem_cons_of_mem _ member)

end Steps

/-! ## Changes of a contact -/

/-- What a patch does to the standing of a contact. -/
structure Patched
    (patch : ContactPatch)
    (before after : Contact) : Prop where
  status : after.status = patch.status.getD before.status
  nextActionAt : after.nextActionAt = patch.nextActionAt.getD before.nextActionAt

section Changes

variable {law : Law} {key : Nat} {contact : Contact} {fact : Prop}

/-- A change of the contact, under which what concerns only the desk stays. -/
theorem conducts_assignKeeping
    (kept : Desk Database Heard → Prop)
    (patch : ContactPatch) :
    Conducts law (fun pending desk => Focus law key contact fact pending desk ∧ kept desk)
      (assign key contact patch) fun after pending desk =>
        Patched patch contact after ∧ Focus law key after fact pending desk ∧ kept desk := by
  refine Performs.bind (conducts_utcnow fun _ _ holds => holds.1.editing.store) fun now => ?_
  have staged : Conducts law
      (fun pending desk => Focus law key contact fact pending desk ∧ kept desk)
      (stage (.updateContact key { patch with updatedAt := some now })) fun _ pending desk =>
        Focus law key ({ patch with updatedAt := some now }.apply contact) fact pending desk ∧
          kept desk :=
    Performs.stage fun _ _ holds => ⟨holds.1.assign _, holds.2⟩
  refine Performs.bind staged fun _ => ?_
  exact Performs.pure fun _ _ holds => ⟨⟨rfl, rfl⟩, holds⟩

theorem conducts_assign (patch : ContactPatch) :
    Conducts law (Focus law key contact fact) (assign key contact patch)
      fun after pending desk =>
        Patched patch contact after ∧ Focus law key after fact pending desk :=
  ((conducts_assignKeeping (fun _ => True) patch).strengthen
    fun _ _ focus => ⟨focus, trivial⟩).weaken
      (fun _ _ _ holds => ⟨holds.1, holds.2.1⟩) fun _ _ _ => id

/-- A change after which the contact complies. -/
theorem conducts_assignHeld
    {patch : ContactPatch}
    (free : law.Free key)
    (complies : fact → law.holds key (patch.status.getD contact.status)
      (patch.nextActionAt.getD contact.nextActionAt)) :
    Conducts law (Focus law key contact fact) (assign key contact patch) fun after =>
      Held law key after := by
  refine (conducts_assign patch).weaken ?_ fun _ _ _ => id
  rintro after pending desk ⟨patched, focus⟩
  refine focus.held free fun known => ?_
  unfold Law.row
  rw [patched.status, patched.nextActionAt]
  exact complies known

/-- A neutral change of the loaded contact, under which what concerns only the desk
stays. -/
theorem conducts_assignNeutral
    {patch : ContactPatch}
    (kept : Desk Database Heard → Prop)
    (neutral : patch.Neutral) :
    Conducts law (fun pending desk => Held law key contact pending desk ∧ kept desk)
      (assign key contact patch) fun after pending desk =>
        SameStanding contact after ∧ Held law key after pending desk ∧ kept desk := by
  refine Performs.bind (conducts_utcnow fun _ _ holds => holds.1.orderly.store) fun now => ?_
  have stamped := neutral.stamped now
  have staged : Conducts law (fun pending desk => Held law key contact pending desk ∧ kept desk)
      (stage (.updateContact key { patch with updatedAt := some now })) fun _ pending desk =>
        Held law key ({ patch with updatedAt := some now }.apply contact) pending desk ∧
          kept desk := by
    refine Performs.stage fun pending desk holds => ?_
    have staged : Held law key contact (pending ++ [.updateContact key _]) desk :=
      holds.1.stage stamped
    refine ⟨⟨staged.orderly, fun view seen => ?_⟩, holds.2⟩
    obtain ⟨stored, found, same⟩ := staged.current view seen
    exact ⟨stored, found, (stamped.same contact).symm.trans same⟩
  refine Performs.bind staged fun _ => ?_
  exact Performs.pure fun _ _ holds => ⟨stamped.same contact, holds⟩

/-- A transition, with what it does to the contact. -/
structure Moved
    (contact : Contact)
    (event : StateTransitionEvent)
    (result : Contact × Bool) :
    Prop where
  status : result.1.status = Law.moved contact.status event
  nextActionAt : result.1.nextActionAt = contact.nextActionAt
  edge : result.2 = true → stateTransition contact.status event = some result.1.status
  unmoved : result.2 = false → result.1 = contact

theorem conducts_transitionKeeping
    (kept : Desk Database Heard → Prop)
    (event : StateTransitionEvent) :
    Conducts law (fun pending desk => Focus law key contact fact pending desk ∧ kept desk)
      (transitionContactState key contact event) fun result pending desk =>
        Moved contact event result ∧ Focus law key result.1 fact pending desk ∧ kept desk := by
  unfold transitionContactState
  cases edge : stateTransition contact.status event with
  | none =>
      refine Performs.pure fun _ _ holds =>
        ⟨⟨?_, rfl, fun impossible => ?_, fun _ => rfl⟩, holds⟩
      · unfold Law.moved
        rw [edge]
        rfl
      · cases impossible
  | some status =>
      refine Performs.bind (conducts_assignKeeping kept { status := some status }) fun moved => ?_
      refine Performs.pure fun _ _ => ?_
      rintro ⟨patched, holds⟩
      refine ⟨⟨?_, patched.nextActionAt, fun _ => ?_, fun impossible => ?_⟩, holds⟩
      · unfold Law.moved
        rw [edge]
        exact patched.status
      · rw [edge]
        exact congrArg some patched.status.symm
      · cases impossible

theorem conducts_transition (event : StateTransitionEvent) :
    Conducts law (Focus law key contact fact) (transitionContactState key contact event)
      fun result pending desk =>
        Moved contact event result ∧ Focus law key result.1 fact pending desk :=
  ((conducts_transitionKeeping (fun _ => True) event).strengthen
    fun _ _ focus => ⟨focus, trivial⟩).weaken
      (fun _ _ _ holds => ⟨holds.1, holds.2.1⟩) fun _ _ _ => id

/-- A transition that keeps the next action. -/
theorem conducts_transitionHeld
    (free : law.Free key)
    (event : StateTransitionEvent) :
    Conducts law
      (Focus law key contact
        (law.holds key (Law.moved contact.status event) contact.nextActionAt))
      (transitionContactState key contact event) fun result pending desk =>
        result.1.status = Law.moved contact.status event ∧
          Held law key result.1 pending desk := by
  refine (conducts_transition event).weaken ?_ fun _ _ _ => id
  rintro result pending desk ⟨moved, focus⟩
  refine ⟨moved.status, focus.held free fun holds => ?_⟩
  unfold Law.row
  rw [moved.status, moved.nextActionAt]
  exact holds

theorem respects_transition
    (free : law.Free key)
    (event : StateTransitionEvent) :
    Respects law
      (Focus law key contact
        (law.holds key (Law.moved contact.status event) contact.nextActionAt))
      (transitionContactState key contact event) :=
  (conducts_transitionHeld free event).weaken (fun _ _ _ holds => holds.2.orderly)
    fun _ _ _ => id

/-- A contact that may be left without a next action. -/
abbrev Leaving
    (law : Law)
    (key : Nat)
    (contact : Contact) : Assertion Heard :=
  Focus law key contact (law.holds key contact.status none)

theorem Held.leaving
    (closed : law.Closed)
    {pending : List Change}
    {desk : Desk Database Heard}
    (held : Held law key contact pending desk) :
    Leaving law key contact pending desk :=
  held.focus.weaken fun holds => closed.clears key _ _ holds

/-- A contact is moved on the way out of the schedule. -/
theorem conducts_leaveMoved
    (closed : law.Closed)
    (event : StateTransitionEvent) :
    Conducts law (Leaving law key contact) (transitionContactState key contact event)
      fun result pending desk => result.1.status = Law.moved contact.status event ∧
        Leaving law key result.1 pending desk := by
  refine (conducts_transition event).weaken ?_ fun _ _ _ => id
  rintro result pending desk ⟨moved, focus⟩
  refine ⟨moved.status, focus.weaken fun holds => ?_⟩
  rw [moved.status]
  exact closed.leaves key _ event holds

theorem conducts_leave
    (closed : law.Closed)
    (event : StateTransitionEvent) :
    Conducts law (Leaving law key contact) (transitionContactState key contact event)
      fun result => Leaving law key result.1 :=
  (conducts_leaveMoved closed event).weaken (fun _ _ _ holds => holds.2) fun _ _ _ => id

/-- The contact is unscheduled. -/
theorem conducts_unschedule
    {patch : ContactPatch}
    (free : law.Free key)
    (still : patch.status = none)
    (unscheduled : patch.nextActionAt = some none) :
    Conducts law (Leaving law key contact) (assign key contact patch)
      fun after pending desk => (after.status = contact.status ∧ after.nextActionAt = none) ∧
        Held law key after pending desk := by
  refine (conducts_assign patch).weaken ?_ fun _ _ _ => id
  rintro after pending desk ⟨patched, focus⟩
  have status : after.status = contact.status := by
    rw [patched.status, still]
    rfl
  have next : after.nextActionAt = none := by
    rw [patched.nextActionAt, unscheduled]
    rfl
  refine ⟨⟨status, next⟩, focus.held free fun holds => ?_⟩
  unfold Law.row
  rw [status, next]
  exact holds

/-- A contact leaves the schedule, and the program goes on. -/
theorem conducts_leaveSchedule
    {patch : ContactPatch}
    {rest : Contact → Program Result}
    {returns : Result → Assertion Heard}
    (closed : law.Closed)
    (free : law.Free key)
    (event : StateTransitionEvent)
    (still : patch.status = none)
    (unscheduled : patch.nextActionAt = some none)
    (continues : ∀ after, after.status = Law.moved contact.status event →
      after.nextActionAt = none → Conducts law (Held law key after) (rest after) returns) :
    Conducts law (Held law key contact)
      (do
        let (moved, _) ← transitionContactState key contact event
        let after ← assign key moved patch
        rest after) returns := by
  refine Performs.bind ((conducts_leaveMoved closed event).strengthen fun _ _ held =>
    held.leaving closed) fun moved => Performs.given fun effect => ?_
  refine Performs.bind (conducts_unschedule free still unscheduled) fun after =>
    Performs.given fun same => ?_
  exact continues after (same.1.trans effect) same.2

/-- A contact leaves the schedule. -/
theorem conducts_unscheduled
    {patch : ContactPatch}
    (closed : law.Closed)
    (free : law.Free key)
    (event : StateTransitionEvent)
    (still : patch.status = none)
    (unscheduled : patch.nextActionAt = some none) :
    Conducts law (Held law key contact)
      (do
        let (moved, _) ← transitionContactState key contact event
        assign key moved patch)
      fun after pending desk =>
        after.status = Law.moved contact.status event ∧ Held law key after pending desk := by
  refine Performs.bind ((conducts_leaveMoved closed event).strengthen fun _ _ held =>
    held.leaving closed) fun moved => Performs.given fun effect => ?_
  refine (conducts_unschedule free still unscheduled).weaken ?_ fun _ _ _ => id
  exact fun after _ _ holds => ⟨holds.1.1.trans effect, holds.2⟩

theorem conducts_addMessage
    {before : Assertion Heard}
    {message : Message}
    (stores : Assertion.Stores law before)
    (staged : ∀ pending desk row, before pending desk →
      before (pending ++ [.insertMessage row]) desk) :
    Conducts law before (addMessage message) fun _ => before := by
  refine Performs.bind (conducts_utcnow stores) fun now => ?_
  refine Performs.bind (conducts_ask (fun _ _ => rfl) stores) fun reference => ?_
  exact Performs.stage fun pending desk holds => staged pending desk _ holds

theorem conducts_addMessageHeld {message : Message} :
    Conducts law (Held law key contact) (addMessage message) fun _ => Held law key contact :=
  conducts_addMessage stores_held fun _ _ _ held => held.stage trivial

theorem conducts_sendEmail
    {before : Assertion Heard}
    {settings : Settings}
    {origin : SendOrigin}
    {contactId : Nat}
    {arguments : SendEmailArguments}
    (stores : Assertion.Stores law before)
    (raised : ∀ pending desk, before pending desk → Orderly law pending desk) :
    Conducts law before (sendEmail settings origin contactId arguments) fun _ => before := by
  refine Performs.bind (conducts_ask (fun _ _ => rfl) stores) fun behaviour => ?_
  change SendBehaviour at behaviour
  cases SendBehaviour.report settings arguments behaviour with
  | returned result => exact Performs.pure fun _ _ => id
  | raised text => exact Performs.raise raised

theorem conducts_draftMessage {action : DraftAction} :
    Conducts law (Held law key contact) (draftMessage key action)
      fun _ => Held law key contact := by
  refine Performs.bind (conducts_ask (fun _ _ => rfl) stores_held) fun result => ?_
  change DraftResult at result
  cases result with
  | drafted draft => exact Performs.pure fun _ _ => id
  | contextualFallbackUnavailable => exact Performs.raise fun _ _ held => held.orderly
  | raised name => exact Performs.raise fun _ _ held => held.orderly

/-- The campaign of a loaded contact exists. -/
theorem conducts_loadCampaign
    {before : Assertion Heard}
    (holding : ∀ pending desk, before pending desk → Held law key contact pending desk) :
    Conducts law before (loadCampaign contact) fun campaign pending desk =>
      (∃ present, campaign = some present) ∧ before pending desk := by
  refine (conducts_query fun pending desk holds =>
    (holding pending desk holds).orderly.abort none).weaken ?_ fun _ _ _ => id
  rintro campaign pending desk ⟨holds, view, seen, rfl⟩
  have held := holding pending desk holds
  refine ⟨?_, holds⟩
  obtain ⟨stored, found, same⟩ := held.current view seen
  have inside := (held.orderly.wellFormed view seen).contactCampaign key stored found
  have campaignId : contact.campaignId = stored.campaignId :=
    same.campaignId.symm.trans (inSession_samePerson key stored).1
  rw [← campaignId] at inside
  exact Table.exists_get_of_lt_size inside

end Changes

end Native
end MailerAgent
