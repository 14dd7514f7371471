import MailerAgent.World.Handling
import MailerAgent.World.Pacing

/-!
# The sending of follow-ups

`send_followup_if_due` and the operations that call it honour the agreement on cadences:
what was read of a due contact says that a follow-up is left, and the follow-up is counted
and the next one scheduled in one transaction.
-/

namespace MailerAgent

open Concurrent Relational Mail Native Program

variable {deployment : Deployment} {key : Nat} {contact : Contact} {campaign : Campaign}

/-! ## What a program stages -/

namespace Native

/-- Neither statements nor ends of transactions, only interactions. -/
def interacting : Bounds Change Signal where
  writes _ := False
  asks _ := True
  transacts := False

/-- A program that only stages changes, with its result and what it stages. -/
def Stages
    {Value : Type}
    (program : Program Value)
    (ensures : Except Failure Value → List Change → Prop) : Prop :=
  ∀ pending, Process.Confined interacting (program pending) fun (result, after) =>
    ∃ changes, after = pending ++ changes ∧ ensures result changes

namespace Stages

variable {Value Result : Type} {program : Program Value} {rest : Value → Program Result}

theorem pure
    {value : Value}
    {ensures : Except Failure Value → List Change → Prop}
    (ends : ensures (.ok value) []) :
    Stages (Pure.pure value : Program Value) ensures :=
  fun pending => ⟨[], (List.append_nil pending).symm, ends⟩

theorem ofExcept
    {result : Except Failure Value}
    {ensures : Except Failure Value → List Change → Prop}
    (ends : ensures result []) :
    Stages (Program.ofExcept result) ensures := by
  cases result with
  | ok value => exact pure ends
  | error failure => exact fun pending => ⟨[], (List.append_nil pending).symm, ends⟩

theorem weaken
    {ensures weaker : Except Failure Value → List Change → Prop}
    (stages : Stages program ensures)
    (implies : ∀ result changes, ensures result changes → weaker result changes) :
    Stages program weaker := by
  intro pending
  refine (stages pending).weaken ?_
  rintro ⟨result, after⟩ ⟨changes, same, ends⟩
  exact ⟨changes, same, implies result changes ends⟩

theorem bind
    {middle : Except Failure Value → List Change → Prop}
    {ensures : Except Failure Result → List Change → Prop}
    (first : Stages program middle)
    (second : ∀ value changes, middle (.ok value) changes →
      Stages (rest value) fun result more => ensures result (changes ++ more))
    (fails : ∀ failure changes, middle (.error failure) changes →
      ensures (.error failure) changes) :
    Stages (program >>= rest) ensures := by
  intro pending
  refine (first pending).andThen ?_
  rintro ⟨result, after⟩ ⟨changes, rfl, ends⟩
  cases result with
  | ok value =>
      refine (second value changes ends (pending ++ changes)).weaken ?_
      rintro ⟨result, after⟩ ⟨more, rfl, ends⟩
      exact ⟨changes ++ more, List.append_assoc _ _ _, ends⟩
  | error failure => exact ⟨changes, rfl, fails failure changes ends⟩

/-- After a program that returns. -/
theorem andThen
    {middle : Value → List Change → Prop}
    {ensures : Except Failure Result → List Change → Prop}
    (first : Stages program fun result changes => ∃ value, result = .ok value ∧
      middle value changes)
    (second : ∀ value changes, middle value changes →
      Stages (rest value) fun result more => ensures result (changes ++ more)) :
    Stages (program >>= rest) ensures := by
  refine bind first ?_ ?_
  · rintro value changes ⟨_, ⟨⟩, ends⟩
    exact second value changes ends
  · rintro _ _ ⟨_, impossible, _⟩
    cases impossible

theorem ask {signal : Signal} :
    Stages (Program.ask signal) fun result changes =>
      ∃ reply, result = .ok reply ∧ changes = [] :=
  fun pending => ⟨trivial, fun reply =>
    ⟨[], (List.append_nil pending).symm, reply, rfl, rfl⟩⟩

/-- What an assignment stages. -/
def Assigned
    (key : Nat)
    (contact : Contact)
    (patch : ContactPatch) :
    Contact → List Change → Prop :=
  fun after changes => ∃ now, after = ({ patch with updatedAt := some now }).apply contact ∧
    changes = [.updateContact key { patch with updatedAt := some now }]

theorem assign {patch : ContactPatch} :
    Stages (Program.assign key contact patch) fun result changes =>
      ∃ after, result = .ok after ∧ Assigned key contact patch after changes :=
  fun _ => ⟨trivial, fun now =>
    ⟨[.updateContact key { patch with updatedAt := some now }], rfl, _, rfl, now, rfl, rfl⟩⟩

/-- A transition changes the contact, or nothing where there is no edge. -/
theorem transition {event : StateTransitionEvent} :
    Stages (transitionContactState key contact event) fun result changes =>
      ∃ after, result = .ok after ∧
        (after.1 = contact ∧ changes = [] ∧ stateTransition contact.status event = none ∨
          ∃ status, stateTransition contact.status event = some status ∧
            Assigned key contact { status := some status } after.1 changes) := by
  unfold transitionContactState
  split
  · next missing => exact pure ⟨(contact, false), rfl, .inl ⟨rfl, rfl, missing⟩⟩
  · next status edge =>
      refine assign.andThen fun moved changes assigned => ?_
      refine pure ⟨(moved, true), rfl, .inr ⟨status, edge, ?_⟩⟩
      rw [List.append_nil]
      exact assigned

end Stages

/-- Changes of one contact that keep it within its cadence. -/
structure Tallied
    (key limit : Nat)
    (changes : List Change) : Prop where
  nobody : ∀ row, .insertContact row ∉ changes
  elsewhere : ∀ other, other ≠ key → ∀ patch, .updateContact other patch ∉ changes
  within : ∀ contact, Within limit contact → Within limit (inSession changes key contact)

/-- Updates that leave each contact within the limit. -/
theorem tallied_of_updates
    {limit : Nat}
    {changes : List Change}
    (updates : ∀ change ∈ changes, ∃ patch, change = .updateContact key patch)
    (within : ∀ contact, Within limit contact → Within limit (inSession changes key contact)) :
    Tallied key limit changes where
  nobody row member := by
    obtain ⟨_, same⟩ := updates _ member
    cases same
  elsewhere other different patch member := by
    obtain ⟨_, same⟩ := updates _ member
    cases same
    exact different rfl
  within := within

/-- Calm updates of one contact. -/
def CalmUpdates
    (key : Nat)
    (changes : List Change) : Prop :=
  ∀ change ∈ changes, (∃ patch, change = .updateContact key patch) ∧ change.Calm

theorem CalmUpdates.append
    {first second : List Change}
    (left : CalmUpdates key first)
    (right : CalmUpdates key second) :
    CalmUpdates key (first ++ second) :=
  fun change member => (List.mem_append.mp member).elim (left change) (right change)

/-- Calm updates have nothing to count. -/
theorem CalmUpdates.tallied
    {limit : Nat}
    {changes : List Change}
    (calm : CalmUpdates key changes) :
    Tallied key limit changes :=
  tallied_of_updates (fun change member => (calm change member).1) fun contact within =>
    (@careful_of_calm {} changes fun change member => (calm change member).2).keeps key limit
      (fun _ _ found => (Option.some_ne_none _ found.symm).elim) contact within

/-- An assignment that neither counts nor activates nor schedules. -/
theorem Stages.Assigned.calm
    {patch : ContactPatch}
    {after : Contact}
    {changes : List Change}
    (assigned : Stages.Assigned key contact patch after changes)
    (calm : (Change.updateContact key patch).Calm) :
    CalmUpdates key changes := by
  obtain ⟨now, -, rfl⟩ := assigned
  intro change member
  obtain rfl := List.mem_singleton.mp member
  exact ⟨⟨_, rfl⟩, calm⟩

/-- The events of the outreach functions that end or interrupt a cadence. -/
def Interrupts (event : StateTransitionEvent) : Prop :=
  ∀ status, stateTransition status event ≠ some .active

/-- No edge for the event leads to an active contact. -/
theorem interrupts_needsHuman : Interrupts .needsHuman := by
  intro status
  cases status <;> decide

theorem interrupts_unsubscribed : Interrupts .unsubscribed := by
  intro status
  cases status <;> decide

theorem interrupts_sequenceExhausted : Interrupts .sequenceExhausted := by
  intro status
  cases status <;> decide

/-- A contact that is interrupted keeps its counter. -/
theorem stages_interruption
    {event : StateTransitionEvent}
    (interrupts : Interrupts event) :
    Stages (transitionContactState key contact event) fun result changes =>
      ∃ after, result = .ok after ∧ after.1.followUpIndex = contact.followUpIndex ∧
        CalmUpdates key changes := by
  refine Stages.transition.weaken ?_
  rintro _ changes ⟨after, rfl, ⟨same, rfl, -⟩ | ⟨status, edge, assigned⟩⟩
  · exact ⟨after, rfl, by rw [same], fun _ member => (List.not_mem_nil member).elim⟩
  · refine ⟨after, rfl, ?_, assigned.calm ⟨rfl, ?_, nofun⟩⟩
    · obtain ⟨now, same, -⟩ := assigned
      rw [same]
      rfl
    · exact fun active => interrupts _ (edge.trans active)

theorem stages_escalateUnknown :
    Stages (escalateUnknown key contact) fun _ changes => CalmUpdates key changes := by
  refine (stages_interruption interrupts_needsHuman).andThen ?_
  rintro moved first ⟨-, calm⟩
  refine Stages.assign.weaken ?_
  rintro _ second ⟨_, -, assigned⟩
  exact calm.append (assigned.calm ⟨rfl, nofun, nofun⟩)

/-- At the end of the sequence nothing is counted. -/
theorem stages_exhaustSequence {next : Option Instant} :
    Stages (exhaustSequence key contact next) fun result changes =>
      ∃ after, result = .ok after ∧ CalmUpdates key changes := by
  unfold exhaustSequence
  split
  · refine (stages_interruption interrupts_sequenceExhausted).andThen ?_
    rintro ⟨ended, _⟩ first ⟨-, calm⟩
    refine Stages.pure ⟨ended, rfl, ?_⟩
    rw [List.append_nil]
    exact calm
  · exact Stages.pure ⟨contact, rfl, fun _ member => (List.not_mem_nil member).elim⟩

/-- The next follow-up is computed only while one is left. -/
theorem left_of_computeNextFollowup
    {now : Instant}
    {result : Except Failure (Option Instant)}
    (computed : computeNextFollowup now contact campaign = result)
    (nonempty : result ≠ .ok none) :
    contact.followUpIndex < campaign.followUpDays.length := by
  unfold computeNextFollowup at computed
  split at computed
  · exact absurd computed.symm nonempty
  · split at computed
    · exact absurd computed.symm nonempty
    · next days stored => exact (List.getElem?_eq_some_iff.mp stored).1

/-- A calm update of a contact that was counted. -/
theorem inSession_counted
    {changes : List Change}
    (calm : CalmUpdates key changes)
    (contact : Contact) :
    (inSession changes key contact).followUpIndex = contact.followUpIndex := by
  induction changes generalizing contact with
  | nil => rfl
  | cons change rest inductionHypothesis =>
      obtain ⟨⟨patch, rfl⟩, uncounted, -⟩ := calm _ List.mem_cons_self
      rw [inSession_update]
      refine (inductionHypothesis (fun other member =>
        calm other (List.mem_cons_of_mem _ member)) _).trans ?_
      change patch.followUpIndex.getD contact.followUpIndex = _
      rw [uncounted]
      rfl

/-- A follow-up that is counted, if the updates after it leave the contact within its
cadence. -/
theorem tallied_of_counted
    {limit index : Nat}
    {first rest : List Change}
    {patch : ContactPatch}
    (count : patch.followUpIndex = some index)
    (before : ∀ change ∈ first, ∃ patch, change = .updateContact key patch)
    (after : ∀ change ∈ rest, ∃ patch, change = .updateContact key patch)
    (ends : ∀ contact, contact.followUpIndex = index →
      Within limit (inSession rest key contact)) :
    Tallied key limit (first ++ .updateContact key patch :: rest) := by
  refine tallied_of_updates (fun change member => ?_) fun contact _ => ?_
  · rcases List.mem_append.mp member with earlier | later
    · exact before change earlier
    · rcases List.mem_cons.mp later with rfl | further
      · exact ⟨patch, rfl⟩
      · exact after change further
  · rw [inSession_append, inSession_update]
    refine ends _ ?_
    change patch.followUpIndex.getD _ = index
    rw [count]
    rfl

/-- A sent follow-up is counted once, within the days of the campaign. -/
theorem stages_afterFollowup
    (result : SendResult)
    (left : contact.followUpIndex < campaign.followUpDays.length) :
    Stages (afterFollowup key contact campaign result) fun _ changes =>
      Tallied key campaign.followUpDays.length changes := by
  unfold afterFollowup
  split
  · refine Stages.transition.andThen fun ⟨moved, _⟩ first transition => ?_
    have moves : (∀ change ∈ first, ∃ patch, change = Change.updateContact key patch) ∧
        moved.followUpIndex = contact.followUpIndex := by
      obtain ⟨same, rfl, -⟩ | ⟨status, -, now, same, rfl⟩ := transition
      · exact ⟨fun _ member => (List.not_mem_nil member).elim,
          congrArg Contact.followUpIndex same⟩
      · exact ⟨fun _ member => ⟨_, List.mem_singleton.mp member⟩,
          (congrArg Contact.followUpIndex same).trans rfl⟩
    refine Stages.ask.andThen ?_
    rintro sentAt _ rfl
    refine Stages.assign.andThen ?_
    rintro counted _ ⟨countedAt, same, rfl⟩
    have count : counted.followUpIndex = contact.followUpIndex + 1 := by
      rw [same, ← moves.2]
      rfl
    have tallies : ∀ rest : List Change,
        (∀ change ∈ rest, ∃ patch, change = Change.updateContact key patch) →
        (∀ current : Contact, current.followUpIndex = counted.followUpIndex →
          Within campaign.followUpDays.length (inSession rest key current)) →
        Tallied key campaign.followUpDays.length (first ++ ([] ++ ([.updateContact key
          { lastOutboundAt := some sentAt, followUpIndex := some (moved.followUpIndex + 1),
            updatedAt := some countedAt }] ++ ([] ++ rest)))) := by
      intro rest updates ends
      refine tallied_of_counted rfl moves.1 updates fun current index => ends current ?_
      rw [index, count, moves.2]
    refine Stages.ask.andThen ?_
    rintro now _ rfl
    cases computed : computeNextFollowup now counted campaign with
    | error failure =>
        refine Stages.bind (Stages.ofExcept ⟨rfl, rfl⟩ : Stages (ofExcept (.error failure))
          fun result changes => result = (.error failure : Except Failure (Option Instant)) ∧
            changes = []) ?_ ?_
        · rintro _ _ ⟨⟨⟩, -⟩
        · rintro _ _ ⟨-, rfl⟩
          have again := left_of_computeNextFollowup computed nofun
          refine tallies [] (fun _ member => (List.not_mem_nil member).elim) ?_
          intro current index
          rw [← index] at again
          exact ⟨Nat.le_of_lt again, fun _ => again⟩
    | ok next =>
        refine Stages.bind (Stages.ofExcept ⟨rfl, rfl⟩ : Stages (ofExcept (.ok next))
          fun result changes => result = .ok next ∧ changes = []) ?_ ?_
        · rintro _ _ ⟨⟨⟩, rfl⟩
          refine stages_exhaustSequence.andThen fun ended third calm => ?_
          refine Stages.assign.weaken ?_
          rintro _ fourth ⟨_, -, endedAt, -, rfl⟩
          refine tallies (third ++ [_]) (fun change member => ?_) fun current index => ?_
          · rcases List.mem_append.mp member with earlier | later
            · exact (calm change earlier).1
            · exact ⟨_, List.mem_singleton.mp later⟩
          · rw [inSession_append, inSession_update]
            have kept := (inSession_counted calm current).trans index
            constructor
            · change (inSession third key current).followUpIndex ≤ _
              omega
            · rintro ⟨-, scheduled⟩
              change next ≠ none at scheduled
              have again := left_of_computeNextFollowup computed
                (fun same => scheduled (Except.ok.inj same))
              change (inSession third key current).followUpIndex < _
              rw [kept]
              exact again
        · rintro _ _ ⟨⟨⟩, -⟩
  · split
    · exact stages_escalateUnknown.weaken fun _ _ calm => calm.tallied
    · exact Stages.pure
        (CalmUpdates.tallied fun _ member => (List.not_mem_nil member).elim)

end Native

/-! ## Programs that are careful -/

/-- What is written and what waits for a flush is careful, and something is known of the
database. -/
structure Pursuing
    (frame : Database → Prop)
    (pending : List Change)
    (known : Knowing) : Prop where
  writes : Careful known.base known.writes
  pending : Careful known.base pending
  framed : frame known.base

/-- What is known of the database stays true. -/
def Stays (frame : Database → Prop) : Prop :=
  ∀ {before after}, frame before → Follows before after → frame after

/-- A program that is careful, and remains so. -/
def Pursues
    (frame : Database → Prop)
    {Value : Type}
    (program : Program Value) : Prop :=
  Abides pacing (Pursuing frame) program fun _ => Pursuing frame

section Pursuing

variable {frame : Database → Prop} {pending changes : List Change} {known : Knowing}
variable {store result : Database}

/-- What others commit leaves the pursuit of a contact as it is. -/
theorem Pursuing.others
    (pursuing : Pursuing frame pending known)
    (stays : Stays frame)
    (follows : Follows known.base store) :
    Pursuing frame pending { known with base := store } :=
  ⟨pursuing.writes.follows follows, pursuing.pending.follows follows,
    stays pursuing.framed follows⟩

theorem Pursuing.abort
    (pursuing : Pursuing frame pending known)
    (stays : Stays frame)
    (follows : Follows known.base store) :
    Pursuing frame pending (known.abort store) :=
  ⟨pursuing.writes.follows follows, pursuing.pending.follows follows,
    stays pursuing.framed follows⟩

/-- A flush of careful changes goes on with the pursuit. -/
theorem Pursuing.extend
    (pursuing : Pursuing frame pending known)
    (stays : Stays frame)
    (follows : Follows known.base store)
    (careful : Careful store changes) :
    Pursuing frame pending (known.extend store changes) :=
  ⟨(pursuing.writes.follows follows).append careful, pursuing.pending.follows follows,
    stays pursuing.framed follows⟩

theorem Pursuing.stage
    (pursuing : Pursuing frame pending known)
    (careful : Careful known.base changes) :
    Pursuing frame (pending ++ changes) known :=
  ⟨pursuing.writes, pursuing.pending.append careful, pursuing.framed⟩

end Pursuing

namespace Pursues

variable {frame : Database → Prop} {Value Result : Type}
variable {program : Program Value} {rest : Value → Program Result}

theorem pure {value : Value} : Pursues frame (Pure.pure value : Program Value) :=
  Abides.pure fun _ _ => id

theorem raise {failure : Failure} : Pursues frame (Program.raise failure : Program Value) :=
  Abides.raise fun _ _ => id

theorem bind
    (first : Pursues frame program)
    (second : ∀ value, Pursues frame (rest value)) :
    Pursues frame (program >>= rest) :=
  Abides.bind first second fun _ _ _ => id

/-- In the end less may be known. -/
theorem forget
    {weaker : Database → Prop}
    (pursues : Pursues frame program)
    (implies : ∀ base, frame base → weaker base) :
    Abides pacing (Pursuing frame) program fun _ => Pursuing weaker :=
  Abides.weaken pursues fun _ _ _ holds =>
    ⟨holds.writes, holds.pending, implies _ holds.framed⟩

theorem attempt (pursues : Pursues frame program) : Pursues frame program.attempt := by
  refine (Abides.attempt pursues).weaken ?_
  rintro (_ | result) pending known ends
  · exact ends.elim
  · cases result with
    | ok value => exact ends
    | error failure => exact ends

theorem ite
    {condition : Prop}
    [Decidable condition]
    {first second : Program Value}
    (taken : condition → Pursues frame first)
    (missed : ¬condition → Pursues frame second) :
    Pursues frame (if condition then first else second) :=
  Abides.ite taken missed

theorem ofExcept
    {result : Except Failure Value}
    (returns : ∀ value, result = .ok value → Pursues frame (rest value)) :
    Pursues frame (Program.ofExcept result >>= rest) := by
  cases result with
  | ok value => exact returns value rfl
  | error failure => exact raise

theorem required
    {value : Option Value}
    (returns : ∀ present, value = some present → Pursues frame (rest present)) :
    Pursues frame (Native.required value >>= rest) := by
  cases value with
  | some present => exact returns present rfl
  | none => exact raise

theorem ensuring
    {cleanup : Program Unit}
    (body : Pursues frame program)
    (cleans : Pursues frame cleanup) :
    Pursues frame (Program.ensuring program cleanup) := by
  refine bind body.attempt fun result => bind cleans fun _ => ?_
  cases result with
  | ok value => exact pure
  | error failure => exact raise

theorem forEach
    {items : List Value}
    {body : Value → Program Unit}
    (each : ∀ item ∈ items, Pursues frame (body item)) :
    Pursues frame (Program.forEach items body) := by
  induction items with
  | nil => exact pure
  | cons item rest inductionHypothesis =>
      refine bind (each item List.mem_cons_self) fun _ => ?_
      exact inductionHypothesis fun other member => each other (List.mem_cons_of_mem _ member)

/-- A program that stages careful changes. -/
theorem of_stages
    {ensures : Except Failure Value → List Change → Prop}
    (stays : Stays frame)
    (stages : Stages program ensures)
    (careful : ∀ base result changes, frame base → ensures result changes →
      Careful base changes) :
    Pursues frame program := by
  intro pending known pursuing
  have stable : pacing.Stable interacting (Pursuing frame pending) :=
    { others := fun holds relied => holds.others stays relied
      aborts := fun holds => ⟨holds.writes, holds.pending, holds.framed⟩
      grows := fun {known writes} holds untouched => by
        rw [show writes = [] from List.eq_nil_iff_forall_not_mem.mpr untouched]
        exact ⟨holds.writes.append careful_nil, holds.pending, holds.framed⟩
      asks := fun _ holds _ => ⟨holds.writes, holds.pending, holds.framed⟩ }
  refine (Honours.of_confined stable id (stages pending) pursuing).mono ?_
  rintro ⟨result, _⟩ reached ⟨⟨changes, rfl, ends⟩, holds⟩
  exact holds.stage (careful reached.base result changes holds.framed ends)

/-- A calm change can be staged at any time. -/
theorem stage
    {change : Change}
    (calm : change.Calm) :
    Pursues frame (Program.stage change) :=
  fun _ _ holds => holds.stage (careful_of_calm fun _ member =>
    List.mem_singleton.mp member ▸ calm)

section Statements

variable (stays : Stays frame)

include stays

theorem ask {signal : Signal} : Pursues frame (Program.ask signal) :=
  Abides.ask fun _ _ _ _ holds relied =>
    ⟨holds.writes.follows relied, holds.pending.follows relied, stays holds.framed relied⟩

theorem execute
    {changes : Database → List Change}
    {read : Database → Value}
    (calm : ∀ view, ∀ change ∈ changes view, change.Calm) :
    Pursues frame (Program.execute changes read) :=
  Abides.execute (fun _ _ _ _ holds relied => holds.abort stays relied)
    fun _ _ _ view holds relied _ => holds.extend stays relied (careful_of_calm (calm view))

theorem look {read : Database → Value} : Pursues frame (Program.query read) :=
  execute stays fun _ _ member => (List.not_mem_nil member).elim

theorem flush : Pursues frame Program.flush := by
  refine Abides.flush (fun _ => id) (fun _ _ _ _ holds relied => holds.abort stays relied) ?_
  intro pending known store holds relied
  have flushed := (holds.pending.follows relied).flushed
  exact ⟨(holds.writes.follows relied).append flushed, careful_nil,
    stays holds.framed relied⟩

theorem assign
    {patch : ContactPatch}
    (calm : (Change.updateContact key patch).Calm) :
    Pursues frame (Program.assign key contact patch) :=
  bind (ask stays) fun _ => bind (stage calm) fun _ => pure

/-- A transition that ends the pursuit. -/
theorem interruption
    {event : StateTransitionEvent}
    (interrupts : Interrupts event) :
    Pursues frame (transitionContactState key contact event) := by
  refine of_stages stays (stages_interruption interrupts) ?_
  rintro base _ changes - ⟨_, -, -, calm⟩
  exact careful_of_calm fun change member => (calm change member).2

/-- What a query says of the database stays known. -/
theorem query
    {framed : Value → Database → Prop}
    {read : Database → Value}
    (reads : ∀ store writes view, frame store → Paced store → Careful store writes →
      applyAll Change.apply store writes = some view → framed (read view) store)
    (continues : ∀ value, Abides pacing (Pursuing (framed value)) (rest value)
      fun _ => Pursuing frame) :
    Pursues frame (Program.query read >>= rest) := by
  have asks : Abides pacing (Pursuing frame) (Program.query read)
      (byResult (fun value => Pursuing (framed value)) (Pursuing frame)) := by
    refine Abides.query (fun _ _ _ _ holds relied => holds.abort stays relied) ?_
    intro pending known store view holds relied seen
    have here := holds.others stays relied
    exact ⟨here.writes, here.pending,
      reads store known.writes view here.framed relied.paced here.writes seen⟩
  exact Abides.bind asks continues fun _ _ _ => id

end Statements
end Pursues

/-! ## Follow-ups -/

section Followups

variable {frame : Database → Prop} (stays : Stays frame)

include stays

theorem pursues_utcnow : Pursues frame utcnow :=
  Pursues.ask stays

theorem pursues_addMessage {message : Message} : Pursues frame (addMessage message) :=
  Pursues.bind (Pursues.ask stays) fun _ =>
    Pursues.bind (Pursues.ask stays) fun _ => Pursues.stage trivial

theorem pursues_draftMessage {action : DraftAction} :
    Pursues frame (draftMessage key action) := by
  refine Pursues.bind (Pursues.ask stays) fun reply => ?_
  cases reply with
  | drafted draft => exact Pursues.pure
  | contextualFallbackUnavailable | raised name => exact Pursues.raise

theorem pursues_sendEmail
    {origin : SendOrigin}
    {arguments : SendEmailArguments} :
    Pursues frame (sendEmail deployment.settings origin key arguments) := by
  refine Pursues.bind (Pursues.ask stays) fun behaviour => ?_
  split
  · exact Pursues.pure
  · exact Pursues.raise

theorem pursues_maybeSummarizeOlderMessages {messages : List Message} :
    Pursues frame (maybeSummarizeOlderMessages key contact messages) := by
  refine Pursues.ite (fun _ => Pursues.pure) fun _ => ?_
  refine Pursues.bind (Pursues.ask stays) fun reply => ?_
  cases reply with
  | summarized text =>
      exact Pursues.bind (Pursues.assign stays ⟨rfl, nofun, nofun⟩) fun _ =>
        Pursues.flush stays
  | unavailable => exact Pursues.pure
  | raised name => exact Pursues.raise

theorem pursues_parkForGroundingReview :
    Pursues frame (parkForGroundingReview key contact) :=
  Pursues.bind (Pursues.interruption stays interrupts_needsHuman) fun _ =>
    Pursues.assign stays ⟨rfl, nofun, nofun⟩

end Followups

/-- A contact as it was read, and its campaign: if it was due, a follow-up was left. -/
def Due
    (key : Nat)
    (contact : Contact)
    (campaign : Campaign)
    (database : Database) : Prop :=
  (∃ stored, database.contacts.get key = some stored ∧
    database.campaignOf stored = some campaign ∧ contact.campaignId = stored.campaignId) ∧
    (ActiveAndScheduled contact → contact.followUpIndex < campaign.followUpDays.length)

/-- What others commit leaves a contact due in the same campaign. -/
theorem stays_due : Stays (Due key contact campaign) := by
  rintro before after ⟨⟨stored, found, chosen, same⟩, left⟩ follows
  obtain ⟨kept, foundKept, person⟩ := follows.later.extended.contacts key stored found
  exact ⟨⟨kept, foundKept, campaignOf_of_extends follows.campaigns person.1 chosen,
    same.trans person.1.symm⟩, left⟩

theorem Due.campaignOf
    {store view : Database}
    {writes : List Change}
    (due : Due key contact campaign store)
    (applied : applyAll Change.apply store writes = some view) :
    view.campaignOf contact = some campaign := by
  obtain ⟨⟨stored, -, chosen, same⟩, -⟩ := due
  exact campaignOf_of_extends
    (tracks_campaigns.extends_table (fun _ _ => trivial) applied) same chosen

/-- Tallied changes of a due contact are careful. -/
theorem Due.careful
    {database : Database}
    {changes : List Change}
    (due : Due key contact campaign database)
    (tallied : Tallied key campaign.followUpDays.length changes) :
    Careful database changes := by
  obtain ⟨⟨stored, found, chosen, -⟩, -⟩ := due
  refine ⟨tallied.nobody, fun other limit limits current within => ?_⟩
  by_cases here : other = key
  · subst here
    obtain rfl := limits stored campaign found chosen
    exact tallied.within current within
  · rw [inSession_of_not_mem (tallied.elsewhere other here)]
    exact within

/-- Only an active contact with a date is sent a follow-up. -/
theorem activeAndScheduled_of_canSendFollowup
    {services : Services}
    {now : Instant}
    (sendable : canSendFollowup services now contact = .ok true) :
    ActiveAndScheduled contact := by
  refine ⟨active_of_canSendFollowup sendable, fun unscheduled => ?_⟩
  unfold canSendFollowup at sendable
  rw [unscheduled] at sendable
  split at sendable <;> cases sendable

/-- A follow-up of a due contact is counted within its campaign. -/
theorem pursues_sendFollowupIfDue
    {frame : Database → Prop}
    {origin : Nat → SendOrigin}
    (stays : Stays frame)
    (due : ∀ database, frame database → Due key contact campaign database) :
    Pursues frame (sendFollowupIfDue deployment origin key contact) := by
  refine Pursues.bind (Pursues.ask stays) fun _ => ?_
  refine @Pursues.query frame _ _ _ stays
    (fun loaded base => frame base ∧ loaded = some campaign) _
    (fun store writes view framed _ _ applied =>
      ⟨framed, (due store framed).campaignOf applied⟩) fun loaded => ?_
  refine Pursues.forget ?_ fun _ => And.left
  have stays : Stays fun base => frame base ∧ loaded = some campaign :=
    fun both follows => ⟨stays both.1 follows, both.2⟩
  refine Pursues.ite (fun _ => Pursues.pure) fun _ => ?_
  refine Pursues.bind (pursues_utcnow stays) fun checkedAt => ?_
  refine Pursues.ofExcept fun ready _ => ?_
  refine Pursues.ite (fun _ => Pursues.pure) fun _ => ?_
  refine Pursues.bind (pursues_utcnow stays) fun confirmedAt => ?_
  refine Pursues.ofExcept fun confirmed sendable => ?_
  refine Pursues.ite (fun _ => Pursues.pure) fun confirms => ?_
  have scheduled : ActiveAndScheduled contact := by
    refine activeAndScheduled_of_canSendFollowup (sendable.trans (congrArg Except.ok ?_))
    simpa using confirms
  refine Pursues.bind (Pursues.look stays) fun suppressed => ?_
  refine Pursues.ite (fun _ => ?_) fun _ => ?_
  · refine Pursues.bind (Pursues.interruption stays interrupts_unsubscribed) fun _ => ?_
    exact Pursues.bind (Pursues.assign stays ⟨rfl, nofun, nofun⟩) fun _ =>
      Pursues.bind (Pursues.flush stays) fun _ => Pursues.pure
  refine Pursues.required fun present chosen => ?_
  refine Pursues.bind (pursues_utcnow stays) fun hintedAt => ?_
  refine Pursues.ofExcept fun _ _ => ?_
  refine Pursues.bind (Pursues.look stays) fun messages => ?_
  refine Pursues.bind (pursues_draftMessage stays) fun draft => ?_
  refine Pursues.ite (fun _ => ?_) fun _ => ?_
  · refine Pursues.bind (pursues_addMessage stays) fun _ => ?_
    exact Pursues.bind (pursues_parkForGroundingReview stays) fun _ =>
      Pursues.bind (Pursues.flush stays) fun _ => Pursues.pure
  refine Pursues.bind (pursues_sendEmail stays) fun result => ?_
  refine Pursues.bind (pursues_addMessage stays) fun _ => ?_
  have counts : Pursues (fun base => frame base ∧ loaded = some campaign)
      (afterFollowup key contact present result) := by
    intro pending known holds
    obtain ⟨framed, found⟩ := holds.framed
    obtain rfl : present = campaign := Option.some.inj (chosen.symm.trans found)
    have counts := @stages_afterFollowup key contact present result
      ((due known.base framed).2 scheduled)
    refine Pursues.of_stages stays counts ?_ pending known holds
    exact fun base _ changes both tallied => (due base both.1).careful tallied
  refine Pursues.bind counts fun current => ?_
  refine Pursues.bind (Pursues.flush stays) fun _ => ?_
  exact Pursues.bind (pursues_maybeSummarizeOlderMessages stays) fun _ => Pursues.pure

/-! ## The jobs -/

/-- Every contact that was read has a campaign with which it is as it was read. -/
def AllDue
    (due : List (Nat × Contact))
    (database : Database) : Prop :=
  ∀ entry ∈ due, ∃ campaign, Due entry.1 entry.2 campaign database

theorem stays_allDue {due : List (Nat × Contact)} : Stays (AllDue due) :=
  fun all follows entry member =>
    (all entry member).imp fun _ here => stays_due here follows

/-- A due contact of a batch. -/
theorem pursues_batch
    {due : List (Nat × Contact)}
    {origin : Nat → SendOrigin}
    {entry : Nat × Contact}
    (member : entry ∈ due) :
    Pursues (AllDue due) (sendFollowupIfDue deployment origin entry.1 entry.2) := by
  intro pending known holds
  obtain ⟨campaign, here⟩ := holds.framed entry member
  have stays : Stays fun base => AllDue due base ∧ Due entry.1 entry.2 campaign base :=
    fun both follows => ⟨stays_allDue both.1 follows, stays_due both.2 follows⟩
  refine (pursues_sendFollowupIfDue stays (fun _ both => both.2) pending known
    ⟨holds.writes, holds.pending, holds.framed, here⟩).mono ?_
  exact fun _ _ ends => ⟨ends.writes, ends.pending, ends.framed.1⟩

theorem stays_true : Stays fun _ => True :=
  fun _ _ => trivial

theorem pursues_releaseClaim
    {frame : Database → Prop}
    (stays : Stays frame) :
    Pursues frame (releaseClaim key contact) :=
  Pursues.bind (Pursues.assign stays ⟨rfl, nofun, nofun⟩) fun _ => Pursues.flush stays

theorem pursues_recoverExpiredClaims :
    Pursues (fun _ => True) (recoverExpiredClaims deployment) := by
  refine Pursues.bind (pursues_utcnow stays_true) fun now => ?_
  refine Pursues.bind (Pursues.look stays_true) fun stale => ?_
  refine Pursues.bind (Pursues.forEach fun ⟨key, contact⟩ _ => ?_) fun _ =>
    Pursues.flush stays_true
  exact Pursues.bind (Pursues.assign stays_true ⟨rfl, nofun, nofun⟩) fun _ => Pursues.pure

/-- Claims count nothing. -/
theorem pursues_claimDueContacts
    {workerId : String}
    {status : ContactStatus}
    {locked : List Nat}
    {limit : Nat} :
    Pursues (fun _ => True) (claimDueContacts deployment workerId status locked limit) := by
  refine Pursues.bind (pursues_utcnow stays_true) fun now =>
    Pursues.execute stays_true ?_
  intro view change member
  obtain ⟨key, -, rfl⟩ := List.mem_map.mp member
  exact ⟨rfl, nofun, nofun⟩

/-- A commit leaves nothing that waits for a flush, or fails. -/
theorem pursues_commit : Pursues (fun _ => True) commit := by
  have flushes : Abides pacing (Pursuing fun _ => True) flush fun result pending known =>
      Pursuing (fun _ => True) pending known ∧ (result = .ok () → pending = []) := by
    refine Abides.flush (fun _ holds => ⟨holds, fun _ => rfl⟩) ?_ ?_
    · exact fun _ _ _ _ holds relied => ⟨holds.abort stays_true relied, nofun⟩
    · intro pending known store holds relied
      have flushed := (holds.pending.follows relied).flushed
      exact ⟨⟨(holds.writes.follows relied).append flushed, careful_nil, trivial⟩,
        fun _ => rfl⟩
  refine Abides.bind flushes (fun _ => Abides.commitTransaction ?_ ?_) fun _ _ _ => And.left
  · rintro pending known store ⟨holds, -⟩ relied
    exact ⟨careful_nil, holds.pending.follows relied, trivial⟩
  · rintro pending known store result ⟨holds, flushed⟩ relied applied
    have writes := holds.writes.follows relied
    refine ⟨fun paced key contact found => .inl (writes.paced paced applied key contact found),
      fun _ => ?_⟩
    rw [flushed rfl]
    exact ⟨⟨careful_nil, careful_nil, trivial⟩, careful_nil, careful_nil, trivial⟩

theorem pursues_rollback : Pursues (fun _ => True) rollback :=
  Abides.rollback fun _ _ _ _ _ => ⟨careful_nil, careful_nil, trivial⟩

theorem pursues_session
    {Value : Type}
    {program : Program Value}
    (body : Pursues (fun _ => True) program) :
    Pursues (fun _ => True) (session program) :=
  Pursues.ensuring body pursues_rollback

theorem pursues_sessionScope
    {Value : Type}
    {program : Program Value}
    (body : Pursues (fun _ => True) program) :
    Pursues (fun _ => True) (sessionScope program) := by
  refine pursues_session (Pursues.bind (Pursues.attempt (Pursues.bind body fun value =>
    Pursues.bind pursues_commit fun _ => Pursues.pure)) fun result => ?_)
  cases result with
  | ok value => exact Pursues.pure
  | error failure => exact Pursues.bind pursues_rollback fun _ => Pursues.raise

/-- What the cycle reads of the contacts it claimed. -/
theorem allDue_reloadActive
    {claimed : List Nat}
    {store view : Database}
    {writes : List Change}
    (paced : Paced store)
    (careful : Careful store writes)
    (applied : applyAll Change.apply store writes = some view) :
    AllDue (reloadActive claimed view) store := by
  rintro ⟨key, contact⟩ member
  obtain ⟨other, -, chosen⟩ := List.mem_filterMap.mp member
  split at chosen
  · obtain ⟨same, found, equal⟩ := Option.map_eq_some_iff.mp chosen
    cases equal
    obtain ⟨stored, campaign, foundStored, owner, person, within⟩ :=
      careful.view paced applied found
    exact ⟨campaign, ⟨stored, foundStored, owner, person⟩, within.scheduled⟩
  · cases chosen

/-- The due contacts of a batch, each with its release. -/
theorem pursues_dueFollowups {due : List (Nat × Contact)} :
    Pursues (AllDue due) (forEach due fun (key, contact) =>
      Program.ensuring
        (do
          let _ ← attempt (sendFollowupIfDue deployment .followUp key contact))
        (releaseClaim key contact)) := by
  refine Pursues.forEach fun entry member => ?_
  obtain ⟨key, contact⟩ := entry
  refine Pursues.ensuring ?_ (pursues_releaseClaim stays_allDue)
  exact Pursues.bind (pursues_batch member).attempt fun _ => Pursues.pure

/-- The cycle for follow-ups counts within the campaigns. -/
theorem pursues_runFollowupCycle
    {workerId : String}
    {locked : List Nat} :
    Pursues (fun _ => True) (runFollowupCycle deployment workerId locked) := by
  refine Pursues.bind pursues_recoverExpiredClaims fun _ => ?_
  refine Pursues.bind pursues_claimDueContacts fun claimed => ?_
  refine Pursues.ite (fun _ => Pursues.pure) fun _ => ?_
  refine @Pursues.query (fun _ => True) _ _ _ stays_true AllDue _
    (fun _ _ _ _ paced careful applied => allDue_reloadActive paced careful applied)
    fun due => ?_
  exact (Pursues.forget pursues_dueFollowups fun _ _ => trivial).bind (fun _ => pursues_commit)
    fun _ _ _ ends => ends

/-! ## Forced follow-ups -/

/-- Nothing but plain changes was made. -/
def Plainly (known : Knowing) : Prop :=
  ∀ change ∈ known.writes, change.Plain

theorem stable_plainly : pacing.Stable plainly Plainly where
  others plain _ := plain
  aborts plain := plain
  grows plain changes change member :=
    (List.mem_append.mp member).elim (plain change) fun fresh =>
      (changes change fresh).resolve_right id
  asks _ plain _ := plain

theorem Change.Plain.uncounted
    {change : Change}
    (plain : change.Plain) :
    change.Uncounted := by
  cases change with
  | insertContact row => exact plain.elim
  | updateContact key patch => exact plain
  | _ => trivial

/-- Uncounted changes are accounted for. -/
theorem accounted_of_uncounted
    {before after : Database}
    {changes : List Change}
    (uncounted : ∀ change ∈ changes, change.Uncounted)
    (applied : applyAll Change.apply before changes = some after) :
    Accounted before after := by
  intro key contact found
  rcases tracks_counts.origin uncounted applied found with ⟨old, stored, same⟩ |
    ⟨change, member, row, inserted, -⟩
  · exact .inr ⟨old, stored, same⟩
  · cases change with
    | insertContact other => exact (uncounted _ member).elim
    | _ => cases inserted

/-- Before the first commit of a forced follow-up. -/
def Preparing : Situation :=
  fun pending known => (∀ change ∈ pending, plainly.writes change) ∧ Plainly known

/-- A plain program goes on with any preparation. -/
theorem abides_preparing
    {Value : Type}
    {program : Program Value}
    (confined : program.Confined plainly fun _ => True) :
    Abides pacing Preparing program fun _ => Preparing := by
  refine (Abides.of_confined stable_plainly id confined).weaken ?_
  exact fun _ _ _ ends => ⟨ends.1, ends.2.1⟩

/-- Nothing is written or waits for a flush. -/
def Idle : Situation :=
  fun pending known => pending = [] ∧ known.writes = []

theorem Idle.pursuing
    {pending : List Change}
    {known : Knowing}
    (idle : Idle pending known) :
    Pursuing (fun _ => True) pending known := by
  obtain ⟨rfl, writes⟩ := idle
  refine ⟨?_, careful_nil, trivial⟩
  rw [writes]
  exact careful_nil

/-- The commit of a new date counts nothing. -/
theorem abides_commit_preparing :
    Abides pacing Preparing commit fun result pending known =>
      result = .ok () → Idle pending known := by
  have flushes : Abides pacing Preparing flush fun result pending known =>
      Preparing pending known ∧ (result = .ok () → pending = []) := by
    refine Abides.flush (fun _ holds => ⟨holds, fun _ => rfl⟩) ?_ ?_
    · exact fun _ _ _ _ holds _ => ⟨holds, nofun⟩
    · intro pending known store holds relied
      refine ⟨⟨fun _ member => (List.not_mem_nil member).elim, ?_⟩, fun _ => rfl⟩
      intro change member
      rcases List.mem_append.mp member with earlier | fresh
      · exact holds.2 change earlier
      · exact (holds.1 change (mem_unitOfWork.mp fresh)).resolve_right id
  refine Abides.bind flushes (fun _ => Abides.commitTransaction ?_ ?_) ?_
  · exact fun _ _ _ _ _ => nofun
  · rintro pending known store result ⟨holds, flushed⟩ relied applied
    refine ⟨fun _ => accounted_of_uncounted (fun change member =>
      Change.Plain.uncounted (holds.2 change member)) applied, fun _ => ?_⟩
    exact ⟨fun _ => ⟨flushed rfl, rfl⟩, nofun⟩
  · exact fun _ _ _ _ => nofun

/-- A contact that was loaded in a new transaction. -/
theorem abides_forced
    {current : Option Contact → Program (Option OutreachAction)}
    (continues : ∀ loaded, Abides pacing
      (Pursuing (AllDue (loaded.toList.map fun contact => (key, contact))))
      (current loaded) fun _ => Pursuing fun _ => True) :
    Abides pacing Idle (loadContact key >>= current) fun _ => Pursuing fun _ => True := by
  rintro pending known idle
  have holds := idle.pursuing
  obtain ⟨rfl, -⟩ := idle
  refine @Pursues.query (fun _ => True) _ _ _ stays_true
    (fun loaded => AllDue (loaded.toList.map fun contact => (key, contact)))
    (fun view => (view.contacts.get key).map (inSession [] key)) ?_ continues [] known holds
  rintro store writes view - paced careful applied ⟨other, contact⟩ member
  obtain ⟨same, loaded, equal⟩ := List.mem_map.mp member
  obtain ⟨row, found, rfl⟩ := Option.map_eq_some_iff.mp (Option.mem_toList.mp loaded)
  cases equal
  obtain ⟨stored, campaign, foundStored, owner, person, within⟩ :=
    careful.view paced applied found
  exact ⟨campaign, ⟨stored, foundStored, owner, person⟩, within.scheduled⟩

/-- Whatever a program before the first commit returns. -/
theorem abides_first
    {Value Result : Type}
    {program : Program Value}
    {rest : Value → Program Result}
    (confined : program.Confined plainly fun _ => True)
    (continues : ∀ value, Abides pacing Preparing (rest value) fun _ _ _ => True) :
    Abides pacing Preparing (program >>= rest) fun _ _ _ => True :=
  (abides_preparing confined).bind continues fun _ _ _ _ => trivial

theorem abides_session
    {Value : Type}
    {program : Program Value}
    (body : Abides pacing Preparing program fun _ _ _ => True) :
    Abides pacing Preparing (session program) fun _ => Pursuing fun _ => True := by
  refine Abides.bind body.attempt (fun result => ?_) fun _ _ _ ends => ends.elim
  have rolled : Abides pacing (attempted (fun _ _ _ => True) (.ok result)) rollback
      fun _ => Pursuing fun _ => True :=
    Abides.rollback fun _ _ _ _ _ => ⟨careful_nil, careful_nil, trivial⟩
  refine rolled.bind (fun _ => ?_) fun _ _ _ ends => ends
  cases result with
  | ok value => exact Pursues.pure
  | error failure => exact Pursues.raise

/-- A forced follow-up counts like a due one. -/
theorem abides_forceFollowup
    {organization : String}
    {contactId : Nat} :
    Abides pacing Idle (forceFollowup deployment organization contactId)
      fun _ => Pursuing fun _ => True := by
  have refuses : ∀ {Value : Type} (failure : Failure), Abides pacing Preparing
      (raise failure : Program Value) fun _ _ _ => True :=
    fun _ => Abides.raise fun _ _ _ => trivial
  have prepared : ∀ pending known, Idle pending known → Preparing pending known := by
    rintro _ known ⟨rfl, writes⟩
    refine ⟨fun _ member => (List.not_mem_nil member).elim, ?_⟩
    unfold Plainly
    rw [writes]
    exact fun _ member => (List.not_mem_nil member).elim
  refine (abides_session ?_).strengthen prepared
  refine abides_first plain_getContactOr404 fun contact => ?_
  refine abides_first plain_query fun campaign => ?_
  refine Abides.ite (fun _ => refuses _) fun _ => ?_
  refine abides_first plain_utcnow fun now => ?_
  refine abides_first plain_ofExcept fun ready => ?_
  refine Abides.ite (fun _ => refuses _) fun _ => ?_
  refine abides_first plain_utcnow fun dueAt => ?_
  refine abides_first (plain_assign rfl rfl) fun _ => ?_
  refine abides_commit_preparing.bind (fun _ => ?_) fun _ _ _ _ => trivial
  refine Abides.weaken (Abides.strengthen (abides_forced fun loaded => ?_) fun _ _ ends =>
    ends rfl) fun _ _ _ _ => trivial
  cases loaded with
  | none => exact Pursues.forget Pursues.raise fun _ _ => trivial
  | some current =>
      have sends := @pursues_batch deployment [(contactId, current)]
        .forcedFollowUp (contactId, current) (List.mem_singleton.mpr rfl)
      change Abides pacing _ (sendFollowupIfDue deployment .forcedFollowUp contactId current >>=
        fun action => commit >>= fun _ => pure action) _
      refine Abides.bind (Pursues.forget sends fun _ _ => trivial) (fun action => ?_)
        fun _ _ _ ends => ends
      exact Pursues.bind pursues_commit fun _ => Pursues.pure

end MailerAgent
