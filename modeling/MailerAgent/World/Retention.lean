import MailerAgent.Native.Credentials
import MailerAgent.World.Handling
import MailerAgent.World.Tenants

/-!
# Retained mail in a run

Nothing is resolved that is not attached, in any interleaving. A pair is never both
attached and unresolved as long as no poll attaches a pair while another one handles it,
and none retains a pair while another one is about to attach it. Without that, a poll that
looked a pair up before its contact existed retains what another poll has attached since.
-/

namespace MailerAgent

open Concurrent Relational Dispatch Intake Mail Native Program

variable {deployment : Deployment} {exclusive : Prop} {before after world : World}
variable {action : Action}

/-- A step that commits an inbound message is taken while no other poll handles its pair,
and one that commits a retained copy while no other poll has an uncommitted message with
its pair. -/
def Undisputed
    (world : World)
    (action : Action) : Prop :=
  ∀ number stimulus running rest other rival pair,
    action = .native number stimulus → world.natives number = some running →
    running.thread.process = .commit rest →
    other ≠ number → world.natives other = some rival →
    (Attaching running.thread.session.writes pair →
      handledMessage rival.observed ≠ some pair) ∧
    (Retaining running.thread.session.writes pair →
      ¬Attaching rival.thread.session.writes pair)

/-! ## Operations -/

/-- What operations do that are no polls. -/
def aside : Bounds Change Signal where
  writes := Change.Aside
  asks _ := True
  transacts := True

theorem aside_of_plain
    {bounds : Bounds Change Signal}
    (writes : ∀ change, bounds.writes change → change.Aside)
    {thread : NativeThread}
    (confined : thread.Confined (withPlain bounds)) :
    thread.Confined aside :=
  confined.mono (fun change => Or.rec Change.Plain.aside (writes change))
    (fun _ _ => trivial) fun _ => trivial

/-- An operation that is no poll stays aside. -/
theorem confined_aside
    {operation : Operation}
    (other : operation ≠ .pollMailboxInboxesJob) :
    Thread.Confined aside (⟨operation.program deployment [], {}⟩ : NativeThread) := by
  have plainly : operation.Plain →
      Thread.Confined aside (⟨operation.program deployment [], {}⟩ : NativeThread) := by
    refine fun plain => aside_of_plain ?_ plain.start
    intro change works
    cases change with
    | insertContact row => trivial
    | updateContact key patch => trivial
    | recordSend key record => trivial
    | _ => exact works.elim
  cases operation with
  | createMailbox organization payload =>
      refine (confined_createMailbox.start).mono ?_ (fun _ _ => trivial) fun _ => trivial
      rintro _ ⟨row, rfl, -⟩
      trivial
  | updateMailbox organization publicReference payload =>
      exact (confined_updateMailbox (fun _ _ => trivial) trivial trivial).start
  | pollMailboxInboxesJob => exact absurd rfl other
  | _ => exact plainly trivial

/-- What is true of a running operation: a poll honours the agreement, and everything else
stays aside. -/
structure Participates
    (exclusive : Prop)
    (database : Database)
    (running : Running) : Prop where
  honours : running.operation = .pollMailboxInboxesJob →
    running.thread.Honours (coupling exclusive) (fun _ _ => True) database running.observed
  receives : running.operation = .pollMailboxInboxesJob →
    running.thread.Confined (withPlain receiving)
  aside : running.operation ≠ .pollMailboxInboxesJob → running.thread.Confined aside

theorem Participates.start
    {database earlier : Database}
    {position : Nat}
    {operation : Operation}
    (current : Later database database) :
    Participates exclusive database
      (Running.start deployment earlier position operation) where
  honours polls := by
    change operation = .pollMailboxInboxesJob at polls
    subst polls
    refine Thread.Honours.start ⟨current, fun _ _ _ => ⟨id, fun _ => id⟩⟩ ?_
    have abides : Abides (coupling exclusive) Resting
        (Operation.pollMailboxInboxesJob.program deployment) fun _ => Resting :=
      abides_pollAllMailboxesReport.bind (fun _ => Abides.pure fun _ _ => id)
        fun _ _ _ ends => ends
    exact (abides [] _ ⟨rfl, rfl, current⟩).mono fun _ _ _ => trivial
  receives polls := by
    change operation = .pollMailboxInboxesJob at polls
    subst polls
    exact Confined.start
      (Confined.bind plain_pollAllMailboxesReport fun _ _ => Confined.pure trivial)
  aside := confined_aside

/-! ## One step -/

/-- A step that neither attaches nor retains anything. -/
structure Quiet (before after : Database) : Prop where
  later : Later before after
  unmatched : after.unmatched = before.unmatched
  attached : ∀ pair, Attached after pair → Attached before pair

theorem Quiet.guarantee
    {first second : Database}
    (quiet : Quiet first second) :
    (coupling exclusive).guarantee first second := by
  refine ⟨fun justified => justified_of_same justified quiet.unmatched fun _ there =>
    there.of_extends quiet.later.extended, fun _ separate pair there => ?_⟩
  rw [unresolved_congr quiet.unmatched]
  exact separate pair (quiet.attached pair there)

theorem Quiet.rely
    {first second : Database}
    {observed : Observed}
    {writes : List Change}
    (quiet : Quiet first second) :
    (coupling exclusive).rely observed writes first second :=
  ⟨quiet.later, fun _ pair _ => ⟨quiet.attached pair,
    fun _ => (unresolved_congr quiet.unmatched).mp⟩⟩

theorem quiet_of_edits
    {first second : Database}
    (later : Later first second)
    (edits : Edits first second) :
    Quiet first second where
  later := later
  unmatched := edits.untouched.2.2
  attached _ := attached_of_arrived later fun _ _ found polled =>
    (edits.arrived found polled).imp fun _ => And.left

theorem quiet_of_aside
    {first second : Database}
    {writes : List Change}
    (later : Later first second)
    (aside : ∀ change ∈ writes, change.Aside)
    (applied : applyAll Change.apply first writes = some second) :
    Quiet first second where
  later := later
  unmatched := applyAll_unmatched (fun change member => (aside change member).not_retains)
    applied
  attached _ := attached_of_arrived later (arrived_of_aside aside applied)

theorem quiet_refl
    {database : Database}
    (current : Later database database) :
    Quiet database database :=
  ⟨current, rfl, fun _ => id⟩

/-- A step is quiet, or a poll commits. -/
inductive CouplingStep
    (exclusive : Prop)
    (before : World)
    (action : Action)
    (after : World) : Prop where
  | quiet (nothing : Quiet before.database after.database)
  | commit
      (number : Nat)
      (stimulus : Stimulus Signal Signal.Reply)
      (running : Running)
      (rest : Bool → Script (Except Failure Unit × List Change))
      (steps : action = .native number stimulus)
      (found : before.natives number = some running)
      (polls : running.operation = .pollMailboxInboxesJob)
      (commits : running.thread.process = .commit rest)
      (applied : applyAll Change.apply before.database running.thread.session.writes =
        some after.database)
      (guaranteed : (coupling exclusive).guarantee before.database after.database)

theorem coupling_of_step
    (reachable : (system deployment).Reachable before)
    (operations : ∀ number running, before.natives number = some running →
      Participates exclusive before.database running)
    (stepped : before.step deployment action = some after) :
    CouplingStep exclusive before action after := by
  have later := (effect_of_reachable reachable stepped).later
  rcases database_of_step reachable stepped with edits |
    ⟨number, stimulus, old, thread, asked, rfl, found, advanced, -⟩
  · exact .quiet (quiet_of_edits later edits)
  have participates := operations number old found
  rcases Thread.step_commit advanced with same | ⟨⟨rest, commits⟩, applied⟩
  · rw [same] at later
    exact .quiet (same.symm ▸ quiet_refl later)
  by_cases polls : old.operation = .pollMailboxInboxesJob
  · rcases (participates.honours polls).guarantee advanced with same | guaranteed
    · rw [same] at later
      exact .quiet (same.symm ▸ quiet_refl later)
    · exact .commit number stimulus old rest rfl found polls commits applied guaranteed
  · exact .quiet (quiet_of_aside later (participates.aside polls).writes applied)

/-- What the commit of one poll means for another operation. -/
theorem rely_of_commit
    {number other : Nat}
    {stimulus : Stimulus Signal Signal.Reply}
    {running rival : Running}
    {rest : Bool → Script (Except Failure Unit × List Change)}
    (later : Later before.database after.database)
    (undisputed : exclusive → Undisputed before (.native number stimulus))
    (receives : running.thread.Confined (withPlain receiving))
    (found : before.natives number = some running)
    (commits : running.thread.process = .commit rest)
    (applied : applyAll Change.apply before.database running.thread.session.writes =
      some after.database)
    (elsewhere : other ≠ number)
    (foundRival : before.natives other = some rival) :
    (coupling exclusive).rely rival.observed rival.thread.session.writes before.database
      after.database := by
  refine ⟨later, fun holds pair handles => ?_⟩
  obtain ⟨attaches, retains⟩ := undisputed holds number stimulus running rest other rival pair
    rfl found commits elsewhere foundRival
  constructor
  · intro attached
    have mail : ∀ change ∈ running.thread.session.writes, ¬change.Approves := by
      intro change member
      rcases receives.writes change member with plain | received
      · exact plain.not_approves
      · cases change with
        | recordSend key record => exact received.elim
        | _ => exact id
    refine (attached_of_applyAll mail applied attached).resolve_right fun attaching => ?_
    exact attaches attaching handles
  · intro attaching unresolved
    refine (unresolved_of_applyAll applied unresolved).resolve_right fun retaining => ?_
    exact retains retaining attaching

/-- Another operation goes on as before. -/
theorem Participates.others
    {running : Running}
    {first second : Database}
    (participates : Participates exclusive first running)
    (relied : (coupling exclusive).rely running.observed running.thread.session.writes first
      second) :
    Participates exclusive second running :=
  ⟨fun polls => (participates.honours polls).others coupling_lawful relied,
    participates.receives, participates.aside⟩

/-- An operation after its own step. -/
theorem Participates.stepped
    {running : Running}
    {first second : Database}
    {position : Nat}
    {stimulus : Stimulus Signal Signal.Reply}
    {thread : NativeThread}
    {asked : Option Signal}
    (participates : Participates exclusive first running)
    (later : Later first second)
    (advanced : running.thread.step Change.apply first stimulus = some (second, thread, asked)) :
    Participates exclusive second (running.after first position stimulus thread asked) where
  honours polls := by
    have honours := (participates.honours polls).step coupling_lawful
      ⟨later.refl_right, fun _ _ _ => ⟨id, fun _ => id⟩⟩ advanced
    cases asked with
    | none => exact honours
    | some signal => exact honours
  receives polls := ((participates.receives polls).step advanced).1
  aside other := ((participates.aside other).step advanced).1

/-! ## Runs -/

/-- The invariant of the polls. -/
structure Coupled
    (exclusive : Prop)
    (world : World) : Prop where
  justified : Justified world.database
  separate : exclusive → Separate world.database
  operations : ∀ number running, world.natives number = some running →
    Participates exclusive world.database running

theorem Coupled.step
    (coupled : Coupled exclusive before)
    (reachable : (system deployment).Reachable before)
    (undisputed : exclusive → Undisputed before action)
    (stepped : before.step deployment action = some after) :
    Coupled exclusive after := by
  have later := (effect_of_reachable reachable stepped).later
  have step := coupling_of_step reachable coupled.operations stepped
  have guaranteed : (coupling exclusive).guarantee before.database after.database := by
    cases step with
    | quiet nothing => exact nothing.guarantee
    | commit _ _ _ _ _ _ _ _ _ guaranteed => exact guaranteed
  refine ⟨guaranteed.1 coupled.justified, fun holds =>
    guaranteed.2 holds (coupled.separate holds), fun other rival found => ?_⟩
  cases operation_of_step stepped found with
  | started operation _ fresh =>
      subst fresh
      exact Participates.start later.refl_right
  | stepped stimulus old thread asked _ foundOld advanced next =>
      subst next
      exact (coupled.operations other old foundOld).stepped later advanced
  | kept foundRival elsewhere =>
      refine (coupled.operations other rival foundRival).others ?_
      cases step with
      | quiet nothing => exact nothing.rely
      | commit number stimulus running rest steps foundRunning polls commits applied _ =>
          subst steps
          refine rely_of_commit later undisputed
            ((coupled.operations number running foundRunning).receives polls) foundRunning commits
            applied ?_ foundRival
          rintro rfl
          exact elsewhere stimulus rfl

theorem coupled_initial (clock : Instant) : Coupled exclusive { clock := clock } where
  justified key row found := by cases found
  separate := by
    rintro - pair ⟨key, message, found, -⟩
    cases found
  operations _ _ found := (Option.some_ne_none _ found.symm).elim

theorem coupled_of_reachableWhen
    (reachable : (system deployment).ReachableWhen
      (fun state action => exclusive → Undisputed state action) world) :
    Coupled exclusive world := by
  obtain ⟨start, ⟨clock, rfl⟩, reaches⟩ := reachable
  refine (reaches.invariant
    (fun state => (system deployment).Reachable state ∧ Coupled exclusive state)
    ⟨.of_initial ⟨clock, rfl⟩, coupled_initial clock⟩ ?_).2
  intro state action next ⟨reached, coupled⟩ undisputed stepped
  exact ⟨reached.step stepped, coupled.step reached undisputed stepped⟩

/-- In every reachable state a retained copy is resolved only if a message of its mailbox
and identity is stored. In every run in which no step commits a message while another poll
handles its pair, nor a retained copy while another poll has an uncommitted message with its
pair, no pair has both a message and an unresolved retained copy. -/
theorem retained_mail_coupled
    (deployment : Deployment)
    (world : World) :
    ((system deployment).Reachable world →
      ∀ key row, world.database.unmatched.get key = some row → row.resolvedAt ≠ none →
        Attached world.database (row.mailboxId, row.messageIdHeader)) ∧
    ((system deployment).ReachableWhen Undisputed world →
      ∀ pair, ¬(Attached world.database pair ∧ Unresolved world.database pair)) := by
  constructor
  · intro reachable
    exact (@coupled_of_reachableWhen deployment False world
      (reachable.when fun _ _ => False.elim)).justified
  · rintro reachable pair ⟨attached, unresolved⟩
    have coupled : Coupled True world := by
      refine coupled_of_reachableWhen (reachable.imp ?_)
      exact fun _ _ undisputed _ => undisputed
    exact coupled.separate trivial pair attached unresolved

namespace Sample

/-- A server with one letter, and a classifier that takes it for an absence note. -/
def offersAbsence : (signal : Signal) → signal.Reply
  | .classify _ _ _ =>
      .ok { success := true, semanticIntent := some { intents := [.outOfOffice] } }
  | signal => offers (letter "p@x.test" "<m1@x.test>") signal

/-- The pair of the letter. -/
def letterPair : Nat × String := (0, "<m1@x.test>")

/-- A request for a contact with the address of the sender. -/
def lead : Operation := .ingestLeads "acme" 0 [[("email", .text "p@x.test")]]

/-- A poll finds no contact for the letter and is about to retain it. Then the contact
appears, another poll attaches the letter, and the first one goes on. -/
def overtakenPoll : List Action :=
  perform 0 (.createCampaign "acme" campaign) answer 3 ++
    perform 1 (.createMailbox "acme" polledMailbox) answer 6 ++
    perform 3 .pollMailboxInboxesJob offersAbsence 10 ++ perform 2 lead answer 6 ++
    perform 4 .pollMailboxInboxesJob offersAbsence 27 ++
    List.replicate 5 (.native 3 { answer := offersAbsence })

/-- The same, one operation after the other: the letter is retained, the contact appears,
and the next poll attaches the letter. -/
def inTurn : List Action :=
  perform 0 (.createCampaign "acme" campaign) answer 3 ++ .stop 0 ::
    perform 0 (.createMailbox "acme" polledMailbox) answer 6 ++ .stop 0 ::
    perform 0 .pollMailboxInboxesJob offersAbsence 15 ++ .stop 0 ::
    perform 0 lead answer 6 ++ .stop 0 :: perform 0 .pollMailboxInboxesJob offersAbsence 27

/-- The action is one of the first operation, if it is one of any. -/
def ofFirst : Action → Bool
  | .start number _ | .native number _ => number == 0
  | _ => true

theorem attached_of_existsWhere
    {database : Database}
    {pair : Nat × String}
    (present : database.messages.existsWhere (fun message =>
      message.direction == .inbound && message.mailboxIdentity == some pair) = true) :
    Attached database pair := by
  obtain ⟨key, message, found, holds⟩ := (Table.existsWhere_iff _ _).mp present
  simp only [Bool.and_eq_true, beq_iff_eq] at holds
  exact ⟨key, message, found, holds⟩

theorem unresolved_of_hasUnresolvedCopy
    {database : Database}
    {pair : Nat × String}
    (has : hasUnresolvedCopy pair.1 pair.2 database = true) :
    Unresolved database pair := by
  obtain ⟨key, row, found, holds⟩ := (Table.existsWhere_iff _ _).mp has
  simp only [Bool.and_eq_true, beq_iff_eq, Option.isNone_iff_eq_none] at holds
  refine ⟨key, row, found, ?_, holds.2⟩
  rw [UnmatchedInboundMessage.mailboxIdentity, holds.1.1, holds.1.2]

/-- The first operation is the only one. -/
def Alone (world : World) : Prop :=
  ∀ other, other ≠ 0 → world.natives other = none

theorem Alone.step
    {deployment : Deployment}
    {world next : World}
    {action : Action}
    (alone : Alone world)
    (first : ofFirst action = true)
    (stepped : world.step deployment action = some next) :
    Alone next := by
  intro other elsewhere
  by_contra present
  obtain ⟨running, found⟩ := Option.ne_none_iff_exists'.mp present
  cases operation_of_step stepped found with
  | kept foundOld _ =>
      rw [alone other elsewhere] at foundOld
      cases foundOld
  | started operation starts _ =>
      subst starts
      exact elsewhere (beq_iff_eq.mp first)
  | stepped stimulus _ _ _ steps _ _ _ =>
      subst steps
      exact elsewhere (beq_iff_eq.mp first)

/-- One operation at a time disturbs nobody. -/
theorem undisputed_of_alone
    {world : World}
    {action : Action}
    (alone : Alone world)
    (first : ofFirst action = true) :
    Undisputed world action := by
  intro number stimulus running rest other rival pair steps found commits elsewhere foundRival
  subst steps
  obtain rfl := beq_iff_eq.mp first
  rw [alone other elsewhere] at foundRival
  cases foundRival

end Sample

/-- The overtaken poll leaves an unresolved copy of an attached letter. -/
theorem retained_mail_uncoupled :
    ∃ world, (system Sample.deployment).Reachable world ∧
      Attached world.database Sample.letterPair ∧
      Unresolved world.database Sample.letterPair := by
  obtain ⟨world, reachable, holds⟩ := reachable_of_any Sample.deployment Sample.overtakenPoll
    (fun world => (world.database.messages.existsWhere fun message =>
        message.direction == .inbound &&
          message.mailboxIdentity == some Sample.letterPair) &&
      hasUnresolvedCopy Sample.letterPair.1 Sample.letterPair.2 world.database)
    (by decide +kernel)
  rw [Bool.and_eq_true] at holds
  exact ⟨world, reachable, Sample.attached_of_existsWhere holds.1,
    Sample.unresolved_of_hasUnresolvedCopy holds.2⟩

/-- In turn, the retained copy is resolved and the letter is attached. -/
theorem retained_mail_coupled_in_turn :
    ∃ world, (system Sample.deployment).ReachableWhen Undisputed world ∧
      Attached world.database Sample.letterPair ∧
      ¬Unresolved world.database Sample.letterPair ∧
      ∃ key row, world.database.unmatched.get key = some row ∧ row.resolvedAt ≠ none := by
  obtain ⟨world, ran, holds⟩ := (Option.any_eq_true _ _).mp
    (show ((system Sample.deployment).run {} Sample.inTurn).any (fun world =>
      (world.database.messages.existsWhere fun message =>
          message.direction == .inbound &&
            message.mailboxIdentity == some Sample.letterPair) &&
        world.database.unmatched.existsWhere fun row => row.resolvedAt.isSome) = true by
      decide +kernel)
  rw [Bool.and_eq_true] at holds
  have first : ∀ action ∈ Sample.inTurn, Sample.ofFirst action = true :=
    List.all_eq_true.mp (by decide +kernel)
  have reaches : (system Sample.deployment).ReachesWhen Undisputed {} world := by
    refine Transition.System.reachesWhen_of_run Sample.Alone (fun _ _ => rfl) ?_ ?_ ran
    · exact fun state action member alone => Sample.undisputed_of_alone alone (first _ member)
    · exact fun state action next member alone => alone.step (first _ member)
  have reachable : (system Sample.deployment).ReachableWhen Undisputed world :=
    ⟨{}, ⟨0, rfl⟩, reaches⟩
  have attached := Sample.attached_of_existsWhere holds.1
  obtain ⟨key, row, found, resolved⟩ := (Table.existsWhere_iff _ _).mp holds.2
  refine ⟨world, reachable, attached, fun unresolved => ?_, key, row, found, ?_⟩
  · exact (retained_mail_coupled Sample.deployment world).2 reachable Sample.letterPair
      ⟨attached, unresolved⟩
  · intro unset
    rw [unset] at resolved
    cases resolved

end MailerAgent
