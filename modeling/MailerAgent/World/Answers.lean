import MailerAgent.Native.Replying
import MailerAgent.World.AutoReply
import MailerAgent.World.Retention

/-!
# Answers to polled mail

A poll sends the automatic reply to a message in the middle of the transaction that stores
the message. If the transaction is lost afterwards, nothing remembers the reply: the
message stays unseen, and the next poll answers it again. As long as no transaction is lost
in which a reply was sent, every message is answered at most once: the row that is stored
before the reply keeps all other polls from answering, first because the unique index makes
their insertions wait for the transaction, and then because it is committed.
-/

namespace MailerAgent

open Concurrent Relational Dispatch Intake Mail Native Program

/-! ## Replies -/

/-- An automatic reply to a message, by its mailbox and identity, that was sent or may have
been sent. -/
def RepliesTo
    (pair : Nat × String)
    (call : SendCall) : Bool :=
  call.origin == .automaticReply && call.answers == some pair &&
    match call.report with
    | .returned result => result.outcome == .sent || result.outcome == .unknown
    | .raised _ => false

/-- The open transaction of an operation has stored the message. -/
structure Running.HasStored
    (running : Running)
    (pair : Nat × String) : Prop where
  usable : running.thread.session.aborted = false
  stores : Attaching running.thread.session.writes pair

/-- The same, and the message was answered. -/
structure Answered
    (world : World)
    (running : Running)
    (pair : Nat × String) : Prop where
  stored : running.HasStored pair
  replied : ∃ call ∈ world.calls, RepliesTo pair call = true

/-- A step that does not lose the open transaction of a thread. -/
def Secures
    (database : Database)
    (thread : NativeThread)
    (stimulus : Stimulus Signal Signal.Reply) : Bool :=
  match thread.process with
  | .statement run _ =>
      !(runStatement Change.apply database thread.session stimulus.fault run).2.aborted
  | .commit _ => (thread.session.landing Change.apply database stimulus.commit).isSome
  | .rollback _ => false
  | _ => true

/-- No transaction is lost in which a message was answered, and a statement that stores a
message waits for the transactions that have stored it. -/
structure KeepsAnswers
    (world : World)
    (action : Action) : Prop where
  steps : ∀ number stimulus running pair, action = .native number stimulus →
    world.natives number = some running → Answered world running pair →
    Secures world.database running.thread stimulus = true
  stops : ∀ number running pair, action = .stop number →
    world.natives number = some running → ¬Answered world running pair
  waits : ∀ number stimulus running run next view changes pair other rival,
    action = .native number stimulus → world.natives number = some running →
    running.thread.process = .statement run next →
    applyAll Change.apply world.database running.thread.session.writes = some view →
    run view = some changes → Attaching changes pair →
    other ≠ number → world.natives other = some rival → ¬rival.HasStored pair

/-! ## What a transaction has stored -/

section Stored

variable {before middle after : Database} {writes changes : List Change} {pair : Nat × String}

/-- A message has the pair. -/
def Taken
    (database : Database)
    (pair : Nat × String) : Prop :=
  ∃ key message, database.messages.get key = some message ∧
    message.mailboxIdentity = some pair

theorem Attached.taken (attached : Attached before pair) : Taken before pair := by
  obtain ⟨key, message, found, -, identity⟩ := attached
  exact ⟨key, message, found, identity⟩

theorem Taken.attached
    (taken : Taken before pair)
    (later : Later before before) :
    Attached before pair := by
  obtain ⟨key, message, found, identity⟩ := taken
  obtain ⟨inbound, -⟩ :=
    later.inbox.delivered key message _ found (mailboxIdentity_eq_some.mp identity).1
  exact ⟨key, message, found, inbound, identity⟩

theorem Taken.of_applyAll
    (mail : ∀ change ∈ writes, ¬change.Approves)
    (applied : applyAll Change.apply before writes = some after)
    (taken : Taken before pair) :
    Taken after pair := by
  obtain ⟨key, message, found, identity⟩ := taken
  obtain ⟨current, foundCurrent, same⟩ :=
    tracks_mail.extends_table mail applied key message found
  exact ⟨key, current, foundCurrent,
    (mailboxIdentity_congr same.2.2.1 same.2.2.2).trans identity⟩

theorem taken_of_attaching
    (mail : ∀ change ∈ writes, ¬change.Approves)
    (applied : applyAll Change.apply before writes = some after)
    (attaching : Attaching writes pair) :
    Taken after pair := by
  obtain ⟨row, member, identity⟩ := attaching
  obtain ⟨key, current, found, same⟩ := tracks_mail.get_inserted mail applied member rfl
  exact ⟨key, current, found, (mailboxIdentity_congr same.2.2.1 same.2.2.2).trans identity⟩

/-- What can be inserted is not there. -/
theorem not_taken_of_attaching
    (mail : ∀ change ∈ writes, ¬change.Approves)
    (applied : applyAll Change.apply before writes = some after)
    (attaching : Attaching writes pair) :
    ¬Taken before pair := by
  intro taken
  obtain ⟨row, member, identity⟩ := attaching
  obtain ⟨earlier, later, rfl⟩ := List.append_of_mem member
  rw [applyAll_append] at applied
  obtain ⟨between, first, rest⟩ := Option.bind_eq_some_iff.mp applied
  obtain ⟨next, inserts, -⟩ := Option.bind_eq_some_iff.mp rest
  obtain ⟨key, message, found, same⟩ :=
    taken.of_applyAll (fun change inside => mail change (List.mem_append_left _ inside)) first
  have free : between.messages.clashes Message.mailboxIdentity row = false := by
    have fresh := (Database.insertMessage_eq_some inserts).1
    simp only [Database.messageRejected, Bool.or_eq_false_iff] at fresh
    tauto
  exact Table.not_clashes free identity found same

end Stored

/-! ## One step of an operation -/

section Steps

variable {store last : Database} {running : Running} {thread : NativeThread}
variable {stimulus : Stimulus Signal Signal.Reply} {asked : Option Signal} {position : Nat}
variable {pair : Nat × String} {turn : Turn}

/-- A statement stores the message. -/
structure StoresNow
    (store : Database)
    (thread : NativeThread)
    (pair : Nat × String) : Prop where
  usable : thread.session.aborted = false
  statement : ∃ run next view changes after, thread.process = .statement run next ∧
    applyAll Change.apply store thread.session.writes = some view ∧
    run view = some changes ∧ applyAll Change.apply view changes = some after ∧
    Attaching changes pair

theorem attaching_append {writes changes : List Change} :
    Attaching (writes ++ changes) pair ↔ Attaching writes pair ∨ Attaching changes pair := by
  constructor
  · rintro ⟨row, member, identity⟩
    exact (List.mem_append.mp member).imp (⟨row, ·, identity⟩) (⟨row, ·, identity⟩)
  · rintro (⟨row, member, identity⟩ | ⟨row, member, identity⟩)
    · exact ⟨row, List.mem_append_left _ member, identity⟩
    · exact ⟨row, List.mem_append_right _ member, identity⟩

theorem attaching_of_storedBy
    {changes : List Change}
    (stored : turn.storedBy changes = true) :
    ∃ pair, turn.pair = some pair ∧ Attaching changes pair := by
  obtain ⟨pair, found, any⟩ := (Option.any_eq_true _ _).mp stored
  obtain ⟨change, member, inserts⟩ := List.any_eq_true.mp any
  obtain ⟨row, inserted, identity⟩ := (Option.any_eq_true _ _).mp inserts
  obtain rfl := insertMessage_of_insertedMessage inserted
  exact ⟨pair, found, row, member, beq_iff_eq.mp identity⟩

/-- What a transaction has stored after a step, it had stored before, or it stores now. -/
theorem hasStored_of_step
    (advanced : running.thread.step Change.apply store stimulus = some (last, thread, asked))
    (stored : (running.after store position stimulus thread asked).HasStored pair) :
    last = store ∧ (running.HasStored pair ∨ StoresNow store running.thread pair) := by
  obtain ⟨usable, stores⟩ := stored
  change thread.session.aborted = false at usable
  change Attaching thread.session.writes pair at stores
  cases Thread.move_of_step advanced with
  | @statement run next result session process issued ran =>
      refine ⟨rfl, ?_⟩
      cases ran with
      | failed | violated => cases usable
      | ran healthy seen made applied =>
          rcases attaching_append.mp stores with earlier | now
          · exact .inl ⟨healthy, earlier⟩
          · exact .inr ⟨healthy, _, _, _, _, _, process, seen, made, applied, now⟩
  | commit process ended =>
      obtain ⟨row, member, -⟩ := stores
      cases ended with
      | failed | applied => exact (List.not_mem_nil member).elim
  | rollback process =>
      obtain ⟨row, member, -⟩ := stores
      exact (List.not_mem_nil member).elim
  | ask process => exact ⟨rfl, .inl ⟨usable, stores⟩⟩

/-- What a transaction has stored stays there or is committed, if the step does not lose
the transaction. -/
theorem Running.HasStored.step
    (position : Nat)
    (stored : running.HasStored pair)
    (secures : Secures store running.thread stimulus = true)
    (advanced : running.thread.step Change.apply store stimulus = some (last, thread, asked)) :
    (running.after store position stimulus thread asked).HasStored pair ∨
      applyAll Change.apply store running.thread.session.writes = some last := by
  unfold Secures at secures
  cases Thread.move_of_step advanced with
  | @statement run next result session process issued ran =>
      rw [process] at secures
      dsimp only at secures
      rw [issued] at secures
      cases ran with
      | failed | violated => cases secures
      | ran healthy seen made applied =>
          exact .inl ⟨healthy, attaching_append.mpr (.inl stored.stores)⟩
  | commit process ended =>
      rw [process] at secures
      cases ended with
      | failed lost =>
          dsimp only at secures
          rw [lost] at secures
          cases secures
      | applied applied => exact .inr applied
  | rollback process =>
      rw [process] at secures
      cases secures
  | ask process => exact .inl ⟨stored.usable, stored.stores⟩

/-- What is attached after a step was attached before, or the step committed it. -/
theorem attached_or_stored
    (mail : ∀ change ∈ running.thread.session.writes, ¬change.Approves)
    (advanced : running.thread.step Change.apply store stimulus = some (last, thread, asked))
    (attached : Attached last pair) :
    Attached store pair ∨ running.HasStored pair := by
  cases Thread.move_of_step advanced with
  | statement | rollback | ask => exact .inl attached
  | commit process ended =>
      cases ended with
      | failed => exact .inl attached
      | applied applied landed =>
          refine (attached_of_applyAll mail applied attached).imp_right fun attaching =>
            ⟨?_, attaching⟩
          by_contra broken
          simp [Session.landing, broken] at landed

/-! ### Turns -/

/-- A poll follows the protocol; the turn tells what its transaction has stored. -/
structure InTurn
    (running : Running)
    (turn : Turn) : Prop where
  follows : running.thread.process.Follows replying (fun _ _ => True) turn
  connection : turn.connection = running.observed.connection
  email : turn.email = running.observed.current.bind Prod.snd
  lost : turn.progress = .lost ↔ running.thread.session.aborted = true
  stored : turn.progress = .stored →
    ∃ pair, turn.pair = some pair ∧ Attaching running.thread.session.writes pair

theorem InTurn.handled (inTurn : InTurn running turn) :
    turn.pair = handledMessage running.observed := by
  unfold Turn.pair handledMessage
  rw [inTurn.connection, inTurn.email]

theorem InTurn.hasStored
    (inTurn : InTurn running turn)
    (stored : turn.progress = .stored)
    (handles : turn.pair = some pair) :
    running.HasStored pair := by
  obtain ⟨other, same, attaching⟩ := inTurn.stored stored
  obtain rfl := Option.some.inj (same.symm.trans handles)
  refine ⟨?_, attaching⟩
  by_contra broken
  rw [inTurn.lost.mpr (by simpa using broken)] at stored
  cases stored

/-- An automatic reply answers a message that the transaction has stored. -/
theorem InTurn.replies
    {contactId : Nat}
    {arguments : SendEmailArguments}
    (inTurn : InTurn running turn)
    (advanced : running.thread.step Change.apply store stimulus = some (last, thread, asked))
    (replies : asked = some (.sendEmail .automaticReply contactId arguments)) :
    turn.progress = .stored := by
  have follows := inTurn.follows
  cases Thread.move_of_step advanced with
  | statement | commit | rollback => cases replies
  | ask process =>
      cases replies
      rw [process] at follows
      exact follows.1

/-- What an interaction does to the turn is what is observed of it. -/
theorem connection_asked
    {observed : Observed}
    {database : Database}
    (signal : Signal)
    (reply : signal.Reply)
    (same : turn.connection = observed.connection) :
    (turn.asked signal reply).connection =
      (observe observed database signal reply).connection := by
  cases signal with
  | sendEmail origin contactId arguments => cases origin <;> exact same
  | login mailboxId => rfl
  | search => cases reply <;> exact same
  | _ => exact same

theorem email_asked
    {observed : Observed}
    {database : Database}
    (signal : Signal)
    (reply : signal.Reply)
    (same : turn.email = observed.current.bind Prod.snd) :
    (turn.asked signal reply).email =
      (observe observed database signal reply).current.bind Prod.snd := by
  cases signal with
  | sendEmail origin contactId arguments => cases origin <;> exact same
  | search => cases reply <;> exact same
  | fetch | leftUnseen | storeSeen => rfl
  | _ => exact same

/-- An interaction changes the progress only by a reply. -/
theorem progress_asked
    (signal : Signal)
    (reply : signal.Reply)
    (allowed : turn.allows signal) :
    (turn.asked signal reply).progress = turn.progress ∨
      turn.progress = .stored ∧ (turn.asked signal reply).progress = .replied := by
  cases signal with
  | sendEmail origin contactId arguments =>
      cases origin with
      | automaticReply => exact .inr ⟨allowed, rfl⟩
      | _ => exact .inl rfl
  | _ => exact .inl rfl

/-- While a message is stored, an interaction that is no reply leaves the turn alone. -/
theorem asked_of_stored
    (signal : Signal)
    (reply : signal.Reply)
    (allowed : turn.allows signal)
    (stored : (turn.asked signal reply).progress = .stored) :
    turn.asked signal reply = turn ∧
      ∀ contactId arguments, signal ≠ .sendEmail .automaticReply contactId arguments := by
  have written : ∀ turn : Turn, turn.progress = .stored → turn.progress ≠ .unwritten := by
    intro turn stored unwritten
    rw [stored] at unwritten
    cases unwritten
  cases signal with
  | sendEmail origin contactId arguments =>
      cases origin with
      | automaticReply => cases stored
      | _ => exact ⟨rfl, fun _ _ => nofun⟩
  | login | fetch | leftUnseen | storeSeen => exact absurd allowed (written turn stored)
  | _ => exact ⟨rfl, fun _ _ => nofun⟩

theorem InTurn.step
    (position : Nat)
    (inTurn : InTurn running turn)
    (advanced : running.thread.step Change.apply store stimulus = some (last, thread, asked)) :
    ∃ next, InTurn (running.after store position stimulus thread asked) next ∧
      ∀ pair, next.progress = .stored → next.pair = some pair →
        asked = none ∧ StoresNow store running.thread pair ∨
          turn.progress = .stored ∧ turn.pair = some pair ∧ ∀ contactId arguments,
            asked ≠ some (.sendEmail .automaticReply contactId arguments) := by
  obtain ⟨follows, connection, email, lost, stored⟩ := inTurn
  cases Thread.move_of_step advanced with
  | @statement run rest result session process issued ran =>
      rw [process] at follows
      obtain ⟨⟨failed, violated⟩, continues⟩ := follows
      cases ran with
      | failed => exact ⟨_, ⟨failed, connection, email, iff_of_true rfl rfl, nofun⟩, nofun⟩
      | violated => exact ⟨_, ⟨violated, connection, email, iff_of_true rfl rfl, nofun⟩, nofun⟩
      | @ran view after writes healthy seen made applied =>
          have usable : turn.progress ≠ .lost := fun broken =>
            Bool.false_ne_true (healthy.symm.trans (lost.mp broken))
          have follows := continues usable view writes made
          by_cases now : turn.progress = .unwritten ∧ turn.storedBy writes = true
          · obtain ⟨pair, handles, attaching⟩ := attaching_of_storedBy now.2
            have wrote : replying.wrote turn writes = { turn with progress := .stored } :=
              if_pos now
            rw [wrote] at follows
            refine ⟨_, ⟨follows, connection, email, iff_of_false nofun ?_, fun _ =>
              ⟨pair, handles, attaching_append.mpr (.inr attaching)⟩⟩, ?_⟩
            · exact fun broken => Bool.false_ne_true (healthy.symm.trans broken)
            · intro other _ same
              obtain rfl := Option.some.inj (handles.symm.trans same)
              exact .inl ⟨rfl, healthy, _, _, _, _, _, process, seen, made, applied, attaching⟩
          · have wrote : replying.wrote turn writes = turn := if_neg now
            rw [wrote] at follows
            refine ⟨turn, ⟨follows, connection, email, lost, fun here => ?_⟩,
              fun pair here handles => .inr ⟨here, handles, fun _ _ => nofun⟩⟩
            obtain ⟨pair, handles, attaching⟩ := stored here
            exact ⟨pair, handles, attaching_append.mpr (.inl attaching)⟩
  | @commit rest last reported session process ended =>
      rw [process] at follows
      have follows := follows reported
      have ended : (reported = true ↔ session.aborted = false) := by
        cases ended with
        | failed => exact iff_of_false nofun nofun
        | applied => cases reported <;> simp
      refine ⟨_, ⟨follows, connection, email, ?_, ?_⟩, ?_⟩
      · change (if reported then Progress.unwritten else .lost) = .lost ↔ session.aborted = true
        cases reported <;> simp_all
      all_goals cases reported <;> nofun
  | rollback process =>
      rw [process] at follows
      exact ⟨_, ⟨follows, connection, email, iff_of_false nofun nofun, nofun⟩, nofun⟩
  | @ask signal rest process =>
      rw [process] at follows
      obtain ⟨allowed, continues⟩ := follows
      let reply := stimulus.answer signal
      have progress := progress_asked signal reply allowed
      refine ⟨turn.asked signal reply, ⟨continues reply, connection_asked signal reply connection,
        email_asked signal reply email, ?_, fun here => ?_⟩, fun pair here handles => .inr ?_⟩
      · refine Iff.trans ?_ lost
        rcases progress with same | ⟨before, after⟩
        · rw [same]
        · rw [before, after]
          exact iff_of_false nofun nofun
      · obtain ⟨same, -⟩ := asked_of_stored signal reply allowed here
        rw [same] at here ⊢
        exact stored here
      · obtain ⟨same, other⟩ := asked_of_stored signal reply allowed here
        rw [same] at here handles
        exact ⟨here, handles, fun contactId arguments asks =>
          other contactId arguments (Option.some.inj asks)⟩

end Steps

/-! ## Calls -/

section Calls

variable {deployment : Deployment} {before after : World} {action : Action}
variable {pair : Nat × String} {call : SendCall}

theorem replies_of_repliesTo (replies : RepliesTo pair call = true) :
    call.origin = .automaticReply ∧ call.answers = some pair := by
  simp only [RepliesTo, Bool.and_eq_true, beq_iff_eq] at replies
  exact replies.1

/-- An operation replies by a call of its own, to the message that it handles. -/
theorem replies_of_calls
    {settings : Settings}
    {running : Running}
    {stimulus : Stimulus Signal Signal.Reply}
    {asked : Option Signal}
    (member : call ∈ running.calls settings stimulus asked)
    (replies : RepliesTo pair call = true) :
    handledMessage running.observed = some pair ∧
      ∃ contactId arguments, asked = some (.sendEmail .automaticReply contactId arguments) := by
  obtain ⟨automatic, answers⟩ := replies_of_repliesTo replies
  unfold Running.calls at member
  split at member
  · next origin contactId arguments =>
      obtain rfl := List.mem_singleton.mp member
      obtain rfl : origin = .automaticReply := automatic
      exact ⟨answers, contactId, arguments, rfl⟩
  · cases member

theorem length_calls
    (settings : Settings)
    (running : Running)
    (stimulus : Stimulus Signal Signal.Reply)
    (asked : Option Signal) :
    (running.calls settings stimulus asked).length ≤ 1 := by
  unfold Running.calls
  split
  · exact Nat.le_refl 1
  · exact Nat.zero_le 1

/-- A step that is none of a native operation replies to nothing. -/
theorem calls_of_other
    (reachable : (system deployment).Reachable before)
    (stepped : before.step deployment action = some after)
    (other : ∀ number stimulus, action ≠ .native number stimulus) :
    ∃ made, after.calls = before.calls ++ made ∧
      ∀ call ∈ made, RepliesTo pair call = false := by
  have nothing : after.calls = before.calls → ∃ made, after.calls = before.calls ++ made ∧
      ∀ call ∈ made, RepliesTo pair call = false :=
    fun same => ⟨[], same.trans (List.append_nil _).symm,
      fun _ member => (List.not_mem_nil member).elim⟩
  obtain ⟨next, moved, rfl⟩ := Option.map_eq_some_iff.mp stepped
  have invariant := Invariant.of_reachable reachable
  cases action with
  | dispatch worker choice =>
      obtain ⟨move, taken, rfl⟩ := Option.map_eq_some_iff.mp moved
      refine ⟨move.calls, rfl, fun call member => ?_⟩
      have outcome := dispatchStep_outcome invariant.current.consistent invariant.truthful
        (invariant.dispatchers worker) taken
      obtain ⟨began, claim, send, -, origin, -⟩ := outcome.calls call member
      by_contra replies
      have automatic := (replies_of_repliesTo (Bool.of_not_eq_false replies)).1
      rw [origin] at automatic
      cases automatic
  | generation worker choice =>
      obtain ⟨move, taken, rfl⟩ := Option.map_eq_some_iff.mp moved
      exact nothing rfl
  | request number choice =>
      obtain ⟨move, taken, rfl⟩ := Option.map_eq_some_iff.mp moved
      exact nothing rfl
  | sweepSends | sweepGenerations | requestShutdown | resume | drain | crash | setClock
  | stop =>
      obtain rfl := Option.some.inj moved
      exact nothing rfl
  | resolve process outcome =>
      simp only [World.move] at moved
      split at moved
      · cases moved
      · obtain rfl := Option.some.inj moved
        exact nothing rfl
  | start number operation =>
      simp only [World.move] at moved
      split at moved
      · cases moved
      · obtain rfl := Option.some.inj moved
        exact nothing rfl
  | native number stimulus => exact absurd rfl (other number stimulus)

end Calls

/-! ## Operations that are no polls -/

/-- No connection to a mailbox is opened. -/
def unconnected : Bounds Change Signal where
  writes _ := True
  asks signal := ∀ mailboxId, signal ≠ .login mailboxId
  transacts := True

theorem confined_unconnected
    {deployment : Deployment}
    {operation : Operation}
    (other : operation ≠ .pollMailboxInboxesJob) :
    Thread.Confined unconnected (⟨operation.program deployment [], {}⟩ : NativeThread) := by
  have plainly : operation.Plain →
      Thread.Confined unconnected (⟨operation.program deployment [], {}⟩ : NativeThread) := by
    refine fun plain => plain.start.mono (fun _ _ => trivial) ?_ fun _ => trivial
    rintro signal (plain | impossible) mailboxId rfl
    · exact plain
    · exact impossible
  cases operation with
  | createMailbox organization payload =>
      exact (confined_createMailbox_within (fun _ _ => trivial) (fun _ => nofun) (fun _ => nofun)
        trivial).start
  | updateMailbox organization publicReference payload =>
      exact (confined_updateMailbox (fun _ _ => trivial) (fun _ => nofun) trivial).start
  | pollMailboxInboxesJob => exact absurd rfl other
  | _ => exact plainly trivial

/-! ## The invariant -/

/-- What holds along a run in which no answered message is lost. -/
structure Answering (world : World) : Prop where
  polls : ∀ number running, world.natives number = some running →
    running.operation = .pollMailboxInboxesJob → ∃ turn, InTurn running turn ∧
      ∀ pair, turn.progress = .stored → turn.pair = some pair →
        ∀ call ∈ world.calls, RepliesTo pair call = false
  others : ∀ number running, world.natives number = some running →
    running.operation ≠ .pollMailboxInboxesJob →
      running.observed.connection = none ∧ running.thread.Confined unconnected
  free : ∀ number running pair, world.natives number = some running →
    running.HasStored pair → ¬Attached world.database pair
  sole : ∀ first second running rival pair, world.natives first = some running →
    world.natives second = some rival → running.HasStored pair → rival.HasStored pair →
    first = second
  covered : ∀ pair, ∀ call ∈ world.calls, RepliesTo pair call = true →
    Attached world.database pair ∨
      ∃ number running, world.natives number = some running ∧ running.HasStored pair
  once : ∀ pair, world.calls.countP (RepliesTo pair) ≤ 1

section Invariants

variable {deployment : Deployment} {before after : World} {action : Action}
variable {number : Nat} {stimulus : Stimulus Signal Signal.Reply} {running : Running}
variable {thread : NativeThread} {asked : Option Signal} {pair : Nat × String}

theorem not_hasStored_start
    {earlier : Database}
    {position : Nat}
    {operation : Operation} :
    ¬(Running.start deployment earlier position operation).HasStored pair := by
  rintro ⟨-, row, member, -⟩
  exact List.not_mem_nil member

theorem Change.Received.not_approves
    {change : Change}
    (received : change.Received) :
    ¬change.Approves := by
  cases change with
  | recordSend key record => exact received.elim
  | _ => exact id

/-- A poll approves no draft. -/
theorem mail_of_receives
    (receives : thread.Confined (withPlain receiving)) :
    ∀ change ∈ thread.session.writes, ¬change.Approves :=
  fun change member => (receives.writes change member).elim Change.Plain.not_approves
    Change.Received.not_approves

/-- Only polls store messages of mailboxes. -/
theorem not_hasStored_of_aside
    (aside : running.thread.Confined aside) :
    ¬running.HasStored pair := by
  rintro ⟨-, row, member, identity⟩
  have unbound : row.mailboxId = none := aside.writes _ member
  rw [(mailboxIdentity_eq_some.mp identity).1] at unbound
  cases unbound

/-- A new operation. -/
theorem inTurn_start
    {earlier : Database}
    {position : Nat} :
    InTurn (Running.start deployment earlier position .pollMailboxInboxesJob) {} where
  follows := by
    have adheres : Adheres replying atRest
        (Operation.pollMailboxInboxesJob.program deployment) fun _ => atRest :=
      adheres_pollAllMailboxesReport.bind (fun _ => Adheres.pure fun _ _ => id) fun _ _ _ => id
    exact (adheres [] {} ⟨rfl, rfl⟩).mono fun _ _ _ => trivial
  connection := rfl
  email := rfl
  lost := iff_of_false nofun nofun
  stored := nofun

/-- An operation that takes no step stays, unless its thread dies. -/
theorem remains_of_step
    (stepped : before.step deployment action = some after)
    (other : ∀ number stimulus, action ≠ .native number stimulus)
    (found : before.natives number = some running) :
    after.natives number = some running ∨ action = .stop number := by
  obtain ⟨next, moved, rfl⟩ := Option.map_eq_some_iff.mp stepped
  cases action with
  | dispatch worker choice =>
      obtain ⟨move, taken, rfl⟩ := Option.map_eq_some_iff.mp moved
      exact .inl found
  | generation worker choice =>
      obtain ⟨move, taken, rfl⟩ := Option.map_eq_some_iff.mp moved
      exact .inl found
  | request number choice =>
      obtain ⟨move, taken, rfl⟩ := Option.map_eq_some_iff.mp moved
      exact .inl found
  | sweepSends | sweepGenerations | requestShutdown | resume | drain | crash | setClock =>
      obtain rfl := Option.some.inj moved
      exact .inl found
  | resolve process outcome =>
      simp only [World.move] at moved
      split at moved
      · cases moved
      · obtain rfl := Option.some.inj moved
        exact .inl found
  | start started operation =>
      simp only [World.move] at moved
      split at moved
      · cases moved
      · next free =>
          obtain rfl := Option.some.inj moved
          have different : number ≠ started := by
            rintro rfl
            exact free (by rw [found]; rfl)
          exact .inl ((Function.update_of_ne different _ _).trans found)
  | stop stopped =>
      obtain rfl := Option.some.inj moved
      by_cases same : number = stopped
      · exact .inr (congrArg Action.stop same.symm)
      · exact .inl ((Function.update_of_ne same _ _).trans found)
  | native started stimulus => exact absurd rfl (other started stimulus)

theorem Answering.other
    (answering : Answering before)
    (reachable : (system deployment).Reachable before)
    (keeps : KeepsAnswers before action)
    (other : ∀ number stimulus, action ≠ .native number stimulus)
    (stepped : before.step deployment action = some after) :
    Answering after := by
  have later := (effect_of_reachable reachable stepped).later
  have same : ∀ pair, Attached after.database pair → Attached before.database pair := by
    rcases database_of_step reachable stepped with edits | ⟨number, stimulus, _, _, _, native, -⟩
    · exact (quiet_of_edits later edits).attached
    · exact absurd native (other number stimulus)
  have kept : ∀ number running, after.natives number = some running →
      before.natives number = some running ∨
        ∃ operation, running = .start deployment before.database before.position operation := by
    intro number running found
    cases operation_of_step stepped found with
    | kept found _ => exact .inl found
    | started operation _ fresh => exact .inr ⟨operation, fresh⟩
    | stepped stimulus _ _ _ native => exact absurd native (other number stimulus)
  have held : ∀ number running pair, after.natives number = some running →
      running.HasStored pair → before.natives number = some running := by
    intro number running pair found stored
    rcases kept number running found with there | ⟨operation, rfl⟩
    · exact there
    · exact absurd stored not_hasStored_start
  refine
    { polls := ?_, others := ?_, free := ?_, sole := ?_, covered := ?_, once := ?_ }
  · intro number running found polls
    rcases kept number running found with there | ⟨operation, rfl⟩
    · obtain ⟨turn, inTurn, unanswered⟩ := answering.polls number running there polls
      refine ⟨turn, inTurn, fun pair stored handles call member => ?_⟩
      obtain ⟨made, calls, silent⟩ := calls_of_other reachable stepped other
      rw [calls] at member
      exact (List.mem_append.mp member).elim (unanswered pair stored handles call) (silent call)
    · obtain rfl : operation = .pollMailboxInboxesJob := polls
      exact ⟨{}, inTurn_start, nofun⟩
  · intro number running found polls
    rcases kept number running found with there | ⟨operation, rfl⟩
    · exact answering.others number running there polls
    · exact ⟨rfl, confined_unconnected polls⟩
  · exact fun number running pair found stored attached =>
      answering.free number running pair (held _ _ _ found stored) stored (same pair attached)
  · exact fun first second running rival pair foundFirst foundSecond stored storedToo =>
      answering.sole first second running rival pair (held _ _ _ foundFirst stored)
        (held _ _ _ foundSecond storedToo) stored storedToo
  · intro pair call member replies
    obtain ⟨made, calls, silent⟩ := calls_of_other reachable stepped other
    rw [calls] at member
    rcases List.mem_append.mp member with earlier | new
    · rcases answering.covered pair call earlier replies with attached |
        ⟨number, running, found, stored⟩
      · exact .inl (attached.of_extends later.extended)
      · refine .inr ⟨number, running, ?_, stored⟩
        rcases remains_of_step stepped other found with there | stops
        · exact there
        · exact absurd ⟨stored, call, earlier, replies⟩
            (keeps.stops number running pair stops found)
    · rw [silent call new] at replies
      cases replies
  · intro pair
    obtain ⟨made, calls, silent⟩ := calls_of_other reachable stepped other
    have noReply : made.countP (RepliesTo pair) = 0 := by
      refine List.countP_eq_zero.mpr fun call member => ?_
      rw [silent call member]
      exact Bool.false_ne_true
    rw [calls, List.countP_append, noReply]
    exact answering.once pair

/-- What a statement stores was neither there nor stored before in the transaction. -/
theorem StoresNow.fresh
    {database : Database}
    (stores : StoresNow database thread pair)
    (receives : thread.Confined (withPlain receiving)) :
    ¬Attached database pair ∧ ¬Attaching thread.session.writes pair := by
  obtain ⟨run, next, view, changes, last, process, seen, made, applied, attaching⟩ :=
    stores.statement
  have mail := mail_of_receives receives
  have confined := receives.process
  rw [process] at confined
  have others : ∀ change ∈ changes, ¬change.Approves := by
    intro change member
    exact (confined.1 view changes made change member).elim Change.Plain.not_approves
      Change.Received.not_approves
  have free := not_taken_of_attaching others applied attaching
  exact ⟨fun attached => free (attached.taken.of_applyAll mail seen),
    fun already => free (taken_of_attaching mail seen already)⟩

/-- What an operation replies to, its transaction has stored, and nobody replied to it. -/
theorem Answering.replies
    {settings : Settings}
    {call : SendCall}
    {last : Database}
    (answering : Answering before)
    (found : before.natives number = some running)
    (advanced : running.thread.step Change.apply before.database stimulus =
      some (last, thread, asked))
    (member : call ∈ running.calls settings stimulus asked)
    (replies : RepliesTo pair call = true) :
    running.HasStored pair ∧ (∀ call ∈ before.calls, RepliesTo pair call = false) ∧
      (running.after before.database before.position stimulus thread asked).HasStored pair := by
  obtain ⟨handles, contactId, arguments, rfl⟩ := replies_of_calls member replies
  by_cases polls : running.operation = .pollMailboxInboxesJob
  · obtain ⟨turn, inTurn, unanswered⟩ := answering.polls number running found polls
    have stored := inTurn.replies advanced rfl
    have handled := inTurn.handled.trans handles
    have holds := inTurn.hasStored stored handled
    refine ⟨holds, unanswered pair stored handled, ?_⟩
    cases Thread.move_of_step advanced with
    | ask => exact ⟨holds.usable, holds.stores⟩
  · obtain ⟨connection, -⟩ := answering.others number running found polls
    unfold handledMessage at handles
    rw [connection] at handles
    cases handles

/-! ### A step of an operation -/

section Native

variable {last : Database}

/-- Only a poll has stored a message, or stores one. -/
theorem Participates.receives_of_stores
    {exclusive : Prop}
    {database : Database}
    (participates : Participates exclusive database running)
    (stores : running.HasStored pair ∨ StoresNow database running.thread pair) :
    running.thread.Confined (withPlain receiving) := by
  by_cases polls : running.operation = .pollMailboxInboxesJob
  · exact participates.receives polls
  · have aside := participates.aside polls
    rcases stores with stored | now
    · exact absurd stored (not_hasStored_of_aside aside)
    · obtain ⟨run, next, view, changes, after, process, -, made, -, row, member, identity⟩ :=
        now.statement
      have confined := aside.process
      rw [process] at confined
      have unbound : row.mailboxId = none := confined.1 view changes made _ member
      rw [(mailboxIdentity_eq_some.mp identity).1] at unbound
      cases unbound

/-- What a transaction has stored after a step, it had stored before, or it is stored
nowhere else. -/
theorem Answering.stores_alone
    {exclusive : Prop}
    (keeps : KeepsAnswers before (.native number stimulus))
    (found : before.natives number = some running)
    (participates : Participates exclusive before.database running)
    (stores : running.HasStored pair ∨ StoresNow before.database running.thread pair) :
    running.HasStored pair ∨ ¬Attached before.database pair ∧
      ∀ other rival, before.natives other = some rival → ¬rival.HasStored pair := by
  have receives := participates.receives_of_stores stores
  refine stores.imp_right fun now => ?_
  obtain ⟨free, first⟩ := now.fresh receives
  refine ⟨free, fun other rival there stored => ?_⟩
  by_cases same : other = number
  · subst same
    obtain rfl := Option.some.inj (there.symm.trans found)
    exact first stored.stores
  · obtain ⟨run, next, view, changes, after, process, seen, made, -, attaching⟩ := now.statement
    exact keeps.waits number stimulus running run next view changes pair other rival rfl found
      process seen made attaching same there stored

/-- A step attaches only what its transaction has stored. -/
theorem Participates.attached_or_stored
    {exclusive : Prop}
    (participates : Participates exclusive before.database running)
    (later : Later before.database last)
    (advanced : running.thread.step Change.apply before.database stimulus =
      some (last, thread, asked))
    (attached : Attached last pair) :
    Attached before.database pair ∨ running.HasStored pair := by
  by_cases polls : running.operation = .pollMailboxInboxesJob
  · exact MailerAgent.attached_or_stored (mail_of_receives (participates.receives polls))
      advanced attached
  · rcases Thread.step_store advanced with same | applied
    · exact .inl (same ▸ attached)
    · exact .inl ((quiet_of_aside later (participates.aside polls).writes applied).attached
        pair attached)

/-- The call that an operation makes in a step is the only one. -/
theorem Answering.countP_calls
    {settings : Settings}
    (answering : Answering before)
    (found : before.natives number = some running)
    (advanced : running.thread.step Change.apply before.database stimulus =
      some (last, thread, asked)) :
    (before.calls ++ running.calls settings stimulus asked).countP (RepliesTo pair) ≤ 1 := by
  rw [List.countP_append]
  by_cases replied : ∃ call ∈ running.calls settings stimulus asked, RepliesTo pair call = true
  · obtain ⟨call, member, replies⟩ := replied
    obtain ⟨-, unanswered, -⟩ := answering.replies found advanced member replies
    have earlier : before.calls.countP (RepliesTo pair) = 0 := by
      refine List.countP_eq_zero.mpr fun call member => ?_
      rw [unanswered call member]
      exact Bool.false_ne_true
    have now : (running.calls settings stimulus asked).countP (RepliesTo pair) ≤
        (running.calls settings stimulus asked).length := List.countP_le_length
    have length := length_calls settings running stimulus asked
    omega
  · have now : (running.calls settings stimulus asked).countP (RepliesTo pair) = 0 :=
      List.countP_eq_zero.mpr fun call member replies => replied ⟨call, member, replies⟩
    have earlier := answering.once pair
    omega

/-- What the transaction of an operation has stored after a step is attached nowhere, and
stored nowhere else. -/
theorem Answering.alone
    {exclusive : Prop}
    (answering : Answering before)
    (keeps : KeepsAnswers before (.native number stimulus))
    (found : before.natives number = some running)
    (participates : Participates exclusive before.database running)
    (advanced : running.thread.step Change.apply before.database stimulus =
      some (last, thread, asked))
    (stored : (running.after before.database before.position stimulus thread
      asked).HasStored pair) :
    ¬Attached before.database pair ∧ ∀ other rival, other ≠ number →
      before.natives other = some rival → ¬rival.HasStored pair := by
  rcases Answering.stores_alone keeps found participates (hasStored_of_step advanced stored).2
    with before | ⟨free, first⟩
  · exact ⟨answering.free number running pair found before,
      fun other rival different there storedToo =>
        different (answering.sole other number rival running pair there found storedToo before)⟩
  · exact ⟨free, fun other rival _ => first other rival⟩

/-- A poll that takes a step goes on with its turn, and has not answered what it has
stored. -/
theorem Answering.turn_of_step
    {exclusive : Prop}
    {settings : Settings}
    (answering : Answering before)
    (keeps : KeepsAnswers before (.native number stimulus))
    (found : before.natives number = some running)
    (participates : Participates exclusive before.database running)
    (advanced : running.thread.step Change.apply before.database stimulus =
      some (last, thread, asked))
    (polls : running.operation = .pollMailboxInboxesJob) :
    ∃ turn, InTurn (running.after before.database before.position stimulus thread asked) turn ∧
      ∀ pair, turn.progress = .stored → turn.pair = some pair →
        ∀ call ∈ before.calls ++ running.calls settings stimulus asked,
          RepliesTo pair call = false := by
  obtain ⟨turn, inTurn, unanswered⟩ := answering.polls number running found polls
  obtain ⟨next, follows, origin⟩ := inTurn.step before.position advanced
  refine ⟨next, follows, fun pair stored handles call member => ?_⟩
  by_contra replied
  have replies := Bool.of_not_eq_false replied
  rcases origin pair stored handles with ⟨rfl, now⟩ | ⟨stored, handles, silent⟩
  · -- What is stored now was neither attached nor stored, so nothing answered it.
    have earlier : call ∈ before.calls :=
      (List.mem_append.mp member).resolve_right List.not_mem_nil
    obtain ⟨free, first⟩ :=
      answering.alone keeps found participates advanced (follows.hasStored stored handles)
    rcases answering.covered pair call earlier replies with attached |
      ⟨other, rival, there, storedToo⟩
    · exact free attached
    · by_cases own : other = number
      · rw [own, found] at there
        obtain rfl := Option.some.inj there
        exact (now.fresh (participates.receives_of_stores (.inr now))).2 storedToo.stores
      · exact first other rival own there storedToo
  · rcases List.mem_append.mp member with earlier | new
    · exact replied (unanswered pair stored handles call earlier)
    · obtain ⟨-, contactId, arguments, asks⟩ := replies_of_calls new replies
      exact silent contactId arguments asks

/-- An answered message stays attached or stored. -/
theorem Answering.covered_of_step
    {exclusive : Prop}
    {call : SendCall}
    (answering : Answering before)
    (keeps : KeepsAnswers before (.native number stimulus))
    (found : before.natives number = some running)
    (participates : Participates exclusive before.database running)
    (later : Later before.database last)
    (advanced : running.thread.step Change.apply before.database stimulus =
      some (last, thread, asked))
    (member : call ∈ before.calls)
    (replies : RepliesTo pair call = true) :
    Attached last pair ∨
      (running.after before.database before.position stimulus thread asked).HasStored pair ∨
      ∃ other rival, other ≠ number ∧ before.natives other = some rival ∧
        rival.HasStored pair := by
  rcases answering.covered pair call member replies with attached |
    ⟨other, rival, there, stored⟩
  · exact .inl (attached.of_extends later.extended)
  · by_cases own : other = number
    · rw [own, found] at there
      obtain rfl := Option.some.inj there
      have secures := keeps.steps number stimulus running pair rfl found
        ⟨stored, call, member, replies⟩
      rcases stored.step before.position secures advanced with holds | applied
      · exact .inr (.inl holds)
      · have mail := mail_of_receives (participates.receives_of_stores (.inl stored))
        exact .inl ((taken_of_attaching mail applied stored.stores).attached later.refl_right)
    · exact .inr (.inr ⟨other, rival, own, there, stored⟩)

theorem Answering.native
    (answering : Answering before)
    (reachable : (system deployment).Reachable before)
    (keeps : KeepsAnswers before (.native number stimulus))
    (stepped : before.step deployment (.native number stimulus) = some after) :
    Answering after := by
  have growth := (effect_of_reachable reachable stepped).later
  have coupled := @coupled_of_reachableWhen deployment False before
    (reachable.when fun _ _ => False.elim)
  obtain ⟨next, moved, rfl⟩ := Option.map_eq_some_iff.mp stepped
  obtain ⟨running, found, rest⟩ := Option.bind_eq_some_iff.mp moved
  obtain ⟨⟨store, thread, asked⟩, advanced, rfl⟩ := Option.map_eq_some_iff.mp rest
  have participates := coupled.operations number running found
  have later : Later before.database store := growth
  let moved := running.after before.database before.position stimulus thread asked
  have alone : ∀ pair, moved.HasStored pair → ¬Attached before.database pair ∧
      ∀ other rival, other ≠ number → before.natives other = some rival →
        ¬rival.HasStored pair :=
    fun pair => answering.alone keeps found participates advanced
  -- The operations after the step are the moved one and the others.
  have mine : ∀ {other operation}, other = number →
      Function.update before.natives number (some moved) other = some operation →
      operation = moved := by
    rintro other operation rfl there
    rw [Function.update_self] at there
    exact (Option.some.inj there).symm
  have theirs : ∀ {other operation}, other ≠ number →
      Function.update before.natives number (some moved) other = some operation →
      before.natives other = some operation := by
    intro other operation different there
    rwa [Function.update_of_ne different] at there
  refine
    { polls := ?_, others := ?_, free := ?_, sole := ?_, covered := ?_, once := ?_ }
  · intro other operation there polls
    by_cases same : other = number
    · obtain rfl := mine same there
      exact answering.turn_of_step keeps found participates advanced polls
    · have there := theirs same there
      obtain ⟨turn, inTurn, unanswered⟩ := answering.polls other operation there polls
      refine ⟨turn, inTurn, fun pair stored handles call member => ?_⟩
      by_contra replied
      rcases List.mem_append.mp member with earlier | new
      · exact replied (unanswered pair stored handles call earlier)
      · obtain ⟨holds, -, -⟩ :=
          answering.replies found advanced new (Bool.of_not_eq_false replied)
        exact same (answering.sole other number operation running pair there found
          (inTurn.hasStored stored handles) holds)
  · intro other operation there polls
    by_cases same : other = number
    · obtain rfl := mine same there
      obtain ⟨connection, confined⟩ := answering.others number running found polls
      obtain ⟨stays, asks⟩ := confined.step advanced
      refine ⟨?_, stays⟩
      cases asked with
      | none => exact connection
      | some signal => exact (connection_observe _ (asks signal rfl)).trans connection
    · exact answering.others other operation (theirs same there) polls
  · intro other operation pair there stored attached
    by_cases same : other = number
    · obtain rfl := mine same there
      obtain ⟨rfl, -⟩ := hasStored_of_step advanced stored
      exact (alone pair stored).1 attached
    · have there := theirs same there
      rcases participates.attached_or_stored later advanced attached with earlier | storedToo
      · exact answering.free other operation pair there stored earlier
      · exact same (answering.sole other number operation running pair there found stored
          storedToo)
  · intro first second operation rival pair thereFirst thereSecond stored storedToo
    by_cases isFirst : first = number <;> by_cases isSecond : second = number
    · exact isFirst.trans isSecond.symm
    · obtain rfl := mine isFirst thereFirst
      exact absurd storedToo ((alone pair stored).2 second rival isSecond
        (theirs isSecond thereSecond))
    · obtain rfl := mine isSecond thereSecond
      exact absurd stored ((alone pair storedToo).2 first operation isFirst
        (theirs isFirst thereFirst))
    · exact answering.sole first second operation rival pair (theirs isFirst thereFirst)
        (theirs isSecond thereSecond) stored storedToo
  · intro pair call member replies
    rcases List.mem_append.mp member with earlier | new
    · rcases answering.covered_of_step keeps found participates later advanced earlier replies
        with attached | holds | ⟨other, rival, different, there, stored⟩
      · exact .inl attached
      · exact .inr ⟨number, _, Function.update_self _ _ _, holds⟩
      · exact .inr ⟨other, rival, (Function.update_of_ne different _ _).trans there, stored⟩
    · obtain ⟨-, -, holds⟩ := answering.replies found advanced new replies
      exact .inr ⟨number, _, Function.update_self _ _ _, holds⟩
  · exact fun pair => answering.countP_calls found advanced

end Native

theorem Answering.start {clock : Instant} : Answering { clock := clock } where
  polls _ _ found := by cases found
  others _ _ found := by cases found
  free _ _ _ found := by cases found
  sole _ _ _ _ _ found := by cases found
  covered _ _ member := by cases member
  once _ := Nat.zero_le 1

theorem answering_of_reachableWhen
    {world : World}
    (reachable : (system deployment).ReachableWhen KeepsAnswers world) :
    Answering world := by
  obtain ⟨start, ⟨clock, rfl⟩, reaches⟩ := reachable
  refine (reaches.invariant
    (fun state => (system deployment).Reachable state ∧ Answering state)
    ⟨.of_initial ⟨clock, rfl⟩, .start⟩ ?_).2
  intro state action next ⟨reached, answering⟩ keeps stepped
  refine ⟨reached.step stepped, ?_⟩
  by_cases native : ∃ number stimulus, action = .native number stimulus
  · obtain ⟨number, stimulus, rfl⟩ := native
    exact answering.native reached keeps stepped
  · exact answering.other reached keeps (fun number stimulus steps =>
      native ⟨number, stimulus, steps⟩) stepped

end Invariants

/-- In every run in which no transaction is lost in which an automatic reply was sent, and
in which a message is only stored after the open transactions that have stored it, at most
one automatic reply to each message is sent or may have been sent. -/
theorem replies_once
    (deployment : Deployment)
    (world : World)
    (reachable : (system deployment).ReachableWhen KeepsAnswers world)
    (pair : Nat × String) :
    world.calls.countP (RepliesTo pair) ≤ 1 :=
  (answering_of_reachableWhen reachable).once pair

namespace Sample

/-- A server with one letter, which a classifier takes for interest and which is to be
answered. -/
def offersInterest (reference : String) : (signal : Signal) → signal.Reply
  | .classify _ _ _ =>
      .ok { success := true, semanticIntent := some { intents := [.positiveInterest] } }
  | .planReply _ _ => .ok { eligible := true, closing := false }
  | .newReference => reference
  | signal => offers (letter "p@x.test" "<m1@x.test>") signal

/-- A mailbox and a contact. -/
def correspondent : List Action :=
  perform 0 (.createCampaign "acme" campaign) answer 3 ++ .stop 0 ::
    perform 0 (.createMailbox "acme" polledMailbox) answer 6 ++ .stop 0 ::
    perform 0 lead answer 6 ++ [.stop 0]

/-- A poll that answers the letter, up to the commit of it. -/
def answeringPoll : List Action :=
  perform 0 .pollMailboxInboxesJob (offersInterest "a") 20 ++
    List.replicate 15 (.native 0 { answer := offersInterest "b" })

/-- The commit of the poll, with its outcome, and some steps after it. -/
def settle
    (commit : CommitOutcome)
    (steps : Nat) : List Action :=
  .native 0 { answer := offersInterest "b", commit := commit } ::
    List.replicate steps (.native 0 { answer := offersInterest "b" }) ++ [.stop 0]

/-- The first poll cannot commit. -/
def lostReply : List Action :=
  correspondent ++ answeringPoll ++ settle .failed 3 ++ answeringPoll

/-- The first poll commits. -/
def keptReply : List Action :=
  correspondent ++ answeringPoll ++ settle .committed 2 ++
    perform 0 .pollMailboxInboxesJob (offersInterest "c") 12

/-- The action does not lose the open transaction of an operation. -/
def secures
    (database : Database)
    (running : Running) : Action → Bool
  | .native _ stimulus => Secures database running.thread stimulus
  | .stop _ => false
  | _ => true

/-- The step is one of the first operation, and it does not lose what a transaction has
written when there was a call. -/
def keepsAnswers
    (world : World)
    (action : Action) : Bool :=
  ofFirst action && (world.calls.isEmpty || (world.natives 0).all fun running =>
    running.thread.session.writes.isEmpty || secures world.database running action)

theorem keepsAnswers_of_check
    {world : World}
    {action : Action}
    (alone : Alone world)
    (checked : keepsAnswers world action = true) :
    KeepsAnswers world action := by
  obtain ⟨first, safe⟩ := (Bool.and_eq_true _ _).mp checked
  have secured : ∀ {running pair}, world.natives 0 = some running → Answered world running pair →
      secures world.database running action = true := by
    rintro running pair found ⟨⟨-, row, inserted, -⟩, call, member, -⟩
    have called : world.calls.isEmpty = false :=
      List.isEmpty_eq_false_iff_exists_mem.mpr ⟨call, member⟩
    have written : running.thread.session.writes.isEmpty = false :=
      List.isEmpty_eq_false_iff_exists_mem.mpr ⟨_, inserted⟩
    rw [found, called, Bool.false_or, Option.all_some, written, Bool.false_or] at safe
    exact safe
  have own : ∀ {number running}, world.natives number = some running → number = 0 := by
    intro number running found
    by_contra elsewhere
    rw [alone number elsewhere] at found
    cases found
  refine ⟨?_, ?_, ?_⟩
  · rintro number stimulus running pair rfl found answered
    obtain rfl := own found
    exact secured found answered
  · rintro number running pair rfl found answered
    obtain rfl := own found
    exact Bool.false_ne_true (secured found answered)
  · intro number stimulus running run next view changes pair other rival _ found _ _ _ _
      elsewhere held
    exact absurd ((own held).trans (own found).symm) elsewhere

end Sample

/-- The poll that sent a reply cannot commit, and the next one sends another. -/
theorem reply_repeated :
    ∃ world, (system Sample.automaticDeployment).Reachable world ∧
      world.calls.countP (RepliesTo Sample.letterPair) = 2 := by
  obtain ⟨world, reachable, holds⟩ := reachable_of_any Sample.automaticDeployment
    Sample.lostReply (fun world => world.calls.countP (RepliesTo Sample.letterPair) == 2)
    (by decide +kernel)
  exact ⟨world, reachable, beq_iff_eq.mp holds⟩

/-- The letter is offered again after the poll that answered it, and not answered again. -/
theorem reply_once_after_commit :
    ∃ world, (system Sample.automaticDeployment).ReachableWhen KeepsAnswers world ∧
      world.calls.countP (RepliesTo Sample.letterPair) = 1 ∧
      ∀ pair, world.calls.countP (RepliesTo pair) ≤ 1 := by
  obtain ⟨world, ran, holds⟩ := (Option.any_eq_true _ _).mp
    (show ((system Sample.automaticDeployment).runWhen Sample.keepsAnswers {}
        Sample.keptReply).any
      (fun world => world.calls.countP (RepliesTo Sample.letterPair) == 1) = true by
      decide +kernel)
  have checks : (system Sample.automaticDeployment).ReachesWhen
      (fun world action => Sample.keepsAnswers world action = true) {} world :=
    Transition.System.reachesWhen_of_runWhen (fun _ _ => id) ran
  have reaches : (system Sample.automaticDeployment).ReachesWhen KeepsAnswers {} world := by
    refine checks.imp_of_invariant Sample.Alone (fun _ _ => rfl) ?_ ?_
    · exact fun state action next alone checked stepped =>
        alone.step ((Bool.and_eq_true _ _).mp checked).1 stepped
    · exact fun state action => Sample.keepsAnswers_of_check
  have reachable : (system Sample.automaticDeployment).ReachableWhen KeepsAnswers world :=
    ⟨{}, ⟨0, rfl⟩, reaches⟩
  exact ⟨world, reachable, beq_iff_eq.mp holds,
    replies_once Sample.automaticDeployment world reachable⟩

end MailerAgent
