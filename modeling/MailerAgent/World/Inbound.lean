import MailerAgent.World.Delivery

/-!
# Durability of polled messages

In every interleaving of polls with everything else, whatever the IMAP servers
answer and whatever fails: a message is marked Seen only when it is stored for the
organization of the polled mailbox, at most once in either table, and a message
that fails is left for the next poll while its batch goes on.
-/

namespace MailerAgent

open Concurrent Relational Mail Dispatch Intake Native

/-! ## The batch -/

/-- What one message of a batch can lead to: it was not fetched, its handler
failed, or its handler returned and it is marked Seen. -/
inductive Handled
    {Value : Type}
    (mailboxId : Nat)
    (handler : InboundEmail → Program Value)
    (uid : Nat) : List Signal → Prop where
  | unfetched : Handled mailboxId handler uid [.fetch uid, .leftUnseen uid]
  | failed
      {email : InboundEmail}
      {pending after : List Change}
      {trace : List Signal}
      {failure : Failure}
      (ran : (handler email pending).Runs trace (.error failure, after)) :
      Handled mailboxId handler uid (.fetch uid :: trace ++ [.leftUnseen uid])
  | stored
      {email : InboundEmail}
      {pending after : List Change}
      {trace : List Signal}
      {value : Value}
      (ran : (handler email pending).Runs trace (.ok value, after)) :
      Handled mailboxId handler uid (.fetch uid :: trace ++ [.storeSeen mailboxId uid email])

section Batch

variable {Value Result : Type}

/-- A run of a program that goes on with another one. -/
theorem runs_bind
    {program : Program Value}
    {rest : Value → Program Result}
    {pending : List Change}
    {trace : List Signal}
    {result : Except Failure Result × List Change}
    (runs : (Program.bind program rest pending).Runs trace result) :
    (∃ first second value middle, trace = first ++ second ∧
        (program pending).Runs first (.ok value, middle) ∧
        (rest value middle).Runs second result) ∨
      ∃ failure after, (program pending).Runs trace (.error failure, after) ∧
        result = (.error failure, after) := by
  obtain ⟨first, second, ⟨outcome, middle⟩, rfl, left, right⟩ := runs.split
  cases outcome with
  | ok value => exact .inl ⟨first, second, value, middle, rfl, left, right⟩
  | error failure =>
      cases right with
      | done => exact .inr ⟨failure, middle, by rw [List.append_nil]; exact left, rfl⟩

/-- A run whose exception is caught. -/
theorem runs_attempt
    {program : Program Value}
    {pending : List Change}
    {trace : List Signal}
    {result : Except Failure (Except Failure Value) × List Change}
    (runs : (program.attempt pending).Runs trace result) :
    ∃ outcome after, result = (.ok outcome, after) ∧
      (program pending).Runs trace (outcome, after) := by
  obtain ⟨first, second, ⟨outcome, middle⟩, rfl, left, right⟩ := runs.split
  cases right with
  | done => exact ⟨outcome, middle, rfl, by rw [List.append_nil]; exact left⟩

theorem runs_ask
    {signal : Signal}
    {pending : List Change}
    {trace : List Signal}
    {result : Except Failure signal.Reply × List Change}
    (runs : (Program.ask signal pending).Runs trace result) :
    trace = [signal] ∧ ∃ reply, result = (.ok reply, pending) := by
  cases runs with
  | ask reply rest =>
      cases rest with
      | done => exact ⟨rfl, reply, rfl⟩

theorem runs_pure
    {value : Value}
    {pending : List Change}
    {trace : List Signal}
    {result : Except Failure Value × List Change}
    (runs : ((pure value : Program Value) pending).Runs trace result) :
    trace = [] ∧ result = (.ok value, pending) := by
  cases runs with
  | done => exact ⟨rfl, rfl⟩

/-- A run of the handling of one message. -/
theorem runs_fetchAndHandle
    {handler : InboundEmail → Program Value}
    {uid : Nat}
    {pending : List Change}
    {trace : List Signal}
    {outcome : Except Failure InboundEmail}
    {after : List Change}
    (runs : (fetchAndHandle handler uid pending).Runs trace (outcome, after)) :
    (trace = [.fetch uid] ∧ ∃ failure, outcome = .error failure) ∨
      ∃ email handled result, trace = .fetch uid :: handled ∧
        (handler email pending).Runs handled (result, after) ∧
        outcome = result.map fun _ => email := by
  rcases runs_bind runs with ⟨first, second, reply, middle, rfl, left, right⟩ |
    ⟨_, _, left, -⟩
  · obtain ⟨rfl, _, ⟨⟩⟩ := runs_ask left
    rcases runs_bind right with ⟨first, second, email, middle, rfl, left, right⟩ |
      ⟨failure, _, left, equal⟩
    · cases reply with
      | refused | raised =>
          cases left
      | ok fetched =>
          cases left with
          | done =>
              rcases runs_bind right with ⟨first, second, value, middle, rfl, left, right⟩ |
                ⟨failure, _, left, equal⟩
              · obtain ⟨rfl, equal⟩ := runs_pure right
                obtain ⟨rfl, rfl⟩ := Prod.mk.inj equal
                exact .inr ⟨email, first, .ok value, by simp, left, rfl⟩
              · obtain ⟨rfl, rfl⟩ := Prod.mk.inj equal
                exact .inr ⟨email, second, .error failure, by simp, left, rfl⟩
    · obtain ⟨rfl, rfl⟩ := Prod.mk.inj equal
      refine .inl ⟨?_, failure, rfl⟩
      cases reply with
      | ok => cases left
      | refused | raised =>
          cases left
          rfl
  · obtain ⟨-, _, ⟨⟩⟩ := runs_ask left

/-- One message of a batch. -/
theorem runs_drainMessage
    {mailboxId uid : Nat}
    {handler : InboundEmail → Program Value}
    {pending : List Change}
    {trace : List Signal}
    {result : Except Failure Bool × List Change}
    (runs : (drainMessage mailboxId handler uid pending).Runs trace result) :
    Handled mailboxId handler uid trace ∧ ∃ seen after, result = (.ok seen, after) := by
  rcases runs_bind runs with ⟨first, second, outcome, middle, rfl, left, right⟩ |
    ⟨_, _, left, -⟩
  · obtain ⟨_, _, ⟨⟩, handled⟩ := runs_attempt left
    cases outcome with
    | error failure =>
        have left : second = [.leftUnseen uid] ∧ ∃ seen after, result = (.ok seen, after) := by
          rcases runs_bind right with ⟨asked, rest, _, _, rfl, left, right⟩ | ⟨_, _, left, -⟩
          · obtain ⟨rfl, _, ⟨⟩⟩ := runs_ask left
            obtain ⟨rfl, rfl⟩ := runs_pure right
            exact ⟨rfl, false, _, rfl⟩
          · obtain ⟨-, _, ⟨⟩⟩ := runs_ask left
        obtain ⟨rfl, returned⟩ := left
        refine ⟨?_, returned⟩
        rcases runs_fetchAndHandle handled with ⟨rfl, -⟩ | ⟨email, inner, inside, rfl, ran, equal⟩
        · exact .unfetched
        · cases inside with
          | ok value => cases equal
          | error raised => exact .failed ran
    | ok email =>
        have left : second = [.storeSeen mailboxId uid email] ∧
            ∃ seen after, result = (.ok seen, after) := by
          rcases runs_bind right with ⟨asked, rest, reply, _, rfl, left, right⟩ |
            ⟨_, _, left, -⟩
          · obtain ⟨rfl, _, ⟨⟩⟩ := runs_ask left
            cases reply with
            | ok | refused | raised =>
                obtain ⟨rfl, rfl⟩ := runs_pure right
                exact ⟨rfl, _, _, rfl⟩
          · obtain ⟨-, _, ⟨⟩⟩ := runs_ask left
        obtain ⟨rfl, returned⟩ := left
        refine ⟨?_, returned⟩
        rcases runs_fetchAndHandle handled with ⟨-, failure, ⟨⟩⟩ |
          ⟨fetched, inner, inside, rfl, ran, equal⟩
        cases inside with
        | error raised => cases equal
        | ok value =>
            obtain rfl : email = fetched := Except.ok.inj equal
            exact .stored ran
  · obtain ⟨_, _, ⟨⟩, -⟩ := runs_attempt left

/-- A batch is handled message by message, whatever became of the earlier ones. -/
theorem runs_drainMessages
    {mailboxId : Nat}
    {handler : InboundEmail → Program Value}
    {uids : List Nat}
    {stats : DrainStats}
    {pending : List Change}
    {trace : List Signal}
    {result : Except Failure DrainStats × List Change}
    (runs : (drainMessages mailboxId handler uids stats pending).Runs trace result) :
    ∃ parts, trace = parts.flatten ∧
      List.Forall₂ (Handled mailboxId handler) uids parts := by
  induction uids generalizing stats pending trace with
  | nil =>
      obtain ⟨rfl, -⟩ := runs_pure runs
      exact ⟨[], rfl, .nil⟩
  | cons uid rest inductionHypothesis =>
      rcases runs_bind runs with ⟨first, second, seen, middle, rfl, left, right⟩ |
        ⟨_, _, left, -⟩
      · obtain ⟨parts, rfl, handled⟩ := inductionHypothesis right
        exact ⟨first :: parts, rfl, .cons (runs_drainMessage left).1 handled⟩
      · obtain ⟨-, _, _, ⟨⟩⟩ := runs_drainMessage left

end Batch

/-! ## Every interleaving -/

/-- The next interaction of a running operation is an allowed one. -/
theorem Running.Holds.asks
    {database : Database}
    {running : Running}
    {signal : Signal}
    {next : signal.Reply → Script (Except Failure Unit × List Change)}
    (holds : running.Holds database)
    (waiting : running.thread.process = .ask signal next) :
    Allowed running.observed database signal := by
  obtain ⟨base, bound, -, safe⟩ := holds.safe
  rw [waiting] at safe
  exact (safe database bound).1

/-- In every reachable state: every message that a step marks Seen was stored before
the step, for exactly its mailbox and identity and in the organization of the
mailbox; either table holds it at most once; no running operation marks, searches or
ends against the order of its batch; and every complete run over a batch handles all
of its messages, marking Seen only those whose handler returned. -/
theorem inbound_durable
    (deployment : Deployment)
    (world : World)
    (reachable : (system deployment).Reachable world) :
    (∀ action after, (system deployment).step world action = some after →
      ∀ mark ∈ after.seen, ∃ identity mailbox,
        inboundIdentity mark.email.normalized = some identity ∧
        world.database.mailboxes.get mark.mailboxId = some mailbox ∧
        ((∃ key message, world.database.messages.get key = some message ∧
            message.direction = .inbound ∧ message.mailboxId = some mark.mailboxId ∧
            message.messageIdHeader = some identity ∧
            ∃ email, KnownContact world.database message.contactId email
              (some mailbox.organizationId)) ∨
          ∃ key row, world.database.unmatched.get key = some row ∧
            row.mailboxId = mark.mailboxId ∧ row.messageIdHeader = identity ∧
            row.organizationId = mailbox.organizationId)) ∧
    (∀ first second message other mailboxId identity,
      world.database.messages.get first = some message →
      world.database.messages.get second = some other →
      message.mailboxId = some mailboxId → other.mailboxId = some mailboxId →
      message.messageIdHeader = some identity → other.messageIdHeader = some identity →
      first = second) ∧
    (∀ first second row other, world.database.unmatched.get first = some row →
      world.database.unmatched.get second = some other →
      other.mailboxId = row.mailboxId → other.messageIdHeader = row.messageIdHeader →
      first = second) ∧
    (∀ number running, world.natives number = some running →
      (∀ value, running.thread.process = .done value → running.observed.idle) ∧
      ∀ signal next, running.thread.process = .ask signal next →
        Allowed running.observed world.database signal) ∧
    ∀ mailboxId target uids stats pending trace result,
      (drainMessages mailboxId (persistInbound deployment target) uids stats pending).Runs
        trace result →
      ∃ parts, trace = parts.flatten ∧
        List.Forall₂ (Handled mailboxId (persistInbound deployment target)) uids parts := by
  have invariant := Invariant.of_reachable reachable
  have consistent := invariant.current.consistent
  refine ⟨?_, ?_, ?_, ?_, ?_⟩
  · intro action after stepped mark member
    have marked : MarkHolds world.database mark := by
      rcases (effect_of_reachable reachable stepped).seen mark member with old | new
      · exact invariant.seen mark old
      · exact new
    obtain ⟨identity, named, mailbox, found, stored⟩ := marked
    exact ⟨identity, mailbox, named, found, stored⟩
  · intro first second message other mailboxId identity found foundOther through
      throughOther named namedOther
    refine consistent.messageMailbox first second message other (mailboxId, identity)
      found foundOther ?_ ?_
    · rw [Message.mailboxIdentity, through, named]
    · rw [Message.mailboxIdentity, throughOther, namedOther]
  · intro first second row other found foundOther mailbox header
    refine consistent.unmatchedIdentity first second row other
      (row.mailboxId, row.messageIdHeader) found foundOther rfl ?_
    rw [UnmatchedInboundMessage.mailboxIdentity, mailbox, header]
  · intro number running started
    obtain ⟨holds, -⟩ := invariant.natives number running started
    constructor
    · intro value ended
      obtain ⟨_, -, idle⟩ := holds.safe.ended ended
      exact idle
    · intro signal next waiting
      exact holds.asks waiting
  · intro mailboxId target uids stats pending trace result runs
    exact runs_drainMessages runs

namespace Sample

/-- A mailbox that is polled. -/
def polledMailbox : MailboxCreate :=
  { mailbox with
    imapHost := some "imap.acme.test", imapPort := some 993, imapUsername := some "out"
    imapPassword := some "secret" }

/-- A message from a stranger. -/
def strangeEmail : InboundEmail where
  fromEmail := "stranger@y.test"
  subject := "Hello"
  bodyText := "Who are you?"
  messageId := some "<s1@y.test>"

/-- A server with one unseen message. -/
def offers (email : InboundEmail) : (signal : Signal) → signal.Reply
  | .search => .ok [7]
  | .fetch _ => .ok email
  | signal => answer signal

/-- Run an operation for a number of steps. -/
def perform
    (number : Nat)
    (operation : Operation)
    (answers : (signal : Signal) → signal.Reply)
    (steps : Nat) : List Action :=
  .start number operation :: List.replicate steps (.native number { answer := answers })

/-- A poll that meets a message of a stranger. -/
def poll : List Action :=
  perform 0 (.createMailbox "acme" polledMailbox) answer 6 ++
    perform 1 .pollMailboxInboxesJob (offers strangeEmail) 15

end Sample

/-- The message of the stranger is marked Seen, and it is retained. -/
theorem inbound_durable_of_stranger :
    ∃ world mark, (system Sample.deployment).Reachable world ∧ mark ∈ world.seen ∧
      ∃ identity mailbox, inboundIdentity mark.email.normalized = some identity ∧
        world.database.mailboxes.get mark.mailboxId = some mailbox ∧
        (∀ first second row other, world.database.unmatched.get first = some row →
          world.database.unmatched.get second = some other →
          other.mailboxId = row.mailboxId → other.messageIdHeader = row.messageIdHeader →
          first = second) := by
  obtain ⟨world, reachable, marked⟩ := reachable_of_any Sample.deployment Sample.poll
    (fun world => !world.seen.isEmpty) (by decide +kernel)
  obtain ⟨seen, -, unmatched, -⟩ := inbound_durable Sample.deployment world reachable
  cases marks : world.seen with
  | nil =>
      rw [marks] at marked
      cases marked
  | cons mark rest =>
      -- A step of the clock keeps the flag, so the theorem speaks about it.
      obtain ⟨identity, mailbox, named, found, -⟩ :=
        seen (.setClock 0) _ rfl mark (by rw [marks]; exact List.mem_cons_self)
      exact ⟨world, mark, reachable, by rw [marks]; exact List.mem_cons_self, identity,
        mailbox, named, found, unmatched⟩

end MailerAgent
