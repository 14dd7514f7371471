import MailerAgent.Native.Carrying
import MailerAgent.World.Cadence
import MailerAgent.World.Ingestion

/-!
# The batch of the legacy poll

`poll_replies_job` handles all fetched emails in one session and commits once. An email
whose insertion is rejected rolls back what the emails before it have stored, and an email
whose statement fails leaves a session in which the emails after it cannot be handled.
Where no statement fails, and an insertion is rejected only before the batch has stored
anything, every email keeps what its handling stored, and the Message of every matched
email is there when the job has ended normally.
-/

namespace MailerAgent

open Concurrent Relational Mail Native Program

/-! ## Runs of the job -/

/-- One email of a batch: what its handling ended with, the transaction before and after
it, and what waits for a flush after it. -/
structure BatchEntry where
  email : InboundEmail
  outcome : Except Failure InboundResult
  opened : Session Change
  left : Session Change
  waiting : List Change

/-- What the transaction carries after the email. -/
def BatchEntry.made (entry : BatchEntry) : List Change :=
  entry.left.writes ++ entry.waiting

/-- The emails of a batch, one after the other. -/
inductive Batch
    (company : Company Database Change)
    (deployment : Deployment) :
    Database → Session Change → List Change → List BatchEntry →
    Database → Session Change → List Change → Prop where
  | nil
      {store next : Database}
      {session : Session Change}
      {pending : List Change}
      (moved : company.others store next) :
      Batch company deployment store session pending [] next session pending
  | cons
      {store middle last : Database}
      {session between final : Session Change}
      {pending waiting after : List Change}
      {email : InboundEmail}
      {outcome : Except Failure InboundResult}
      {entries : List BatchEntry}
      (handled : Served company store session
        (processInboundEmailV2 deployment email none pending) middle between
        (outcome, waiting))
      (rest : Batch company deployment middle between waiting entries last final after) :
      Batch company deployment store session pending
        (⟨email, outcome, session, between, waiting⟩ :: entries) last final after

/-- A run of `poll_replies_job`, by the emails that it handled. -/
inductive RepliesPolled
    (company : Company Database Change)
    (deployment : Deployment)
    (before : Database) : List BatchEntry → Except Failure Unit → Database → Prop where
  | idle
      {after : Database}
      (moved : company.others before after) :
      RepliesPolled company deployment before [] (.ok ()) after
  | batch
      {entries : List BatchEntry}
      {outcome : Except Failure Unit}
      {middle after : Database}
      {session final : Session Change}
      {pending waiting : List Change}
      (fetched : entries ≠ [])
      (ran : Batch company deployment before {} [] entries middle session pending)
      (closed : Served company middle session (sessionScope (pure ()) pending) after final
        (outcome, waiting)) :
      RepliesPolled company deployment before entries outcome after

section Runs

variable {company : Company Database Change} {deployment : Deployment}
variable {store last before after : Database} {session final : Session Change}
variable {pending waiting : List Change} {entries : List BatchEntry}

/-- A session scope runs its body and is then closed. -/
theorem sessionScope_apply
    (program : Program Unit)
    (pending : List Change) :
    sessionScope program pending = (program pending).andThen fun (result, waiting) =>
      sessionScope (ofExcept result) waiting := by
  simp only [sessionScope, Program.session, ensuring, attempt, Bind.bind, Program.bind,
    Process.andThen_assoc]
  refine congrArg (program pending).andThen (funext fun ended => ?_)
  obtain ⟨result, waiting⟩ := ended
  cases result with
  | ok value => rfl
  | error failure => rfl

/-- The loop of the job. -/
def handleEach
    (deployment : Deployment)
    (emails : List InboundEmail) : Program Unit :=
  forEach emails fun email => do
    let _ ← attempt (processInboundEmailV2 deployment email none)

/-- Each turn of the loop handles one email, and goes on whatever it ended with. -/
theorem handleEach_cons
    (email : InboundEmail)
    (rest : List InboundEmail)
    (pending : List Change) :
    handleEach deployment (email :: rest) pending =
      (processInboundEmailV2 deployment email none pending).andThen
        fun (_, waiting) => handleEach deployment rest waiting := by
  simp only [handleEach, forEach, attempt, Bind.bind, Program.bind, Process.andThen_assoc]
  rfl

/-- The loop goes on from one email to the next, and is a batch. -/
theorem batch_of_served
    {emails : List InboundEmail}
    {outcome : Except Failure Unit}
    (served : Served company store session (handleEach deployment emails pending) last final
      (outcome, waiting)) :
    outcome = .ok () ∧ ∃ entries, entries.map BatchEntry.email = emails ∧
      Batch company deployment store session pending entries last final waiting := by
  induction emails generalizing store session pending with
  | nil =>
      cases served with
      | done moved => exact ⟨rfl, [], rfl, .nil moved⟩
  | cons email rest inductionHypothesis =>
      rw [handleEach_cons] at served
      obtain ⟨middle, between, ⟨result, left⟩, first, later⟩ := served.split
      obtain ⟨ended, entries, same, ran⟩ := inductionHypothesis later
      exact ⟨ended, ⟨email, result, session, between, left⟩ :: entries,
        congrArg (email :: ·) same, .cons first ran⟩

theorem Batch.served
    (ran : Batch company deployment store session pending entries last final waiting) :
    Served company store session
      (handleEach deployment (entries.map BatchEntry.email) pending) last final
      (.ok (), waiting) := by
  induction ran with
  | nil moved => exact .done moved
  | cons handled rest inductionHypothesis =>
      rw [List.map_cons, handleEach_cons]
      exact handled.join inductionHypothesis

/-- The runs of the job are the runs of a batch and of the end of its session. -/
theorem served_pollRepliesJob_iff {outcome : Except Failure Unit} :
    (∃ final waiting, Served company before {} (pollRepliesJob deployment []) after final
        (outcome, waiting)) ↔
      ∃ entries, RepliesPolled company deployment before entries outcome after := by
  constructor
  · rintro ⟨final, waiting, served⟩
    cases served with
    | ask moved emails rest =>
        cases emails with
        | nil =>
            cases rest with
            | done later => exact ⟨[], .idle (company.trans moved later)⟩
        | cons email others =>
            have job : Served company before {}
                (sessionScope (handleEach deployment (email :: others)) []) after final
                (outcome, waiting) := rest.of_others moved
            rw [sessionScope_apply] at job
            obtain ⟨middle, between, ⟨result, left⟩, looped, closed⟩ := job.split
            obtain ⟨rfl, entries, same, ran⟩ := batch_of_served looped
            refine ⟨entries, .batch ?_ ran closed⟩
            rintro rfl
            cases same
  · rintro ⟨entries, polled⟩
    cases polled with
    | idle moved =>
        exact ⟨{}, [], .ask (company.refl before) [] (.done moved)⟩
    | @batch _ _ middle _ session final pending waiting fetched ran closed =>
        obtain ⟨entry, rest, rfl⟩ := List.exists_cons_of_ne_nil fetched
        have job : Served company before {}
            (sessionScope (handleEach deployment
              ((entry :: rest).map BatchEntry.email)) []) after final
            (outcome, waiting) := by
          rw [sessionScope_apply]
          exact ran.served.join closed
        let emails : List InboundEmail := entry.email :: rest.map BatchEntry.email
        exact ⟨final, waiting, .ask (company.refl before) emails job⟩

end Runs

/-! ## One email -/

/-- A batch among others, for the steps in which no statement fails, and a constraint is
violated only before the batch has stored anything. -/
def batching : Company Database Change :=
  { alongside with
    statements := fun _ session result => match result with
      | .ran _ => True
      | .violated => session.writes = []
      | .failed => False }

/-- What a handler does before it ends its transaction. -/
def untransacted : Bounds Change Signal where
  writes _ := True
  asks _ := True
  transacts := False

instance : Admits untransacted where
  updates _ _ := trivial
  messages _ _ := trivial
  notes _ := trivial
  asks _ := trivial

namespace Batch

/-- The transaction has grown from what it was, it can be used, and a change waits for a
flush only if others were made. -/
def growing
    (base : List Change)
    (made : List Change → Prop) : Circumstance batching where
  holds pending _ session :=
    session.aborted = false ∧ (session.writes = [] → pending = []) ∧
      ∃ changes, session.writes = base ++ changes ∧ made changes
  stable holds _ := holds

/-- The transaction has grown, and what it has carried is still carried. -/
abbrev grown
    (origin : Database)
    (base held : List Change)
    (made : List Change → Prop) : Circumstance batching :=
  (growing base made).and (carrying batching origin held)

/-- The new row waits for a flush, by itself if nothing was stored before. -/
def inserting
    (origin : Database)
    (base held : List Change)
    (row : Message) : Circumstance batching where
  holds pending store session :=
    session.aborted = false ∧ session.writes = base ∧ origin.Extends store ∧
      ∃ earlier, pending = earlier ++ [Change.insertMessage row] ∧
        (base = [] → earlier = []) ∧ Carried held earlier session
  stable holds moved := ⟨holds.1, holds.2.1, holds.2.2.1.trans moved, holds.2.2.2⟩

/-- The transaction inserts the message of an email under a contact. -/
def Stores
    (email : InboundEmail)
    (key : Nat)
    (changes : List Change) : Prop :=
  ∃ createdAt reference, Change.insertMessage
    (inboundMessage key none email.messageId email createdAt reference) ∈ changes

/-- A contact was found, and the message is not one that was stored before. -/
def IsNew
    (result : InboundResult)
    (key : Nat) : Prop :=
  ∃ action, result = .matched key action ∧ action ≠ .skippedDuplicate

/-- A new message is stored. -/
def Accounts
    (email : InboundEmail)
    (result : InboundResult)
    (changes : List Change) : Prop :=
  ∀ key, IsNew result key → Stores email key changes

section Handling

variable {base held : List Change} {made more : List Change → Prop} {Value : Type}
variable {deployment : Deployment} {email : InboundEmail} {key : Nat} {origin : Database}

theorem growing_mono
    {pending : List Change}
    {store : Database}
    {session : Session Change}
    (implies : ∀ changes, made changes → more changes)
    (holds : (growing base made).holds pending store session) :
    (growing base more).holds pending store session :=
  ⟨holds.1, holds.2.1, holds.2.2.imp fun _ shape => shape.imp_right (implies _)⟩

theorem grown_mono
    {pending : List Change}
    {store : Database}
    {session : Session Change}
    (implies : ∀ changes, made changes → more changes)
    (holds : (grown origin base held made).holds pending store session) :
    (grown origin base held more).holds pending store session :=
  ⟨growing_mono implies holds.1, holds.2⟩

theorem leads_query {read : Database → Value} :
    Leads (growing base made) (query read) (fun _ => growing base made)
      fun _ => growing base fun _ => True := by
  refine .statement ?_ (fun _ _ _ _ _ => nofun) fun _ _ _ _ => False.elim
  intro pending store session view after holds _ _ _
  rw [List.append_nil]
  exact holds

theorem leads_loadContact :
    Leads (growing base made) (loadContact key) (fun _ => growing base made)
      fun _ => growing base fun _ => True := by
  intro pending
  have reads : Leads (growing base made)
      (query fun view => (view.contacts.get key).map (inSession pending key))
      (fun _ => growing base made) fun _ => growing base fun _ => True := leads_query
  exact reads pending

theorem leads_required {value : Option Value} :
    Leads (growing base made) (required value) (fun _ => growing base made)
      fun _ => growing base fun _ => True := by
  cases value with
  | none => exact .raise fun _ _ _ => growing_mono fun _ _ => trivial
  | some present => exact .pure fun _ _ _ => id

theorem leads_correlate {organization : Option String} :
    Leads (growing base made) (correlate organization email) (fun _ => growing base made)
      fun _ => growing base fun _ => True := by
  have falls : ∀ byThread, Leads (growing base made)
      (if byThread.isSome || !(threadReferences email).isEmpty then pure byThread
        else query (findContactByEmail organization email))
      (fun _ => growing base made) fun _ => growing base fun _ => True :=
    fun byThread => .ite (fun _ => .pure fun _ _ _ => id) fun _ => leads_query
  exact .ite (fun _ => .bind (.pure fun _ _ _ => id) falls) fun _ => .bind leads_query falls

/-- What ends no transaction goes on in a transaction that has changes. -/
theorem leads_untransacted
    {program : Program Value}
    (heeds : Heeds untransacted program)
    (begun : ∀ changes, made changes → changes ≠ [])
    (grows : ∀ first second, made first → made (first ++ second)) :
    Leads (growing base made) program (fun _ => growing base made)
      fun _ => growing base fun _ => True := by
  have keeps : ∀ pending store session waiting added,
      (growing base made).holds pending store session →
      (growing base made).holds waiting store ⟨session.writes ++ added, false⟩ := by
    rintro pending store session waiting added ⟨-, -, changes, shape, here⟩
    refine ⟨rfl, fun empty => ?_, changes ++ added, ?_, grows _ _ here⟩
    · rw [List.append_eq_nil_iff, shape, List.append_eq_nil_iff] at empty
      exact (begun changes here empty.1.2).elim
    · rw [shape, List.append_assoc]
  refine .running (· ≠ []) heeds not_false (fun first second => ?_) ?_ ?_
    (fun _ _ _ _ _ _ holds _ => keeps _ _ _ _ _ holds)
    fun _ _ _ _ _ _ holds => growing_mono (fun _ _ => trivial) (keeps _ _ _ _ _ holds)
  · exact fun nonempty empty => nonempty (List.append_eq_nil_iff.mp empty).1
  · intro store session result nonempty considered
    cases result with
    | failed => exact considered.elim
    | violated => exact (nonempty considered).elim
    | ran view => exact ⟨view, rfl⟩
  · rintro pending store session ⟨usable, -, changes, shape, here⟩
    refine ⟨fun _ _ => trivial, ?_, usable⟩
    rw [shape]
    exact fun empty => begun changes here (List.append_eq_nil_iff.mp empty).2

/-- The insertion was made, or rejected before the batch has stored anything. -/
def inserted
    (origin : Database)
    (base held : List Change)
    (row : Message) : Except Failure Unit → Circumstance batching
  | .ok _ => grown origin base held fun changes => Change.insertMessage row ∈ changes
  | .error .integrity =>
      { holds := fun _ store session =>
          base = [] ∧ held = [] ∧ session.writes = [] ∧ origin.Extends store
        stable := fun holds moved =>
          ⟨holds.1, holds.2.1, holds.2.2.1, holds.2.2.2.trans moved⟩ }
  | .error _ =>
      { holds := fun _ _ _ => False
        stable := fun holds _ => holds }

theorem leads_insertion {row : Message} :
    Leads (inserting origin base held row) (attempt flush) (inserted origin base held row)
      fun _ => grown origin base held fun _ => True := by
  refine .attempt (.issue ?_ ?_ ?_ fun _ _ _ _ => False.elim)
  · rintro store session ⟨-, -, -, earlier, nothing, -⟩
    cases (List.append_eq_nil_iff.mp nothing.symm).2
  · rintro pending store session view after
      ⟨usable, shape, extended, earlier, rfl, -, carried⟩ - - -
    have written : Change.insertMessage row ∈ unitOfWork (earlier ++ [.insertMessage row]) :=
      mem_unitOfWork.mpr (List.mem_append_right _ (List.mem_singleton_self _))
    have staged : Carried (held ++ [.insertMessage row]) (earlier ++ [.insertMessage row])
        session :=
      carried.stage trivial
    exact ⟨⟨usable, fun _ => rfl, _, congrArg (· ++ _) shape, written⟩, extended,
      (staged.weaken (List.subset_append_left _ _)).flush⟩
  · rintro pending store session ⟨-, shape, extended, earlier, rfl, alone, carried⟩ - empty
    obtain rfl := shape.symm.trans empty
    obtain rfl := alone rfl
    refine ⟨rfl, List.eq_nil_iff_forall_not_mem.mpr fun change member => ?_, empty, extended⟩
    have present := carried.kept change member
    rw [empty] at present
    exact (List.not_mem_nil present).elim

theorem accounts_of_not_new
    {result : InboundResult}
    {changes : List Change}
    (old : ∀ key, ¬IsNew result key) :
    Accounts email result changes :=
  fun key new => (old key new).elim

theorem not_isNew_lostRace
    {existing : Option (Nat × Message)}
    {other : Nat} :
    ¬IsNew (lostRace none other existing) key := by
  rintro ⟨action, result, fresh⟩
  cases existing with
  | none =>
      cases result
      exact fresh rfl
  | some found =>
      cases result
      exact fresh rfl

/-- A message that was stored is classified and applied. -/
theorem leads_classify
    {contact : Contact}
    {campaign : Option Campaign}
    {createdAt : Instant}
    {reference : String} :
    let row := inboundMessage key none email.messageId email createdAt reference
    Leads (grown origin base held fun changes => Change.insertMessage row ∈ changes)
      (classifyAndApplyInbound deployment key contact campaign email reference)
      (fun _ => grown origin base held fun changes => Change.insertMessage row ∈ changes)
      fun _ => grown origin base held fun _ => True := by
  intro row
  refine (leads_untransacted plain_classifyAndApplyInbound ?_ ?_).and
    conserves_classifyAndApplyInbound
  · exact fun changes member => List.ne_nil_of_mem member
  · exact fun first second => List.mem_append_left second

/-- The insertion that was rejected is given up. -/
theorem leads_giveUp {row : Message} :
    Leads (inserted origin base held row (.error .integrity)) rollback
      (fun _ => grown origin base held fun _ => True)
      fun _ => grown origin base held fun _ => True := by
  refine .rollback ?_
  rintro pending store session ⟨rfl, rfl, -, extended⟩ -
  exact ⟨⟨rfl, fun _ => rfl, [], rfl, trivial⟩, extended,
    fun _ member => (List.not_mem_nil member).elim, fun _ member => (List.not_mem_nil member).elim⟩

theorem leads_receiveCorrelated :
    Leads (grown origin base held fun changes => changes = [])
      (receiveCorrelated deployment none email key)
      (fun result => grown origin base held (Accounts email result))
      fun _ => grown origin base held fun _ => True := by
  refine .bind (leads_loadContact.and conserves_loadContact) fun loaded => ?_
  refine .bind (leads_required.and conserves_required) fun contact => ?_
  refine .bind (leads_query.and conserves_query) fun campaign => ?_
  refine .bind (.ask fun _ _ _ _ => id) fun reference => ?_
  refine .bind (.ask fun _ _ _ _ => id) fun createdAt => ?_
  have stages : Leads (grown origin base held fun changes => changes = [])
      (stage (.insertMessage (inboundMessage key none email.messageId email createdAt reference)))
      (fun _ => inserting origin base held
        (inboundMessage key none email.messageId email createdAt reference))
      fun _ => grown origin base held fun _ => True := by
    refine .stage ?_
    rintro pending store session ⟨⟨usable, waits, changes, shape, rfl⟩, extended, carried⟩
    rw [List.append_nil] at shape
    exact ⟨usable, shape, extended, pending, rfl, fun nothing => waits (shape.trans nothing),
      carried⟩
  refine .bind stages fun _ => .bind leads_insertion fun flushed => ?_
  cases flushed with
  | ok _ =>
      refine .bind leads_classify fun action => .pure fun _ _ _ => grown_mono ?_
      rintro changes member other ⟨given, result, -⟩
      cases result
      exact ⟨createdAt, reference, member⟩
  | error failure =>
      cases failure with
      | integrity =>
          refine .bind leads_giveUp fun _ => .bind (leads_query.and conserves_query) fun existing =>
            .pure fun _ _ _ => grown_mono fun changes _ => ?_
          exact accounts_of_not_new fun key => not_isNew_lostRace
      | database | http status detail | raised name => exact .raise fun _ _ _ => False.elim

theorem leads_processInboundEmailV2 :
    Leads (grown origin base held fun changes => changes = [])
      (processInboundEmailV2 deployment email none)
      (fun result => grown origin base held (Accounts email.normalized result))
      fun _ => grown origin base held fun _ => True := by
  have duplicate : ∀ existing : Option (Nat × Message), Leads
      (grown origin base held fun changes => changes = [])
      (receiveUnlessDuplicate deployment none email.normalized existing)
      (fun result => grown origin base held (Accounts email.normalized result))
      fun _ => grown origin base held fun _ => True := by
    intro existing
    cases existing with
    | some found =>
        refine .pure fun _ _ _ => grown_mono fun changes _ => accounts_of_not_new ?_
        rintro key ⟨action, result, fresh⟩
        cases result
        exact fresh rfl
    | none =>
        refine .bind (leads_correlate.and conserves_correlate) fun found => ?_
        cases found with
        | none =>
            refine .pure fun _ _ _ => grown_mono fun changes _ => accounts_of_not_new ?_
            rintro key ⟨action, result, -⟩
            cases result
        | some key => exact leads_receiveCorrelated
  exact .ite (fun _ => .bind (leads_query.and conserves_query) duplicate) fun _ =>
    .bind (.pure fun _ _ _ => id) duplicate

end Handling

/-! ## A batch -/

section Sequence

variable {deployment : Deployment} {store last : Database} {session final : Session Change}
variable {pending waiting : List Change} {entries : List BatchEntry}

/-- A transaction in which the next email can be handled. -/
structure Ready
    (pending : List Change)
    (session : Session Change) : Prop where
  usable : session.aborted = false
  waits : session.writes = [] → pending = []
  ordinary : ∀ change ∈ session.writes ++ pending, change.ordinary

theorem ready_empty : Ready [] {} :=
  ⟨rfl, fun _ => rfl, fun _ member => (List.not_mem_nil member).elim⟩

/-- What the handling of one email leaves: the next one can be handled, nothing that was
carried is lost, and a new message is carried. -/
theorem Ready.handled
    {email : InboundEmail}
    {outcome : Except Failure InboundResult}
    (ready : Ready pending session)
    (served : Served batching store session
      (processInboundEmailV2 deployment email none pending) last final (outcome, waiting)) :
    Ready waiting final ∧ store.Extends last ∧
      (∀ change ∈ session.writes ++ pending, change ∈ final.writes ++ waiting) ∧
      ∀ result key, outcome = .ok result → IsNew result key →
        Stores email.normalized key (final.writes ++ waiting) := by
  have start : (grown store session.writes (session.writes ++ pending)
      fun changes => changes = []).holds pending store session :=
    ⟨⟨ready.usable, ready.waits, [], (List.append_nil _).symm, rfl⟩, .refl store,
      fun _ => id, ready.ordinary⟩
  have ended := leads_processInboundEmailV2 pending store session last final outcome waiting
    start served
  cases outcome with
  | error failure =>
      obtain ⟨⟨usable, waits, -⟩, extended, carried⟩ := ended
      exact ⟨⟨usable, waits, carried.ordinary⟩, extended, carried.kept,
        fun _ _ returned => by cases returned⟩
  | ok result =>
      obtain ⟨⟨usable, waits, changes, shape, accounts⟩, extended, carried⟩ := ended
      refine ⟨⟨usable, waits, carried.ordinary⟩, extended, carried.kept, ?_⟩
      rintro _ key ⟨⟩ new
      obtain ⟨createdAt, reference, member⟩ := accounts key new
      refine ⟨createdAt, reference, List.mem_append_left _ ?_⟩
      rw [shape]
      exact List.mem_append_right _ member

/-- What a batch leaves. -/
structure Kept
    (store last : Database)
    (initial terminal : List Change)
    (entries : List BatchEntry) : Prop where
  extended : store.Extends last
  carried : ∀ change ∈ initial, change ∈ terminal
  usable : ∀ entry ∈ entries, entry.opened.aborted = false
  since : ∀ entry ∈ entries, ∀ change ∈ initial, change ∈ entry.made
  later : entries.Pairwise fun first second => ∀ change ∈ first.made, change ∈ second.made
  remains : ∀ entry ∈ entries, ∀ change ∈ entry.made, change ∈ terminal
  stores : ∀ entry ∈ entries, ∀ result key, entry.outcome = .ok result → IsNew result key →
    Stores entry.email.normalized key entry.made

/-- In a batch no email loses what the transaction carries. -/
theorem Ready.batch
    (ready : Ready pending session)
    (ran : Batch batching deployment store session pending entries last final waiting) :
    Ready waiting final ∧
      Kept store last (session.writes ++ pending) (final.writes ++ waiting) entries := by
  induction ran with
  | nil moved =>
      refine ⟨ready, moved, fun _ => id, ?_, ?_, .nil, ?_, ?_⟩
      all_goals exact fun _ member => (List.not_mem_nil member).elim
  | @cons _ _ _ session between final pending waiting _ _ _ _ handled rest inductionHypothesis =>
      obtain ⟨still, extended, carried, stores⟩ := ready.handled handled
      obtain ⟨closed, kept⟩ := inductionHypothesis still
      refine ⟨closed, extended.trans kept.extended,
        fun change member => kept.carried change (carried change member), ?_, ?_,
        .cons kept.since kept.later, ?_, ?_⟩
      all_goals refine List.forall_mem_cons.mpr ⟨?_, ?_⟩
      · exact ready.usable
      · exact kept.usable
      · exact carried
      · exact fun entry member change before =>
          kept.since entry member change (carried change before)
      · exact kept.carried
      · exact kept.remains
      · exact stores
      · exact kept.stores

/-! ## The commit -/

/-- The changes were committed together. -/
def landed
    (origin : Database)
    (held : List Change) : Circumstance batching where
  holds _ store _ := ∃ base writes committed, origin.Extends base ∧
    applyAll Change.apply base writes = some committed ∧ committed.Extends store ∧
    (∀ change ∈ held, change ∈ writes) ∧ ∀ change ∈ writes, change.ordinary
  stable := by
    rintro pending store next session ⟨base, writes, committed, since, applied, kept, rest⟩ moved
    exact ⟨base, writes, committed, since, applied, kept.trans moved, rest⟩

/-- Everything has been written. -/
def flushed
    (origin : Database)
    (held : List Change) : Circumstance batching where
  holds pending store session := pending = [] ∧ origin.Extends store ∧ Carried held [] session
  stable holds moved := ⟨holds.1, holds.2.1.trans moved, holds.2.2⟩

theorem leads_commit
    {origin : Database}
    {held : List Change} :
    Leads (carrying batching origin held) commit (fun _ => landed origin held) fun _ => .top := by
  have writes : Leads (carrying batching origin held) flush
      (fun _ => flushed origin held) fun _ => .top :=
    .flush (fun _ _ holds => ⟨rfl, holds⟩)
      (fun _ _ _ _ _ holds _ _ _ => ⟨rfl, holds.1, holds.2.flush⟩)
      (fun _ _ _ _ _ => trivial) fun _ _ _ _ => trivial
  refine .bind writes fun _ => .commitTransaction ?_ fun _ _ _ _ _ => trivial
  rintro pending store session result ⟨-, extended, carried⟩ - applied
  refine ⟨⟨store, session.writes, result, extended, applied, .refl result, ?_, ?_⟩, trivial⟩
  · intro change member
    exact List.append_nil session.writes ▸ carried.kept change member
  · intro change member
    exact carried.ordinary change (List.mem_append_left _ member)

theorem leads_close
    {origin : Database}
    {held : List Change} :
    Leads (carrying batching origin held) (sessionScope (pure ()))
      (fun _ => landed origin held) fun _ => .top := by
  refine .sessionScope (.bind (.pure fun _ _ _ => id) fun _ => .bind leads_commit fun _ =>
    .pure fun _ _ _ => id) ?_
  exact fun _ _ _ _ holds => holds

end Sequence

end Batch

/-- The message of an email is stored under a contact. -/
def MessageStored
    (database : Database)
    (email : InboundEmail)
    (contactId : Nat) : Prop :=
  ∃ key message, database.messages.get key = some message ∧ message.contactId = contactId ∧
    message.direction = .inbound ∧ message.messageIdHeader = email.messageId

theorem Batch.Stores.stored
    {email : InboundEmail}
    {contactId : Nat}
    {base committed after : Database}
    {changes : List Change}
    (stores : Batch.Stores email contactId changes)
    (ordinary : ∀ change ∈ changes, change.ordinary)
    (applied : applyAll Change.apply base changes = some committed)
    (extended : committed.Extends after) :
    MessageStored after email contactId := by
  obtain ⟨createdAt, reference, written⟩ := stores
  obtain ⟨key, message, found, owner, direction, -, header⟩ :=
    tracks_messages.get_inserted ordinary applied written rfl
  obtain ⟨current, foundCurrent, keeps⟩ := extended.messages key message found
  exact ⟨key, current, foundCurrent, keeps.contactId.trans owner,
    keeps.direction.trans direction, (keeps.identity direction).trans header⟩

/-- In every run of `poll_replies_job` among others in which no statement fails, and an
insertion is rejected only before the batch has stored anything: every email is handled in
a usable transaction, what an email has stored or is about to store is still carried after
every later one, and when the job ends normally all of it is committed and the Message of
every matched email that is no duplicate exists. -/
theorem replies_isolated
    (deployment : Deployment)
    (before after : Database)
    (entries : List BatchEntry)
    (outcome : Except Failure Unit)
    (polled : RepliesPolled batching deployment before entries outcome after) :
    (∀ entry ∈ entries, entry.opened.aborted = false) ∧
      (entries.Pairwise fun earlier later =>
        ∀ change ∈ earlier.made, change ∈ later.made) ∧
      (outcome = .ok () → ∃ base writes committed, before.Extends base ∧
        applyAll Change.apply base writes = some committed ∧ committed.Extends after ∧
        ∀ entry ∈ entries, (∀ change ∈ entry.made, change ∈ writes) ∧
          ∀ key action, entry.outcome = .ok (.matched key action) →
            action ≠ .skippedDuplicate → MessageStored after entry.email.normalized key) := by
  cases polled with
  | idle moved =>
      exact ⟨fun _ member => (List.not_mem_nil member).elim, .nil,
        fun _ => ⟨before, [], before, .refl before, rfl, moved,
          fun _ member => (List.not_mem_nil member).elim⟩⟩
  | @batch _ _ middle _ session final pending waiting fetched ran closed =>
      obtain ⟨ready, kept⟩ := Batch.ready_empty.batch ran
      refine ⟨kept.usable, kept.later, ?_⟩
      rintro rfl
      have start : (carrying batching before (session.writes ++ pending)).holds pending middle
          session := ⟨kept.extended, fun _ => id, ready.ordinary⟩
      obtain ⟨base, writes, committed, since, applied, extended, held, ordinary⟩ :=
        Batch.leads_close pending middle session after final (.ok ()) waiting start closed
      refine ⟨base, writes, committed, since, applied, extended, fun entry member => ?_⟩
      have written : ∀ change ∈ entry.made, change ∈ writes :=
        fun change here => held change (kept.remains entry member change here)
      refine ⟨written, fun key action returned fresh => ?_⟩
      obtain ⟨createdAt, reference, inside⟩ :=
        kept.stores entry member _ key returned ⟨action, rfl, fresh⟩
      have stores : Batch.Stores entry.email.normalized key writes :=
        ⟨createdAt, reference, written _ inside⟩
      exact stores.stored ordinary applied extended

namespace Sample

/-- Out-of-office letters, each with a handleLetter of its own. -/
def replying (reference : String) : (signal : Signal) → signal.Reply
  | .newReference => reference
  | signal => understands [.outOfOffice] signal

/-- No statement fails or violates a constraint. -/
def undisturbed {Value : Type} :
    Database → Thread Database Change Signal Signal.Reply Value →
    Stimulus Signal Signal.Reply → Bool :=
  fun database thread stimulus =>
    match thread.process with
    | .statement run _ =>
        match (runStatement Change.apply database thread.session stimulus.fault run).1 with
        | .ran _ => true
        | _ => false
    | _ => true

theorem considers_undisturbed
    {Value : Type}
    (database : Database)
    (thread : Thread Database Change Signal Signal.Reply Value)
    (stimulus : Stimulus Signal Signal.Reply)
    (considered : undisturbed database thread stimulus = true) :
    Served.Considers batching database thread stimulus := by
  unfold Served.Considers
  unfold undisturbed at considered
  split
  · next run next process =>
      rw [process] at considered
      simp only at considered
      split at considered
      · next view seen =>
          have ran : (runStatement batching.apply database thread.session stimulus.fault run).1 =
              .ran view := seen
          rw [ran]
          trivial
      · cases considered
  · trivial
  · trivial
  · trivial

/-- A store, the open transaction and what waits for a flush. -/
structure BatchDesk where
  store : Database
  session : Session Change := {}
  pending : List Change := []

/-- A program runs to its end in so many steps. -/
def atDesk
    {Value : Type}
    (considered : Database → Thread Database Change Signal Signal.Reply
      (Except Failure Value × List Change) → Stimulus Signal Signal.Reply → Bool)
    (program : Program Value)
    (reference : String)
    (count : Nat)
    (desk : BatchDesk) : Option (Except Failure Value × BatchDesk) :=
  ((Thread.mk (program desk.pending) desk.session).steps Change.apply considered desk.store
    (List.replicate count { answer := replying reference })).bind fun ran =>
      ran.2.finished.map fun ended =>
        (ended.1, { store := ran.1, session := ran.2.session, pending := ended.2 })

theorem served_of_atDesk
    {company : Company Database Change}
    {Value : Type}
    {considered : Database → Thread Database Change Signal Signal.Reply
      (Except Failure Value × List Change) → Stimulus Signal Signal.Reply → Bool}
    {program : Program Value}
    {reference : String}
    {count : Nat}
    {desk after : BatchDesk}
    {outcome : Except Failure Value}
    (same : company.apply = Change.apply)
    (considers : ∀ database thread stimulus, considered database thread stimulus = true →
      Served.Considers company database thread stimulus)
    (ran : atDesk considered program reference count desk = some (outcome, after)) :
    Served company desk.store desk.session (program desk.pending) after.store after.session
      (outcome, after.pending) := by
  obtain ⟨⟨store, done⟩, stepped, ended⟩ := Option.bind_eq_some_iff.mp ran
  obtain ⟨⟨result, pending⟩, finished, shape⟩ := Option.map_eq_some_iff.mp ended
  cases shape
  rw [← same] at stepped
  exact Served.of_finished considers stepped finished

/-- A letter is handled, with a result. -/
def handleLetter
    (considered : Database → Thread Database Change Signal Signal.Reply
      (Except Failure InboundResult × List Change) → Stimulus Signal Signal.Reply → Bool)
    (email : InboundEmail)
    (reference : String)
    (count : Nat)
    (result : InboundResult)
    (desk : BatchDesk) : Option BatchDesk :=
  (atDesk considered (processInboundEmailV2 deployment email none) reference count desk).bind
    fun ended => if ended.1.toOption = some result then some ended.2 else none

/-- The session of the job is closed. -/
def closeJob
    (considered : Database → Thread Database Change Signal Signal.Reply
      (Except Failure Unit × List Change) → Stimulus Signal Signal.Reply → Bool)
    (desk : BatchDesk) : Option BatchDesk :=
  (atDesk considered (sessionScope (pure ())) "" 2 desk).bind
    fun ended => if ended.1.toOption = some () then some ended.2 else none

theorem ended_of_toOption
    {Value : Type}
    [DecidableEq Value]
    {ended : Except Failure Value × BatchDesk}
    {value : Value}
    {after : BatchDesk}
    (returned : (if ended.1.toOption = some value then some ended.2 else none) = some after) :
    ended = (.ok value, after) := by
  split at returned
  · next same =>
      cases returned
      exact Prod.ext (ok_of_toOption same) rfl
  · cases returned

/-- Two letters of a batch. -/
def firstLetter : InboundEmail := letter "p@x.test" "<a@x.test>"

def secondLetter : InboundEmail := letter "p@x.test" "<b@x.test>"

/-- A letter with the Message-ID of the message that was sent to its author. -/
def echo : InboundEmail := letter "p@x.test" "<id@acme.test>"

/-- A batch of the first letter and another one ends normally, with a property. -/
def pollsBoth
    (letterConsidered : Database → Thread Database Change Signal Signal.Reply
      (Except Failure InboundResult × List Change) → Stimulus Signal Signal.Reply → Bool)
    (considered : Database → Thread Database Change Signal Signal.Reply
      (Except Failure Unit × List Change) → Stimulus Signal Signal.Reply → Bool)
    (second : InboundEmail)
    (count : Nat)
    (action : InboundAction)
    (property : Database → Bool)
    (before : World) : Bool :=
  (handleLetter letterConsidered firstLetter "r1" 13 (.matched 0 .ignoredOos)
    { store := before.database }).any fun desk =>
      (handleLetter letterConsidered second "r2" count (.matched 0 action) desk).any fun desk =>
        (closeJob considered desk).any fun desk => property desk.store

theorem exists_polled
    {company : Company Database Change}
    {letterConsidered : Database → Thread Database Change Signal Signal.Reply
      (Except Failure InboundResult × List Change) → Stimulus Signal Signal.Reply → Bool}
    {considered : Database → Thread Database Change Signal Signal.Reply
      (Except Failure Unit × List Change) → Stimulus Signal Signal.Reply → Bool}
    (same : company.apply = Change.apply)
    (considersLetter : ∀ database thread stimulus,
      letterConsidered database thread stimulus = true →
        Served.Considers company database thread stimulus)
    (considers : ∀ database thread stimulus, considered database thread stimulus = true →
      Served.Considers company database thread stimulus)
    {second : InboundEmail}
    {count : Nat}
    {action : InboundAction}
    {property : Database → Bool}
    {before : World}
    (ran : pollsBoth letterConsidered considered second count action property before = true) :
    ∃ opened left after, ∃ waiting queue : List Change,
      RepliesPolled company deployment before.database
        [⟨firstLetter, .ok (.matched 0 .ignoredOos), {}, opened, waiting⟩,
          ⟨second, .ok (.matched 0 action), opened, left, queue⟩] (.ok ()) after ∧
      property after = true := by
  obtain ⟨desk, handledFirst, ran⟩ := (Option.any_eq_true _ _).mp ran
  obtain ⟨next, handledSecond, ran⟩ := (Option.any_eq_true _ _).mp ran
  obtain ⟨last, closed, holds⟩ := (Option.any_eq_true _ _).mp ran
  obtain ⟨firstEnd, firstRan, returned⟩ := Option.bind_eq_some_iff.mp handledFirst
  obtain rfl := ended_of_toOption returned
  obtain ⟨secondEnd, secondRan, returned⟩ := Option.bind_eq_some_iff.mp handledSecond
  obtain rfl := ended_of_toOption returned
  obtain ⟨lastEnd, lastRan, returned⟩ := Option.bind_eq_some_iff.mp closed
  obtain rfl := ended_of_toOption returned
  have first := served_of_atDesk same considersLetter firstRan
  have other := served_of_atDesk same considersLetter secondRan
  have closing := served_of_atDesk same considers lastRan
  exact ⟨_, _, _, _, _, .batch (List.cons_ne_nil _ _)
    (.cons first (.cons other (.nil (company.refl _)))) closing, holds⟩

end Sample

/-- The letter that echoes a Message-ID is rejected after the first letter of the batch was
stored. The rollback takes the first letter back; the job ends normally, and the letter,
which is marked as seen, is lost. -/
theorem replies_lost :
    ∃ before after entries, (system Sample.deployment).Reachable before ∧
      RepliesPolled alongside Sample.deployment before.database entries (.ok ()) after ∧
      ∃ entry ∈ entries, entry.outcome = .ok (.matched 0 .ignoredOos) ∧
        ¬MessageStored after entry.email.normalized 0 := by
  obtain ⟨before, reachable, ran⟩ := reachable_of_any Sample.deployment Sample.contacted
    (Sample.pollsBoth Sample.anyStep Sample.anyStep Sample.echo 9 .skippedDuplicate fun after =>
      !after.messages.existsWhere fun message =>
        message.messageIdHeader == Sample.firstLetter.normalized.messageId)
    (by decide +kernel)
  obtain ⟨opened, left, after, waiting, queue, polled, absent⟩ :=
    Sample.exists_polled rfl Sample.considers_anyStep Sample.considers_anyStep ran
  refine ⟨before, after, _, reachable, polled, _, List.mem_cons_self, rfl, ?_⟩
  rintro ⟨key, message, found, -, -, header⟩
  rw [Bool.not_eq_true'] at absent
  have missing := Table.existsWhere_eq_false absent found
  rw [header, beq_self_eq_true] at missing
  cases missing

/-- Two new letters of a batch are both stored. -/
theorem replies_isolated_of_two :
    ∃ before after entries, (system Sample.deployment).Reachable before ∧
      RepliesPolled batching Sample.deployment before.database entries (.ok ()) after ∧
      MessageStored after Sample.firstLetter.normalized 0 ∧
      MessageStored after Sample.secondLetter.normalized 0 := by
  obtain ⟨before, reachable, ran⟩ := reachable_of_any Sample.deployment Sample.contacted
    (Sample.pollsBoth Sample.undisturbed Sample.undisturbed Sample.secondLetter 13 .ignoredOos
      fun _ => true)
    (by decide +kernel)
  obtain ⟨opened, left, after, waiting, queue, polled, -⟩ :=
    Sample.exists_polled rfl Sample.considers_undisturbed Sample.considers_undisturbed ran
  obtain ⟨-, -, committed⟩ := replies_isolated Sample.deployment before.database after _ _ polled
  obtain ⟨base, writes, stored, -, -, -, each⟩ := committed rfl
  refine ⟨before, after, _, reachable, polled, ?_, ?_⟩
  · exact (each _ List.mem_cons_self).2 0 .ignoredOos rfl (by decide)
  · exact (each _ (List.mem_cons_of_mem _ List.mem_cons_self)).2 0 .ignoredOos rfl (by decide)

end MailerAgent
