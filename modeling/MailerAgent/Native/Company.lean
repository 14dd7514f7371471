import MailerAgent.Foundation.Company
import MailerAgent.Native.Confinement

/-!
# Native programs in company

`Leads` is the judgement about a program that runs among others: every run of it that
starts where a circumstance holds, and whose steps are all considered, ends where another
one holds, after a normal return and after an exception. A circumstance speaks about the
changes that wait for a flush, the committed store and the open transaction, and nothing
that the others may do ends it.
-/

namespace MailerAgent
namespace Native

open Concurrent Relational Mail Program

/-- A condition on what waits for a flush, the store and the open transaction that the
others cannot end. -/
structure Circumstance (company : Company Database Change) where
  holds : List Change → Database → Session Change → Prop
  stable : ∀ {pending store next session}, holds pending store session →
    company.others store next → holds pending next session

/-- Both of two circumstances. -/
def Circumstance.and
    {company : Company Database Change}
    (first second : Circumstance company) : Circumstance company where
  holds pending store session :=
    first.holds pending store session ∧ second.holds pending store session
  stable both moved := ⟨first.stable both.1 moved, second.stable both.2 moved⟩

/-- No condition. -/
def Circumstance.top {company : Company Database Change} : Circumstance company where
  holds _ _ _ := True
  stable _ _ := trivial

variable {Value Result : Type}

/-- Every run from a circumstance returns or raises in one. -/
def Leads
    {company : Company Database Change}
    (before : Circumstance company)
    (program : Program Value)
    (returns : Value → Circumstance company)
    (raises : Failure → Circumstance company) : Prop :=
  ∀ pending store session last final outcome after, before.holds pending store session →
    Served company store session (program pending) last final (outcome, after) →
    match outcome with
    | .ok value => (returns value).holds after last final
    | .error failure => (raises failure).holds after last final

namespace Leads

variable {company : Company Database Change} {before : Circumstance company}
variable {program : Program Value}
variable {returns : Value → Circumstance company} {raises : Failure → Circumstance company}

theorem pure
    {value : Value}
    (holds : ∀ pending store session, before.holds pending store session →
      (returns value).holds pending store session) :
    Leads before (Pure.pure value) returns raises := by
  intro pending store session last final outcome after start served
  cases served with
  | done reached => exact holds _ _ _ (before.stable start reached)

theorem raise
    {failure : Failure}
    (holds : ∀ pending store session, before.holds pending store session →
      (raises failure).holds pending store session) :
    Leads before (Program.raise failure) returns raises := by
  intro pending store session last final outcome after start served
  cases served with
  | done reached => exact holds _ _ _ (before.stable start reached)

theorem strengthen
    {stronger : Circumstance company}
    (leads : Leads before program returns raises)
    (implies : ∀ pending store session, stronger.holds pending store session →
      before.holds pending store session) :
    Leads stronger program returns raises :=
  fun pending store session _ _ _ _ start =>
    leads _ _ _ _ _ _ _ (implies pending store session start)

theorem weaken
    {weaker : Value → Circumstance company}
    {alsoRaises : Failure → Circumstance company}
    (leads : Leads before program returns raises)
    (implies : ∀ value pending store session, (returns value).holds pending store session →
      (weaker value).holds pending store session)
    (impliesRaised : ∀ failure pending store session,
      (raises failure).holds pending store session →
      (alsoRaises failure).holds pending store session) :
    Leads before program weaker alsoRaises := by
  intro pending store session last final outcome after start served
  have ended := leads pending store session last final outcome after start served
  cases outcome with
  | ok value => exact implies value after last final ended
  | error failure => exact impliesRaised failure after last final ended

/-- Two judgements about one program. -/
theorem and
    {also : Circumstance company}
    {alsoReturns : Value → Circumstance company}
    {alsoRaises : Failure → Circumstance company}
    (left : Leads before program returns raises)
    (right : Leads also program alsoReturns alsoRaises) :
    Leads (before.and also) program (fun value => (returns value).and (alsoReturns value))
      fun failure => (raises failure).and (alsoRaises failure) := by
  intro pending store session last final outcome after both served
  have first := left pending store session last final outcome after both.1 served
  have second := right pending store session last final outcome after both.2 served
  cases outcome with
  | ok value => exact ⟨first, second⟩
  | error failure => exact ⟨first, second⟩

theorem bind
    {rest : Value → Program Result}
    {middle : Value → Circumstance company}
    {ending : Result → Circumstance company}
    (first : Leads before program middle raises)
    (second : ∀ value, Leads (middle value) (rest value) ending raises) :
    Leads before (program >>= rest) ending raises := by
  intro pending store session last final outcome after start served
  obtain ⟨between, continued, ⟨result, waiting⟩, left, right⟩ := served.split
  have reached := first pending store session between continued result waiting start left
  cases result with
  | ok value => exact second value waiting between continued last final outcome after reached right
  | error failure =>
      cases right with
      | done moved => exact (raises failure).stable reached moved

/-- `try`: what is raised is a value. -/
theorem attempt
    {caught : Except Failure Value → Circumstance company}
    (leads : Leads before program (fun value => caught (.ok value))
      fun failure => caught (.error failure)) :
    Leads before program.attempt caught raises := by
  intro pending store session last final outcome after start served
  obtain ⟨between, continued, ⟨result, waiting⟩, left, right⟩ := served.split
  have reached := leads pending store session between continued result waiting start left
  cases right with
  | done moved =>
      cases result with
      | ok value => exact (caught (.ok value)).stable reached moved
      | error failure => exact (caught (.error failure)).stable reached moved

theorem ite
    {condition : Prop}
    [Decidable condition]
    {yes no : Program Value}
    (taken : condition → Leads before yes returns raises)
    (missed : ¬condition → Leads before no returns raises) :
    Leads before (if condition then yes else no) returns raises := by
  split
  · next holds => exact taken holds
  · next fails => exact missed fails

theorem ofExcept
    {result : Except Failure Value}
    (returned : ∀ value, result = .ok value → ∀ pending store session,
      before.holds pending store session → (returns value).holds pending store session)
    (raised : ∀ failure, result = .error failure → ∀ pending store session,
      before.holds pending store session → (raises failure).holds pending store session) :
    Leads before (Program.ofExcept result) returns raises := by
  cases result with
  | ok value => exact pure (returned value rfl)
  | error failure => exact raise (raised failure rfl)

theorem ask
    {signal : Signal}
    {returns : signal.Reply → Circumstance company}
    (answered : ∀ reply pending store session, before.holds pending store session →
      (returns reply).holds pending store session) :
    Leads before (Program.ask signal) returns raises := by
  intro pending store session last final outcome after start served
  cases served with
  | ask reached reply rest =>
      cases rest with
      | done moved =>
          exact answered reply _ _ _ (before.stable (before.stable start reached) moved)

theorem stage
    {change : Change}
    {returns : Unit → Circumstance company}
    (staged : ∀ pending store session, before.holds pending store session →
      (returns ()).holds (pending ++ [change]) store session) :
    Leads before (Program.stage change) returns raises := by
  intro pending store session last final outcome after start served
  cases served with
  | done reached => exact staged _ _ _ (before.stable start reached)

/-- A statement issued directly, if it is considered. -/
theorem statement
    {changes : Database → List Change}
    {read : Database → Value}
    (ran : ∀ pending store session view after, before.holds pending store session →
      session.aborted = false → applyAll company.apply store session.writes = some view →
      applyAll company.apply view (changes view) = some after →
      (returns (read view)).holds pending store
        { session with writes := session.writes ++ changes view })
    (violated : ∀ pending store session view, before.holds pending store session →
      applyAll company.apply view (changes view) = none →
      company.statements store session .violated →
      (raises .integrity).holds pending store { session with aborted := true })
    (failed : ∀ pending store session, before.holds pending store session →
      company.statements store session .failed →
      (raises .database).holds pending store { session with aborted := true }) :
    Leads before (Program.execute changes read) returns raises := by
  intro pending store session last final outcome after start served
  cases served with
  | @statement _ current _ _ _ _ _ _ fault reached considered rest =>
      have here := before.stable start reached
      have shape := ran_runStatement company.apply current session fault
        fun view => some (changes view)
      generalize runStatement company.apply current session fault
        (fun view => some (changes view)) = ended at *
      cases rest with
      | done moved =>
          cases shape with
          | failed => exact (raises _).stable (failed _ _ _ here considered) moved
          | violated healthy seen rejected =>
              exact (raises _).stable (violated _ _ _ _ here (rejected _ rfl) considered) moved
          | ran healthy seen made applied =>
              cases made
              exact (returns _).stable (ran _ _ _ _ _ here healthy seen applied) moved

/-- A statement issued directly. -/
theorem execute
    {changes : Database → List Change}
    {read : Database → Value}
    (ran : ∀ pending store session view after, before.holds pending store session →
      session.aborted = false → applyAll company.apply store session.writes = some view →
      applyAll company.apply view (changes view) = some after →
      (returns (read view)).holds pending store
        { session with writes := session.writes ++ changes view })
    (violated : ∀ pending store session view, before.holds pending store session →
      applyAll company.apply view (changes view) = none →
      company.statements store session .violated →
      (raises .integrity).holds pending store { session with aborted := true })
    (failed : ∀ pending store session, before.holds pending store session →
      (raises .database).holds pending store { session with aborted := true }) :
    Leads before (Program.execute changes read) returns raises :=
  statement ran violated fun _ _ _ holds _ => failed _ _ _ holds

/-- A `SELECT`. -/
theorem query
    {read : Database → Value}
    (ran : ∀ pending store session view, before.holds pending store session →
      session.aborted = false → applyAll company.apply store session.writes = some view →
      (returns (read view)).holds pending store session)
    (failed : ∀ pending store session, before.holds pending store session →
      (raises .database).holds pending store { session with aborted := true }) :
    Leads before (Program.query read) returns raises := by
  refine execute ?_ (fun _ _ _ _ _ => nofun) failed
  intro pending store session view after holds healthy seen _
  rw [List.append_nil]
  exact ran pending store session view holds healthy seen

/-- A `SELECT` of whose result nothing is said. -/
theorem look
    {read : Database → Value}
    (failed : ∀ pending store session, before.holds pending store session →
      (raises .database).holds pending store { session with aborted := true }) :
    Leads before (Program.query read) (fun _ => before) raises :=
  query (fun _ _ _ _ holds _ _ => holds) failed

/-- A flush, if it is considered. -/
theorem issue
    {returns : Unit → Circumstance company}
    (empty : ∀ store session, before.holds [] store session →
      (returns ()).holds [] store session)
    (ran : ∀ pending store session view after, before.holds pending store session →
      session.aborted = false → applyAll company.apply store session.writes = some view →
      applyAll company.apply view (unitOfWork pending) = some after →
      (returns ()).holds [] store
        { session with writes := session.writes ++ unitOfWork pending })
    (violated : ∀ pending store session, before.holds pending store session →
      pending ≠ [] → company.statements store session .violated →
      (raises .integrity).holds pending store { session with aborted := true })
    (failed : ∀ pending store session, before.holds pending store session →
      company.statements store session .failed →
      (raises .database).holds pending store { session with aborted := true }) :
    Leads before Program.flush returns raises := by
  intro pending store session last final outcome after start served
  cases pending with
  | nil =>
      cases served with
      | done reached => exact empty _ _ (before.stable start reached)
  | cons change rest =>
      cases served with
      | @statement _ current _ _ _ _ _ _ fault reached considered tail =>
          have here := before.stable start reached
          have shape := ran_runStatement company.apply current session fault
            fun _ => some (unitOfWork (change :: rest))
          generalize runStatement company.apply current session fault
            (fun _ => some (unitOfWork (change :: rest))) = ended at *
          cases tail with
          | done moved =>
              cases shape with
              | failed => exact (raises _).stable (failed _ _ _ here considered) moved
              | violated healthy seen rejected =>
                  exact (raises _).stable
                    (violated _ _ _ here (List.cons_ne_nil _ _) considered) moved
              | ran healthy seen made applied =>
                  cases made
                  exact (returns ()).stable (ran _ _ _ _ _ here healthy seen applied) moved

/-- A flush. -/
theorem flush
    {returns : Unit → Circumstance company}
    (empty : ∀ store session, before.holds [] store session →
      (returns ()).holds [] store session)
    (ran : ∀ pending store session view after, before.holds pending store session →
      session.aborted = false → applyAll company.apply store session.writes = some view →
      applyAll company.apply view (unitOfWork pending) = some after →
      (returns ()).holds [] store
        { session with writes := session.writes ++ unitOfWork pending })
    (violated : ∀ pending store session, before.holds pending store session →
      company.statements store session .violated →
      (raises .integrity).holds pending store { session with aborted := true })
    (failed : ∀ pending store session, before.holds pending store session →
      (raises .database).holds pending store { session with aborted := true }) :
    Leads before Program.flush returns raises :=
  issue empty ran (fun _ _ _ holds _ => violated _ _ _ holds)
    fun _ _ _ holds _ => failed _ _ _ holds

theorem commitTransaction
    {returns : Unit → Circumstance company}
    (applied : ∀ pending store session result, before.holds pending store session →
      company.commits store session (some result) →
      applyAll company.apply store session.writes = some result →
      (returns ()).holds pending result {} ∧
        (raises .database).holds pending result ⟨[], true⟩)
    (failed : ∀ pending store session, before.holds pending store session →
      company.commits store session none →
      (raises .database).holds pending store ⟨[], true⟩) :
    Leads before Program.commitTransaction returns raises := by
  intro pending store session last final outcome after start served
  cases served with
  | @commit _ current _ _ _ _ _ decided reached considered rest =>
      have here := before.stable start reached
      have shape := ended_runCommit company.apply current session decided
      generalize runCommit company.apply current session decided = ended at *
      cases rest with
      | done moved =>
          cases shape with
          | failed lost =>
              rw [lost] at considered
              exact (raises _).stable (failed _ _ _ here considered) moved
          | applied took landed reported =>
              rw [landed] at considered
              have both := applied _ _ _ _ here considered took
              cases reported with
              | true => exact (returns ()).stable both.1 moved
              | false => exact (raises _).stable both.2 moved

theorem rollback
    {returns : Unit → Circumstance company}
    (forgotten : ∀ pending store session, before.holds pending store session →
      company.rollbacks store session → (returns ()).holds [] store {}) :
    Leads before Program.rollback returns raises := by
  intro pending store session last final outcome after start served
  cases served with
  | rollback reached considered rest =>
      cases rest with
      | done moved =>
          exact (returns ()).stable
            (forgotten _ _ _ (before.stable start reached) considered) moved

/-- Where a program has ended, one way or the other. -/
def ending
    (returns : Value → Circumstance company)
    (raises : Failure → Circumstance company) : Except Failure Value → Circumstance company
  | .ok value => returns value
  | .error failure => raises failure

/-- A session is rolled back at its end. -/
theorem session
    {laterReturns : Value → Circumstance company}
    {laterRaises : Failure → Circumstance company}
    (body : Leads before program returns raises)
    (closed : ∀ result pending store session,
      (ending returns raises result).holds pending store session →
      company.rollbacks store session →
      (ending laterReturns laterRaises result).holds [] store {}) :
    Leads before (Program.session program) laterReturns laterRaises := by
  have caught : Leads before program.attempt (ending returns raises) laterRaises :=
    .attempt body
  refine .bind caught fun result => ?_
  have closes : Leads (ending returns raises result) Program.rollback
      (fun _ => ending laterReturns laterRaises result) laterRaises :=
    .rollback fun _ _ _ holds considered => closed result _ _ _ holds considered
  refine .bind closes fun _ => .ofExcept ?_ ?_
  · rintro value rfl _ _ _ holds
    exact holds
  · rintro failure rfl _ _ _ holds
    exact holds

/-- A loop keeps a condition on the items that are left. -/
theorem forEach
    {Item : Type}
    {items : List Item}
    {body : Item → Program Unit}
    (left : List Item → Circumstance company)
    (each : ∀ item rest, Leads (left (item :: rest)) (body item) (fun _ => left rest) raises) :
    Leads (left items) (Program.forEach items body) (fun _ => left []) raises := by
  induction items with
  | nil => exact .pure fun _ _ _ => id
  | cons item rest inductionHypothesis => exact .bind (each item rest) fun _ => inductionHypothesis

/-- `finally`, after a program that ends in one place either way. -/
theorem ensuring
    {cleanup : Program Unit}
    {middle after : Circumstance company}
    (body : Leads before program (fun _ => middle) fun _ => middle)
    (closes : Leads middle cleanup (fun _ => after) fun _ => .top) :
    Leads before (Program.ensuring program cleanup) (fun _ => after) fun _ => .top := by
  have caught : Leads before program.attempt (fun _ => middle) fun _ => .top := .attempt body
  refine .bind caught fun result => .bind closes fun _ => ?_
  exact .ofExcept (fun _ _ _ _ _ => id) fun _ _ _ _ _ _ => trivial

/-- A transaction whose exceptions are of no interest. -/
theorem sessionScope
    {later : Value → Circumstance company}
    (body : Leads before (do let value ← program; commit; Pure.pure value) returns
      fun _ => .top)
    (closed : ∀ value pending store session, (returns value).holds pending store session →
      (later value).holds [] store {}) :
    Leads before (Program.sessionScope program) later fun _ => .top := by
  have closing : ∀ result : Except Failure Value,
      Leads (ending returns (fun _ => .top) result)
        (match result with
          | .ok value => Pure.pure value
          | .error failure => do
              Program.rollback
              Program.raise failure) returns fun _ => .top := by
    intro result
    cases result with
    | ok value => exact .pure fun _ _ _ => id
    | error failure =>
        have forgets : Leads (.top : Circumstance company) Program.rollback (fun _ => .top)
            fun _ => .top := .rollback fun _ _ _ _ _ => trivial
        exact .bind forgets fun _ => .raise fun _ _ _ _ => trivial
  have whole : Leads before (do
        let result ← Program.attempt (do let value ← program; commit; Pure.pure value)
        match result with
        | .ok value => Pure.pure value
        | .error failure => do
            Program.rollback
            Program.raise failure) returns fun _ => .top :=
    .bind (.attempt body) closing
  refine whole.session fun result pending store session holds _ => ?_
  cases result with
  | ok value => exact closed value pending store session holds
  | error failure => trivial

/-- A program that ends no transaction. -/
theorem confined
    {bounds : Bounds Change Signal}
    {ensures : Value → Prop}
    (within : Program.Confined bounds program ensures)
    (noTransaction : ¬bounds.transacts)
    (bounded : ∀ pending store session, before.holds pending store session →
      ∀ change ∈ pending, bounds.writes change)
    (returned : ∀ pending store session value waiting made aborted,
      before.holds pending store session → ensures value →
      (∀ change ∈ waiting, bounds.writes change) →
      (∀ change ∈ made, bounds.writes change) →
      (session.aborted = true → aborted = true) →
      (returns value).holds waiting store ⟨session.writes ++ made, aborted⟩)
    (raised : ∀ pending store session failure waiting made aborted,
      before.holds pending store session →
      (∀ change ∈ waiting, bounds.writes change) →
      (∀ change ∈ made, bounds.writes change) →
      (session.aborted = true → aborted = true) →
      (raises failure).holds waiting store ⟨session.writes ++ made, aborted⟩) :
    Leads before program returns raises := by
  intro pending store session last ⟨writes, aborted⟩ outcome after start served
  obtain ⟨moved, ⟨waiting, ensured⟩, lost, made, grown, kept⟩ :=
    served.of_confined (within pending (bounded pending store session start)) noTransaction
  have grown : writes = session.writes ++ made := grown
  subst grown
  have here := before.stable start moved
  cases outcome with
  | ok value => exact returned _ _ _ _ _ _ _ here (ensured value rfl) waiting kept lost
  | error failure => exact raised _ _ _ _ _ _ _ here waiting kept lost

/-- A program that ends no transaction, in a transaction whose considered statements all
run. -/
theorem running
    {bounds : Bounds Change Signal}
    {ensures : Value → Prop}
    (begun : List Change → Prop)
    (within : Program.Confined bounds program ensures)
    (noTransaction : ¬bounds.transacts)
    (grows : ∀ first second, begun first → begun (first ++ second))
    (runs : ∀ store session result, begun session.writes →
      company.statements store session result → ∃ view, result = .ran view)
    (starts : ∀ pending store session, before.holds pending store session →
      (∀ change ∈ pending, bounds.writes change) ∧ begun session.writes ∧
        session.aborted = false)
    (returned : ∀ pending store session value waiting made,
      before.holds pending store session → ensures value →
      (returns value).holds waiting store ⟨session.writes ++ made, false⟩)
    (raised : ∀ pending store session failure waiting made,
      before.holds pending store session →
      (raises failure).holds waiting store ⟨session.writes ++ made, false⟩) :
    Leads before program returns raises := by
  intro pending store session last ⟨writes, aborted⟩ outcome after start served
  obtain ⟨held, opened, usable⟩ := starts pending store session start
  have stays : aborted = false :=
    served.usable_of_confined (within pending held) noTransaction grows runs opened usable
  obtain ⟨moved, ⟨-, ensured⟩, -, made, grown, -⟩ :=
    served.of_confined (within pending held) noTransaction
  have grown : writes = session.writes ++ made := grown
  subst grown stays
  have here := before.stable start moved
  cases outcome with
  | ok value => exact returned _ _ _ _ _ _ here (ensured value rfl)
  | error failure => exact raised _ _ _ _ _ _ here

end Leads

end Native
end MailerAgent
