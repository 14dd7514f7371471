import MailerAgent.Foundation.Solo
import MailerAgent.Native.Api

/-!
# Native programs that run one at a time

`Performs` is the judgement about a program that has the database to itself: from a
session in which an assertion holds, every run ends in a session in which another one
holds, after a normal return and after an exception. An assertion speaks about the
changes that wait for a flush and about the desk of the process.
-/

namespace MailerAgent
namespace Native

open Concurrent Relational Mail Program

/-- A regime over the database. -/
structure Rules (Ghost : Type) where
  hears : Desk Database Ghost → (signal : Signal) → signal.Reply → Prop :=
    fun _ _ _ => True
  note : Desk Database Ghost → (signal : Signal) → signal.Reply → Ghost :=
    fun desk _ _ => desk.ghost
  settle : Ghost → Ghost := id
  calm : Ghost → Prop := fun _ => True
  kept : Ghost → Database → Prop := fun _ _ => True

/-- The regime of the rules. -/
def Rules.regime
    {Ghost : Type}
    (rules : Rules Ghost) :
    Regime Database Change Signal Ghost Signal.Reply where
  apply := Change.apply
  hears := rules.hears
  note := rules.note
  settle := rules.settle
  calm := rules.calm
  kept := rules.kept

/-- The transaction is lost already, or may be. -/
def Rules.Losable
    {Ghost : Type}
    (rules : Rules Ghost)
    (desk : Desk Database Ghost) : Prop :=
  desk.view ≠ none → rules.calm desk.ghost

theorem Rules.losable
    {Ghost : Type}
    {rules : Rules Ghost}
    {desk : Desk Database Ghost}
    (calm : rules.calm desk.ghost ∨ desk.view = none) :
    rules.Losable desk :=
  fun viewing => calm.resolve_right viewing

/-- A condition on what waits for a flush and on the desk. -/
abbrev Assertion (Ghost : Type) := List Change → Desk Database Ghost → Prop

variable {Ghost Value Result : Type}

/-- Every run from an assertion returns or raises in one. -/
def Performs
    (rules : Rules Ghost)
    (before : Assertion Ghost)
    (program : Program Value)
    (returns : Value → Assertion Ghost)
    (raises : Failure → Assertion Ghost) : Prop :=
  ∀ pending desk, before pending desk →
    Solo rules.regime (program pending)
      (fun outcome after =>
        match outcome.1 with
        | .ok value => returns value outcome.2 after
        | .error failure => raises failure outcome.2 after) desk

namespace Performs

variable {rules : Rules Ghost} {before : Assertion Ghost}
variable {returns : Value → Assertion Ghost} {raises : Failure → Assertion Ghost}

theorem pure
    {value : Value}
    (holds : ∀ pending desk, before pending desk → returns value pending desk) :
    Performs rules before (Pure.pure value) returns raises :=
  holds

theorem raise
    {failure : Failure}
    (holds : ∀ pending desk, before pending desk → raises failure pending desk) :
    Performs rules before (Program.raise failure) returns raises :=
  holds

theorem strengthen
    {stronger : Assertion Ghost}
    {program : Program Value}
    (performs : Performs rules before program returns raises)
    (implies : ∀ pending desk, stronger pending desk → before pending desk) :
    Performs rules stronger program returns raises :=
  fun pending desk holds => performs pending desk (implies pending desk holds)

theorem weaken
    {program : Program Value}
    {weaker : Value → Assertion Ghost}
    {alsoRaises : Failure → Assertion Ghost}
    (performs : Performs rules before program returns raises)
    (implies : ∀ value pending desk, returns value pending desk → weaker value pending desk)
    (impliesRaised : ∀ failure pending desk, raises failure pending desk →
      alsoRaises failure pending desk) :
    Performs rules before program weaker alsoRaises := by
  intro pending desk holds
  refine Solo.mono (performs pending desk holds) ?_
  rintro ⟨result, waiting⟩ after ended
  cases result with
  | ok value => exact implies value waiting after ended
  | error failure => exact impliesRaised failure waiting after ended

theorem bind
    {program : Program Value}
    {rest : Value → Program Result}
    {middle : Value → Assertion Ghost}
    {ending : Result → Assertion Ghost}
    (first : Performs rules before program middle raises)
    (second : ∀ value, Performs rules (middle value) (rest value) ending raises) :
    Performs rules before (program >>= rest) ending raises := by
  intro pending desk holds
  refine Solo.andThen (Solo.mono (first pending desk holds) ?_)
  rintro ⟨result, waiting⟩ after ended
  cases result with
  | ok value => exact second value waiting after ended
  | error failure => exact ended

/-- `try`: what is raised is a value. -/
theorem attempt
    {program : Program Value}
    {caught : Except Failure Value → Assertion Ghost}
    (performs : Performs rules before program (fun value => caught (.ok value))
      fun failure => caught (.error failure)) :
    Performs rules before program.attempt caught raises := by
  intro pending desk holds
  refine Solo.andThen (Solo.mono (performs pending desk holds) ?_)
  rintro ⟨result, waiting⟩ after ended
  cases result with
  | ok value => exact ended
  | error failure => exact ended

theorem ofExcept
    {result : Except Failure Value}
    (returned : ∀ value, result = .ok value → ∀ pending desk, before pending desk →
      returns value pending desk)
    (raised : ∀ failure, result = .error failure → ∀ pending desk, before pending desk →
      raises failure pending desk) :
    Performs rules before (Program.ofExcept result) returns raises := by
  cases result with
  | ok value => exact returned value rfl
  | error failure => exact raised failure rfl

theorem required
    {value : Option Value}
    (returned : ∀ present, value = some present → ∀ pending desk, before pending desk →
      returns present pending desk)
    (raised : value = none → ∀ failure pending desk, before pending desk →
      raises failure pending desk) :
    Performs rules before (Native.required value) returns raises := by
  cases value with
  | some present => exact returned present rfl
  | none => exact raised rfl _

theorem ite
    {condition : Prop}
    [Decidable condition]
    {yes no : Program Value}
    (whenTrue : condition → Performs rules before yes returns raises)
    (whenFalse : ¬condition → Performs rules before no returns raises) :
    Performs rules before (if condition then yes else no) returns raises := by
  split
  · next holds => exact whenTrue holds
  · next fails => exact whenFalse fails

/-- An interaction. -/
theorem ask
    {signal : Signal}
    {returns : signal.Reply → Assertion Ghost}
    (answered : ∀ pending desk, before pending desk → ∀ reply,
      rules.hears desk signal reply →
      rules.kept (rules.note desk signal reply) desk.store ∧
        returns reply pending { desk with ghost := rules.note desk signal reply }) :
    Performs rules before (Program.ask signal) returns raises :=
  answered

theorem stage
    {change : Change}
    {returns : Unit → Assertion Ghost}
    (staged : ∀ pending desk, before pending desk →
      returns () (pending ++ [change]) desk) :
    Performs rules before (Program.stage change) returns raises :=
  staged

/-- A statement. -/
theorem execute
    {changes : Database → List Change}
    {read : Database → Value}
    (lost : ∀ failure pending desk, before pending desk → rules.Losable desk →
      raises failure pending desk.abort)
    (ran : ∀ pending desk view after, before pending desk → desk.view = some view →
      applyAll Change.apply view (changes view) = some after →
      returns (read view) pending { desk with view := some after }) :
    Performs rules before (Program.execute changes read) returns raises := by
  intro pending desk holds
  refine ⟨fun calm => lost _ pending desk holds (Rules.losable calm), ?_⟩
  intro view seen
  refine ⟨fun calm _ => lost _ pending desk holds fun _ => calm, ?_⟩
  intro after applied
  exact ran pending desk view after holds seen applied

/-- A query. -/
theorem query
    {read : Database → Value}
    (lost : ∀ failure pending desk, before pending desk → rules.Losable desk →
      raises failure pending desk.abort)
    (ran : ∀ pending desk view, before pending desk → desk.view = some view →
      returns (read view) pending desk) :
    Performs rules before (Program.query read) returns raises := by
  refine execute lost ?_
  intro pending desk view after holds seen applied
  cases applied
  have same : ({ desk with view := some view } : Desk Database Ghost) = desk := by
    rw [← seen]
  rw [same]
  exact ran pending desk view holds seen

/-- A flush. -/
theorem flush
    {returns : Unit → Assertion Ghost}
    (lost : ∀ failure pending desk, before pending desk → rules.Losable desk →
      raises failure pending desk.abort)
    (ran : ∀ pending desk view after, before pending desk → desk.view = some view →
      applyAll Change.apply view (unitOfWork pending) = some after →
      returns () [] { desk with view := some after })
    (idle : ∀ desk, before [] desk → returns () [] desk) :
    Performs rules before Program.flush returns raises := by
  intro pending desk holds
  cases pending with
  | nil => exact idle desk holds
  | cons first rest =>
      refine ⟨fun calm => lost _ _ desk holds (Rules.losable calm), ?_⟩
      intro view seen
      refine ⟨fun calm _ => lost _ _ desk holds fun _ => calm, ?_⟩
      intro after applied
      exact ran _ desk view after holds seen applied

/-- The end of a transaction. -/
theorem commitTransaction
    {returns : Unit → Assertion Ghost}
    (lost : ∀ failure pending desk, before pending desk → rules.Losable desk →
      raises failure pending desk.abort)
    (committed : ∀ pending desk view, before pending desk → desk.view = some view →
      rules.kept (rules.settle desk.ghost) view ∧
        returns () pending ⟨view, some view, rules.settle desk.ghost⟩ ∧
        ∀ failure, raises failure pending ⟨view, none, rules.settle desk.ghost⟩) :
    Performs rules before Program.commitTransaction returns raises := by
  intro pending desk holds
  refine ⟨fun calm => lost _ pending desk holds (Rules.losable calm), ?_⟩
  intro view seen
  obtain ⟨kept, reported, unreported⟩ := committed pending desk view holds seen
  exact ⟨kept, reported, unreported _⟩

theorem rollback
    {returns : Unit → Assertion Ghost}
    (back : ∀ pending desk, before pending desk → rules.calm desk.ghost →
      returns () [] { desk with view := some desk.store }) :
    Performs rules before Program.rollback returns raises :=
  back

/-- `finally`. -/
theorem ensuring
    {program : Program Value}
    {cleanup : Program Unit}
    {caught : Except Failure Value → Assertion Ghost}
    {finished : Except Failure Value → Assertion Ghost}
    (body : Performs rules before program (fun value => caught (.ok value))
      fun failure => caught (.error failure))
    (cleaned : ∀ result, Performs rules (caught result) cleanup
      (fun _ => finished result) raises)
    (returned : ∀ value pending desk, finished (.ok value) pending desk →
      returns value pending desk)
    (raised : ∀ failure pending desk, finished (.error failure) pending desk →
      raises failure pending desk) :
    Performs rules before (program.ensuring cleanup) returns raises := by
  refine bind (attempt body) fun result => ?_
  refine bind (cleaned result) fun _ => ofExcept ?_ ?_
  · rintro value rfl
    exact returned value
  · rintro failure rfl
    exact raised failure

end Performs
end Native
end MailerAgent
