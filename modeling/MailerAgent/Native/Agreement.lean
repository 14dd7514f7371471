import MailerAgent.Foundation.Agreement
import MailerAgent.Native.Confinement
import MailerAgent.Native.Reasoning

/-!
# Native programs that honour an agreement

The rules for programs over a session, one for each way to build them. A program that only
stays within bounds needs no rule of its own: it keeps whatever is stable.
-/

namespace MailerAgent
namespace Native

open Concurrent

/-- A condition on what waits for a flush and on what is known. -/
abbrev Situation := List Change → Knowing → Prop

/-- A condition on the end of a program. -/
abbrev Ending (Value : Type) := Except Failure Value → Situation

/-- From a situation, every run of a program honours the agreement and ends as said. -/
def Abides
    (agreement : Agreement Database Change Signal Signal.Reply Observed)
    {Value : Type}
    (before : Situation)
    (program : Program Value)
    (after : Ending Value) : Prop :=
  ∀ pending known, before pending known →
    Honours agreement (program pending) (fun result reached => after result.1 result.2 reached)
      known

/-- The end of a program whose exception is caught. -/
def attempted
    {Value : Type}
    (ends : Ending Value) : Ending (Except Failure Value)
  | .ok result => ends result
  | .error _ => fun _ _ => False

namespace Abides

variable {agreement : Agreement Database Change Signal Signal.Reply Observed}
variable {Value Result : Type} {before : Situation} {after : Ending Value}
variable {program : Program Value} {rest : Value → Program Result}

theorem weaken
    {weaker : Ending Value}
    (abides : Abides agreement before program after)
    (implies : ∀ result pending known, after result pending known →
      weaker result pending known) :
    Abides agreement before program weaker :=
  fun pending known holds =>
    (abides pending known holds).mono fun result reached => implies result.1 result.2 reached

theorem strengthen
    {stronger : Situation}
    (abides : Abides agreement before program after)
    (implies : ∀ pending known, stronger pending known → before pending known) :
    Abides agreement stronger program after :=
  fun pending known holds => abides pending known (implies pending known holds)

theorem pure
    {value : Value}
    (ends : ∀ pending known, before pending known → after (.ok value) pending known) :
    Abides agreement before (Pure.pure value : Program Value) after :=
  ends

theorem raise
    {failure : Failure}
    (ends : ∀ pending known, before pending known → after (.error failure) pending known) :
    Abides agreement before (Program.raise failure : Program Value) after :=
  ends

theorem ofExcept
    {result : Except Failure Value}
    (ends : ∀ pending known, before pending known → after result pending known) :
    Abides agreement before (Program.ofExcept result) after := by
  cases result with
  | ok value => exact ends
  | error failure => exact ends

theorem bind
    {middle : Ending Value}
    {after : Ending Result}
    (first : Abides agreement before program middle)
    (second : ∀ value, Abides agreement (middle (.ok value)) (rest value) after)
    (fails : ∀ failure pending known, middle (.error failure) pending known →
      after (.error failure) pending known) :
    Abides agreement before (program >>= rest) after := by
  intro pending known holds
  refine honours_andThen.mpr ((first pending known holds).mono ?_)
  rintro ⟨result, later⟩ reached ends
  cases result with
  | ok value => exact second value later reached ends
  | error failure => exact fails failure later reached ends

theorem attempt (abides : Abides agreement before program after) :
    Abides agreement before program.attempt (attempted after) :=
  fun pending known holds => honours_andThen.mpr (abides pending known holds)

theorem ite
    {condition : Prop}
    [Decidable condition]
    {first second : Program Value}
    (taken : condition → Abides agreement before first after)
    (missed : ¬condition → Abides agreement before second after) :
    Abides agreement before (if condition then first else second) after := by
  split
  · next holds => exact taken holds
  · next fails => exact missed fails

theorem ask
    {signal : Signal}
    {after : Ending signal.Reply}
    (answered : ∀ pending known store reply, before pending known →
      agreement.rely known.ghost known.writes known.base store →
      after (.ok reply) pending
        { known with base := store, ghost := agreement.note known.ghost store signal reply }) :
    Abides agreement before (Program.ask signal) after :=
  fun pending known holds store relied reply => answered pending known store reply holds relied

theorem execute
    {changes : Database → List Change}
    {read : Database → Value}
    (failed : ∀ failure pending known store, before pending known →
      agreement.rely known.ghost known.writes known.base store →
      after (.error failure) pending (known.abort store))
    (ran : ∀ pending known store view, before pending known →
      agreement.rely known.ghost known.writes known.base store →
      applyAll agreement.apply store known.writes = some view →
      after (.ok (read view)) pending (known.extend store (changes view))) :
    Abides agreement before (Program.execute changes read) after := by
  intro pending known holds store relied
  refine ⟨failed _ pending known store holds relied, fun view seen => ?_⟩
  refine ⟨failed _ pending known store holds relied, ?_⟩
  rintro _ ⟨⟩
  exact ran pending known store view holds relied seen

/-- A statement that writes nothing. -/
theorem query
    {read : Database → Value}
    (failed : ∀ failure pending known store, before pending known →
      agreement.rely known.ghost known.writes known.base store →
      after (.error failure) pending (known.abort store))
    (ran : ∀ pending known store view, before pending known →
      agreement.rely known.ghost known.writes known.base store →
      applyAll agreement.apply store known.writes = some view →
      after (.ok (read view)) pending { known with base := store }) :
    Abides agreement before (Program.query read) after := by
  refine execute failed ?_
  intro pending known store view holds relied seen
  simp only [Knowledge.extend, List.append_nil]
  exact ran pending known store view holds relied seen

/-- Without changes there is no statement. -/
theorem flush
    {after : Ending Unit}
    (idle : ∀ known, before [] known → after (.ok ()) [] known)
    (failed : ∀ failure pending known store, before pending known →
      agreement.rely known.ghost known.writes known.base store →
      after (.error failure) pending (known.abort store))
    (ran : ∀ pending known store, before pending known →
      agreement.rely known.ghost known.writes known.base store →
      after (.ok ()) [] (known.extend store (unitOfWork pending))) :
    Abides agreement before Program.flush after := by
  intro pending known holds
  cases pending with
  | nil => exact idle known holds
  | cons change others =>
      intro store relied
      refine ⟨failed _ _ known store holds relied, fun view _ => ?_⟩
      refine ⟨failed _ _ known store holds relied, ?_⟩
      rintro _ ⟨⟩
      exact ran _ known store holds relied

theorem commitTransaction
    {after : Ending Unit}
    (failed : ∀ pending known store, before pending known →
      agreement.rely known.ghost known.writes known.base store →
      after (.error .database) pending (known.ended store true))
    (applied : ∀ pending known store result, before pending known →
      agreement.rely known.ghost known.writes known.base store →
      applyAll agreement.apply store known.writes = some result →
      agreement.guarantee store result ∧
        (agreement.rely known.ghost [] result result →
          after (.ok ()) pending (known.ended result false) ∧
          after (.error .database) pending (known.ended result true))) :
    Abides agreement before Program.commitTransaction after := by
  intro pending known holds store relied
  refine ⟨failed pending known store holds relied, fun result seen => ?_⟩
  obtain ⟨guaranteed, ends⟩ := applied pending known store result holds relied seen
  refine ⟨guaranteed, fun valid => ?_⟩
  obtain ⟨reported, unreported⟩ := ends valid
  exact Bool.rec unreported reported

theorem rollback
    {after : Ending Unit}
    (ended : ∀ pending known store, before pending known →
      agreement.rely known.ghost known.writes known.base store →
      after (.ok ()) [] (known.ended store false)) :
    Abides agreement before Program.rollback after :=
  fun pending known holds store relied => ended pending known store holds relied

/-- A session ends without a transaction, however its body ended. -/
theorem session
    {middle : Ending Value}
    (body : Abides agreement before program middle)
    (ended : ∀ result pending known store, middle result pending known →
      agreement.rely known.ghost known.writes known.base store →
      after result [] (known.ended store false)) :
    Abides agreement before (Program.session program) after := by
  refine bind body.attempt (fun result => ?_) fun _ _ _ impossible => impossible.elim
  have rolled : Abides agreement (middle result) Program.rollback
      (fun outcome pending known => outcome = .ok () ∧ after result pending known) :=
    rollback fun pending known store ends relied =>
      ⟨rfl, ended result pending known store ends relied⟩
  refine bind rolled (fun _ => ofExcept fun _ _ ends => ends.2) ?_
  rintro _ _ _ ⟨impossible, -⟩
  cases impossible

/-- A program that stays within bounds keeps what is stable. -/
theorem of_confined
    {bounds : Bounds Change Signal}
    {holds : Knowing → Prop}
    {ensures : Value → Prop}
    (stable : agreement.Stable bounds holds)
    (still : ¬bounds.transacts)
    (confined : program.Confined bounds ensures) :
    Abides agreement
      (fun pending known => (∀ change ∈ pending, bounds.writes change) ∧ holds known)
      program
      (fun result pending known => (∀ change ∈ pending, bounds.writes change) ∧
        holds known ∧ ∀ value, result = .ok value → ensures value) := by
  rintro pending known ⟨within, initially⟩
  refine (Honours.of_confined stable still (confined pending within) initially).mono ?_
  rintro ⟨result, later⟩ reached ⟨⟨kept, ends⟩, ending⟩
  exact ⟨kept, ending, ends⟩

end Abides

end Native
end MailerAgent
