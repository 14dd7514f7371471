import MailerAgent.Foundation.Protocol
import MailerAgent.Native.Confinement

/-!
# Native programs that follow a protocol

The rules for programs over a session, one for each way to build them, and one for all that
stay within bounds.
-/

namespace MailerAgent
namespace Native

open Concurrent

variable {Phase Value Result : Type}

/-- From a condition on what waits for a flush and on the phase, every run of a program
follows the protocol and ends as said. -/
def Adheres
    (protocol : Protocol Change Signal Signal.Reply Phase)
    (before : List Change → Phase → Prop)
    (program : Program Value)
    (after : Except Failure Value → List Change → Phase → Prop) : Prop :=
  ∀ pending phase, before pending phase →
    (program pending).Follows protocol (fun result reached => after result.1 result.2 reached)
      phase

namespace Adheres

variable {protocol : Protocol Change Signal Signal.Reply Phase}
variable {before : List Change → Phase → Prop} {program : Program Value}
variable {rest : Value → Program Result}
variable {after : Except Failure Value → List Change → Phase → Prop}

theorem weaken
    {weaker : Except Failure Value → List Change → Phase → Prop}
    (adheres : Adheres protocol before program after)
    (implies : ∀ result pending phase, after result pending phase →
      weaker result pending phase) :
    Adheres protocol before program weaker :=
  fun pending phase holds =>
    (adheres pending phase holds).mono fun result reached => implies result.1 result.2 reached

theorem strengthen
    {stronger : List Change → Phase → Prop}
    (adheres : Adheres protocol before program after)
    (implies : ∀ pending phase, stronger pending phase → before pending phase) :
    Adheres protocol stronger program after :=
  fun pending phase holds => adheres pending phase (implies pending phase holds)

theorem pure
    {value : Value}
    (ends : ∀ pending phase, before pending phase → after (.ok value) pending phase) :
    Adheres protocol before (Pure.pure value : Program Value) after :=
  ends

theorem raise
    {failure : Failure}
    (ends : ∀ pending phase, before pending phase → after (.error failure) pending phase) :
    Adheres protocol before (Program.raise failure : Program Value) after :=
  ends

theorem ofExcept
    {result : Except Failure Value}
    (ends : ∀ pending phase, before pending phase → after result pending phase) :
    Adheres protocol before (Program.ofExcept result) after := by
  cases result with
  | ok value => exact ends
  | error failure => exact ends

theorem bind
    {middle : Except Failure Value → List Change → Phase → Prop}
    {after : Except Failure Result → List Change → Phase → Prop}
    (first : Adheres protocol before program middle)
    (second : ∀ value, Adheres protocol (middle (.ok value)) (rest value) after)
    (fails : ∀ failure pending phase, middle (.error failure) pending phase →
      after (.error failure) pending phase) :
    Adheres protocol before (program >>= rest) after := by
  intro pending phase holds
  refine Process.follows_andThen.mpr ((first pending phase holds).mono ?_)
  rintro ⟨result, later⟩ reached ends
  cases result with
  | ok value => exact second value later reached ends
  | error failure => exact fails failure later reached ends

/-- `try`: the exception is a value. -/
theorem attempt
    (after : Except Failure (Except Failure Value) → List Change → Phase → Prop)
    (adheres : Adheres protocol before program fun result => after (.ok result)) :
    Adheres protocol before program.attempt after :=
  fun pending phase holds => Process.follows_andThen.mpr (adheres pending phase holds)

theorem ite
    {condition : Prop}
    [Decidable condition]
    {first second : Program Value}
    (taken : condition → Adheres protocol before first after)
    (missed : ¬condition → Adheres protocol before second after) :
    Adheres protocol before (if condition then first else second) after := by
  split
  · next holds => exact taken holds
  · next fails => exact missed fails

theorem ask
    {signal : Signal}
    {after : Except Failure signal.Reply → List Change → Phase → Prop}
    (allows : ∀ pending phase, before pending phase → protocol.allows phase signal)
    (answered : ∀ pending phase reply, before pending phase →
      after (.ok reply) pending (protocol.asked phase signal reply)) :
    Adheres protocol before (Program.ask signal) after :=
  fun pending phase holds =>
    ⟨allows pending phase holds, fun reply => answered pending phase reply holds⟩

theorem execute
    {changes : Database → List Change}
    {read : Database → Value}
    (failed : ∀ failure pending phase, before pending phase →
      after (.error failure) pending (protocol.lost phase))
    (ran : ∀ pending phase view, before pending phase → protocol.usable phase →
      after (.ok (read view)) pending (protocol.wrote phase (changes view))) :
    Adheres protocol before (Program.execute changes read) after := by
  intro pending phase holds
  refine ⟨⟨failed _ pending phase holds, failed _ pending phase holds⟩, ?_⟩
  rintro usable view _ ⟨⟩
  exact ran pending phase view holds usable

theorem commitTransaction
    {after : Except Failure Unit → List Change → Phase → Prop}
    (ended : ∀ result reported pending phase, before pending phase →
      after result pending (protocol.ended phase reported)) :
    Adheres protocol before Program.commitTransaction after :=
  fun pending phase holds reported => ended _ reported pending phase holds

/-- A session ends with a rollback, however its body ended. -/
theorem session
    {middle : Except Failure Value → List Change → Phase → Prop}
    (body : Adheres protocol before program middle)
    (released : ∀ result pending phase, middle result pending phase →
      after result [] (protocol.released phase)) :
    Adheres protocol before (Program.session program) after := by
  have caught : Adheres protocol before program.attempt fun caught pending phase =>
      ∃ result, caught = .ok result ∧ middle result pending phase :=
    attempt _ (body.weaken fun result _ _ ends => ⟨result, rfl, ends⟩)
  refine caught.bind (fun result => ?_) ?_
  · have releases : Adheres protocol (fun pending phase => ∃ same,
        (Except.ok result : Except Failure (Except Failure Value)) = .ok same ∧
          middle same pending phase)
        Program.rollback fun outcome pending phase =>
          outcome = .ok () ∧ after result pending phase := by
      rintro pending phase ⟨same, equal, ends⟩
      obtain rfl := Except.ok.inj equal
      exact ⟨rfl, released result pending phase ends⟩
    refine releases.bind (fun _ => ofExcept fun _ _ ends => ends.2) ?_
    rintro _ _ _ ⟨impossible, -⟩
    cases impossible
  · rintro _ _ _ ⟨_, impossible, -⟩
    cases impossible

/-- A program that stays within bounds stays in stable phases. -/
theorem of_confined
    {bounds : Bounds Change Signal}
    {holds : Phase → Prop}
    {ensures : Value → Prop}
    (stable : protocol.Stable bounds holds)
    (still : ¬bounds.transacts)
    (confined : program.Confined bounds ensures) :
    Adheres protocol
      (fun pending phase => (∀ change ∈ pending, bounds.writes change) ∧ holds phase)
      program
      (fun result pending phase => (∀ change ∈ pending, bounds.writes change) ∧
        holds phase ∧ ∀ value, result = .ok value → ensures value) := by
  rintro pending phase ⟨within, initially⟩
  refine (Process.Follows.of_confined stable still (confined pending within) initially).mono ?_
  rintro ⟨result, later⟩ reached ⟨⟨kept, ends⟩, ending⟩
  exact ⟨kept, ending, ends⟩

end Adheres

end Native
end MailerAgent
