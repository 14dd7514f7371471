import MailerAgent.Native.Contract

/-!
# Reasoning about native programs

`Keeps` is the judgement about programs: from a steady session in which a fact
holds, every run keeps the contract, ends in a steady session in which the fact
still holds, and a normal return establishes more. Facts only get easier as the
database grows and as the transaction adds writes, so they survive what other
threads do between two statements.
-/

namespace MailerAgent
namespace Native

open Concurrent Relational Mail Program

/-- What a program knows. -/
abbrev Knowing := Knowledge Database Change Observed

/-- What happens to knowledge inside a transaction. -/
structure Grows (before after : Knowing) : Prop where
  later : Later before.base after.base
  writes : before.writes <+: after.writes
  ghost : after.ghost = before.ghost

/-- A condition that survives inside a transaction. -/
structure Fact where
  holds : Knowing → Prop
  grows : ∀ {before after}, Grows before after → holds before → holds after

namespace Fact

/-- Nothing in particular. -/
def top : Fact := ⟨fun _ => True, fun _ _ => trivial⟩

/-- Both conditions. -/
def and (first second : Fact) : Fact where
  holds known := first.holds known ∧ second.holds known
  grows step both := ⟨first.grows step both.1, second.grows step both.2⟩

/-- A condition on the database alone. -/
def stored
    (condition : Database → Prop)
    (kept : ∀ {before after : Database}, before.Extends after →
      condition before → condition after) : Fact where
  holds known := condition known.base
  grows step := kept step.later.extended

/-- A condition on nothing. -/
def always (condition : Prop) : Fact := stored (fun _ => condition) fun _ => id

/-- A condition that does not depend on the transaction. -/
def Lasting (fact : Fact) : Prop :=
  ∀ before after : Knowing, Later before.base after.base → after.ghost = before.ghost →
    fact.holds before → fact.holds after

/-- A condition that does not depend on when the current operation began. -/
def Timeless (fact : Fact) : Prop :=
  ∀ (known : Knowing) (since : Database), fact.holds known →
    fact.holds { known with ghost := { known.ghost with since := since } }

theorem Lasting.and
    {first second : Fact}
    (left : first.Lasting)
    (right : second.Lasting) :
    (first.and second).Lasting :=
  fun before after later ghost both =>
    ⟨left before after later ghost both.1, right before after later ghost both.2⟩

theorem Timeless.and
    {first second : Fact}
    (left : first.Timeless)
    (right : second.Timeless) :
    (first.and second).Timeless :=
  fun known since both => ⟨left known since both.1, right known since both.2⟩

theorem lasting_top : top.Lasting := fun _ _ _ _ _ => trivial

/-- A condition that survives whole operations. -/
structure Settled (fact : Fact) : Prop where
  lasting : fact.Lasting
  timeless : fact.Timeless

theorem Settled.and
    {first second : Fact}
    (left : first.Settled)
    (right : second.Settled) :
    (first.and second).Settled :=
  ⟨left.lasting.and right.lasting, left.timeless.and right.timeless⟩

theorem settled_top : top.Settled := ⟨lasting_top, fun _ _ _ => trivial⟩

/-- A condition on the database alone. -/
theorem settled_of_base
    {fact : Fact}
    (base : ∀ first second : Knowing, second.base = first.base → fact.holds first →
      fact.holds second) :
    fact.Settled where
  lasting before after later _ holds :=
    base { before with base := after.base } after rfl
      (fact.grows ⟨later, List.prefix_rfl, rfl⟩ holds)
  timeless known _ := base known _ rfl

theorem settled_always (condition : Prop) : (always condition).Settled :=
  settled_of_base fun _ _ _ => id

end Fact

/-! ## Sessions -/

/-- A session between its statements. The changes that wait are permitted; a
strict one has made only ordinary changes in this transaction. -/
structure Steady
    (strict : Bool)
    (pending : List Change)
    (known : Knowing) : Prop where
  people : known.aborted = false → strict = true →
    ∀ change ∈ known.writes ++ pending, change.ordinary
  permitted : known.aborted = false → ∀ change ∈ pending,
    Permitted known.base (known.writes ++ pending) change
  current : Later known.base known.base
  since : known.ghost.since.Extends known.base

/-- A run of a program from what is known, with a condition on its end. -/
def Runs
    (program : Program Value)
    (ensures : Except Failure Value → List Change → Knowing → Prop)
    (pending : List Change)
    (known : Knowing) : Prop :=
  Safe contract (program pending) (fun result after => ensures result.1 result.2 after) known

/-- The judgement about programs. -/
def Keeps
    (strict : Bool)
    (fact : Fact)
    (program : Program Value)
    (ensures : Value → Fact) : Prop :=
  ∀ pending known, Steady strict pending known → fact.holds known →
    Runs program
      (fun result pending after => Steady strict pending after ∧ fact.holds after ∧
        ∀ value, result = .ok value → (ensures value).holds after)
      pending known

section Structure

variable {Value Result : Type} {strict : Bool} {fact : Fact}

theorem Runs.mono
    {program : Program Value}
    {ensures weaker : Except Failure Value → List Change → Knowing → Prop}
    {pending : List Change}
    {known : Knowing}
    (runs : Runs program ensures pending known)
    (implies : ∀ result pending known, ensures result pending known →
      weaker result pending known) :
    Runs program weaker pending known :=
  Safe.mono runs fun result after => implies result.1 result.2 after

theorem runs_bind
    {program : Program Value}
    {rest : Value → Program Result}
    {ensures : Except Failure Result → List Change → Knowing → Prop}
    {pending : List Change}
    {known : Knowing} :
    Runs (program >>= rest) ensures pending known ↔
      Runs program
        (fun result pending after =>
          match result with
          | .ok value => Runs (rest value) ensures pending after
          | .error failure => ensures (.error failure) pending after)
        pending known := by
  refine safe_andThen.trans ?_
  constructor
  · intro safe
    refine Safe.mono safe ?_
    rintro ⟨result, after⟩ _ continues
    cases result with
    | ok value => exact continues
    | error failure => exact continues
  · intro safe
    refine Safe.mono safe ?_
    rintro ⟨result, after⟩ _ continues
    cases result with
    | ok value => exact continues
    | error failure => exact continues

theorem keeps_pure
    {value : Value}
    {ensures : Value → Fact}
    (established : ∀ known, fact.holds known → (ensures value).holds known) :
    Keeps strict fact (pure value) ensures := by
  intro pending known steady holds
  refine ⟨steady, holds, ?_⟩
  rintro _ ⟨⟩
  exact established known holds

theorem keeps_raise
    {failure : Failure}
    {ensures : Value → Fact} :
    Keeps strict fact (raise failure : Program Value) ensures := by
  intro pending known steady holds
  exact ⟨steady, holds, nofun⟩

/-- A weaker conclusion. -/
theorem Keeps.weaken
    {program : Program Value}
    {ensures weaker : Value → Fact}
    (keeps : Keeps strict fact program ensures)
    (implies : ∀ value known, fact.holds known → (ensures value).holds known →
      (weaker value).holds known) :
    Keeps strict fact program weaker := by
  intro pending known steady holds
  refine (keeps pending known steady holds).mono ?_
  rintro result pending after ⟨steady, holds, established⟩
  exact ⟨steady, holds, fun value ended =>
    implies value after holds (established value ended)⟩

/-- Sequential composition. What the first program establishes is available to
the second one. -/
theorem Keeps.bind
    {program : Program Value}
    {rest : Value → Program Result}
    {middle : Value → Fact}
    {ensures : Result → Fact}
    (first : Keeps strict fact program middle)
    (second : ∀ value, Keeps strict (fact.and (middle value)) (rest value) ensures) :
    Keeps strict fact (program >>= rest) ensures := by
  intro pending known steady holds
  refine runs_bind.mpr ((first pending known steady holds).mono ?_)
  rintro result pending after ⟨steady, holds, established⟩
  cases result with
  | error failure => exact ⟨steady, holds, nofun⟩
  | ok value =>
      refine (second value pending after steady ⟨holds, established value rfl⟩).mono ?_
      rintro result pending after ⟨steady, holds, ended⟩
      exact ⟨steady, holds.1, ended⟩

/-- Sequential composition after a program that says something about its value. -/
theorem Keeps.bindValue
    {program : Program Value}
    {rest : Value → Program Result}
    {condition : Value → Prop}
    {ensures : Result → Fact}
    (first : Keeps strict fact program fun value => .always (condition value))
    (second : ∀ value, condition value → Keeps strict fact (rest value) ensures) :
    Keeps strict fact (program >>= rest) ensures := by
  intro pending known steady holds
  refine runs_bind.mpr ((first pending known steady holds).mono ?_)
  rintro result pending after ⟨steady, holds, established⟩
  cases result with
  | error failure => exact ⟨steady, holds, nofun⟩
  | ok value => exact second value (established value rfl) pending after steady holds

/-- Sequential composition without new knowledge. -/
theorem Keeps.andThen
    {program : Program Value}
    {rest : Value → Program Result}
    {ensures : Result → Fact}
    (first : Keeps strict fact program fun _ => .top)
    (second : ∀ value, Keeps strict fact (rest value) ensures) :
    Keeps strict fact (program >>= rest) ensures := by
  intro pending known steady holds
  refine runs_bind.mpr ((first pending known steady holds).mono ?_)
  rintro result pending after ⟨steady, holds, -⟩
  cases result with
  | error failure => exact ⟨steady, holds, nofun⟩
  | ok value => exact second value pending after steady holds

theorem Keeps.ite
    {condition : Prop}
    [Decidable condition]
    {first second : Program Value}
    {ensures : Value → Fact}
    (positive : condition → Keeps strict fact first ensures)
    (negative : ¬condition → Keeps strict fact second ensures) :
    Keeps strict fact (if condition then first else second) ensures := by
  by_cases holds : condition
  · rw [if_pos holds]
    exact positive holds
  · rw [if_neg holds]
    exact negative holds

theorem runs_attempt
    {program : Program Value}
    {ensures : Except Failure (Except Failure Value) → List Change → Knowing → Prop}
    {pending : List Change}
    {known : Knowing} :
    Runs program.attempt ensures pending known ↔
      Runs program (fun result => ensures (.ok result)) pending known :=
  safe_andThen

/-- `try`. -/
theorem Keeps.attempt
    {program : Program Value}
    {ensures : Value → Fact}
    (keeps : Keeps strict fact program ensures) :
    Keeps strict fact program.attempt fun
      | .ok value => ensures value
      | .error _ => .top := by
  intro pending known steady holds
  refine runs_attempt.mpr ((keeps pending known steady holds).mono ?_)
  rintro result pending after ⟨steady, holds, established⟩
  refine ⟨steady, holds, ?_⟩
  rintro _ ⟨⟩
  cases result with
  | ok value => exact established value rfl
  | error failure => trivial

theorem keeps_ofExcept
    {result : Except Failure Value}
    {ensures : Value → Fact}
    (established : ∀ value known, result = .ok value → fact.holds known →
      (ensures value).holds known) :
    Keeps strict fact (ofExcept result) ensures := by
  cases result with
  | ok value => exact keeps_pure fun known => established value known rfl
  | error failure => exact keeps_raise

/-- A computation of which nothing is known. -/
theorem keeps_computed {result : Except Failure Value} :
    Keeps strict fact (ofExcept result) fun _ => .top :=
  keeps_ofExcept fun _ _ _ _ => trivial

theorem keeps_forEach
    {items : List Value}
    {body : Value → Program Unit}
    (each : ∀ item ∈ items, Keeps strict fact (body item) fun _ => .top) :
    Keeps strict fact (forEach items body) fun _ => .top := by
  induction items with
  | nil => exact keeps_pure fun _ _ => trivial
  | cons item rest inductionHypothesis =>
      refine (each item (List.mem_cons_self)).andThen fun _ => ?_
      exact inductionHypothesis fun other member =>
        each other (List.mem_cons_of_mem item member)

end Structure

/-! ## Views -/

/-- A transaction sees the database with its own writes applied. -/
structure Sees
    (strict : Bool)
    (known : Knowing)
    (view : Database) : Prop where
  current : Later known.base known.base
  later : Later known.base view
  seen : applyAll Change.apply known.base known.writes = some view
  people : strict = true → ∀ change ∈ known.writes, change.ordinary
  since : known.ghost.since.Extends known.base

theorem Sees.sameParties
    {known : Knowing}
    {view : Database}
    (sees : Sees true known view) :
    SameParties known.base view :=
  applyAll_sameParties (sees.people rfl) sees.seen

/-! ## Statements -/

section Statements

variable {Value : Type} {strict : Bool} {fact : Fact}
variable {pending : List Change} {known : Knowing} {store : Database}

theorem Steady.abort
    (steady : Steady strict pending known)
    (later : Later known.base store) :
    Steady strict pending (known.abort store) where
  people := nofun
  permitted := nofun
  current := later.refl_right
  since := steady.since.trans later.extended

theorem Steady.extend
    {writes : List Change}
    (steady : Steady strict pending known)
    (later : Later known.base store)
    (people : strict = true → ∀ change ∈ writes, change.ordinary) :
    Steady strict pending (known.extend store writes) where
  people unaborted strictly change member := by
    rcases List.mem_append.mp member with written | waiting
    · rcases List.mem_append.mp written with old | new
      · exact steady.people unaborted strictly change (List.mem_append_left _ old)
      · exact people strictly change new
    · exact steady.people unaborted strictly change (List.mem_append_right _ waiting)
  permitted unaborted change member := by
    refine (steady.permitted unaborted change member).mono later.extended ?_
    intro entry present
    rcases List.mem_append.mp present with written | waiting
    · exact List.mem_append_left _ (List.mem_append_left _ written)
    · exact List.mem_append_right _ waiting
  current := later.refl_right
  since := steady.since.trans later.extended

theorem grows_abort (later : Later known.base store) : Grows known (known.abort store) :=
  ⟨later, List.prefix_rfl, rfl⟩

theorem grows_extend
    (writes : List Change)
    (later : Later known.base store) :
    Grows known (known.extend store writes) :=
  ⟨later, List.prefix_append _ _, rfl⟩

/-- Changes that are permitted on their own. -/
theorem permittedAll_of_each
    {base : Database}
    {earlier changes : List Change}
    (each : ∀ change ∈ changes, Permitted base earlier change) :
    contract.PermittedAll base earlier changes := by
  induction changes generalizing earlier with
  | nil => trivial
  | cons change changes inductionHypothesis =>
      refine ⟨each change List.mem_cons_self, inductionHypothesis fun other member => ?_⟩
      exact (each other (List.mem_cons_of_mem change member)).mono (.refl base)
        fun _ => List.mem_append_left _

/-- A direct statement. -/
theorem runs_execute
    {changes : Database → List Change}
    {read : Database → Value}
    {ensures : Except Failure Value → List Change → Knowing → Prop}
    (people : known.aborted = false → strict = true →
      ∀ change ∈ known.writes, change.ordinary)
    (since : known.ghost.since.Extends known.base)
    (failed : ∀ failure store, Later known.base store →
      ensures (.error failure) pending (known.abort store))
    (ran : ∀ store view, Later known.base store → known.aborted = false →
      Sees strict { known with base := store } view →
      contract.PermittedAll store known.writes (changes view) ∧
        ensures (.ok (read view)) pending (known.extend store (changes view))) :
    Runs (execute changes read) ensures pending known := by
  intro store later
  refine ⟨failed _ store later, ?_⟩
  intro unaborted view seen reached
  refine ⟨failed _ store later, ?_⟩
  rintro _ ⟨⟩
  exact ran store view later unaborted
    ⟨later.refl_right, reached, seen, people unaborted, since.trans later.extended⟩

theorem keeps_execute
    {changes : Database → List Change}
    {read : Database → Value}
    {ensures : Value → Fact}
    (permitted : ∀ known view, Sees strict known view → fact.holds known →
      ∀ change ∈ changes view, (strict = true → change.ordinary) ∧
        Permitted known.base known.writes change)
    (established : ∀ known view, Sees strict known view → fact.holds known →
      (ensures (read view)).holds (known.extend known.base (changes view))) :
    Keeps strict fact (execute changes read) ensures := by
  intro pending known steady holds
  have people : known.aborted = false → strict = true →
      ∀ change ∈ known.writes, change.ordinary :=
    fun unaborted strictly change member =>
      steady.people unaborted strictly change (List.mem_append_left _ member)
  refine runs_execute people steady.since ?_ ?_
  · intro failure store later
    exact ⟨steady.abort later, fact.grows (grows_abort later) holds, nofun⟩
  · intro store view later unaborted sees
    have current : fact.holds { known with base := store } :=
      fact.grows ⟨later, List.prefix_rfl, rfl⟩ holds
    have each := permitted _ view sees current
    refine ⟨permittedAll_of_each fun change member => (each change member).2,
      steady.extend later fun strictly change member => (each change member).1 strictly,
      fact.grows (grows_extend _ later) holds, ?_⟩
    rintro _ ⟨⟩
    exact established _ view sees current

/-- A `SELECT`: what its rows say about the database. -/
theorem keeps_query
    {read : Database → Value}
    {ensures : Value → Fact}
    (established : ∀ known view, Sees strict known view → fact.holds known →
      (ensures (read view)).holds known) :
    Keeps strict fact (query read) ensures := by
  have silent : ∀ change ∈ ([] : List Change), False := fun _ member => by cases member
  refine keeps_execute (fun _ _ _ _ change member => (silent change member).elim) ?_
  intro known view sees holds
  exact (ensures (read view)).grows (grows_extend [] sees.current)
    (established known view sees holds)

theorem runs_stage
    {Result : Type}
    {change : Change}
    {rest : Unit → Program Result}
    {ensures : Except Failure Result → List Change → Knowing → Prop} :
    Runs (stage change >>= rest) ensures pending known ↔
      Runs (rest ()) ensures (pending ++ [change]) known :=
  Iff.rfl

/-- A changed object waits for the next flush. -/
theorem keeps_stage
    {change : Change}
    (permitted : ∀ known, fact.holds known → Permitted known.base known.writes change)
    (people : strict = true → change.ordinary) :
    Keeps strict fact (stage change) fun _ => .top := by
  intro pending known steady holds
  refine ⟨⟨?_, ?_, steady.current, steady.since⟩, holds, fun _ _ => trivial⟩
  · intro unaborted strictly other member
    rw [← List.append_assoc] at member
    rcases List.mem_append.mp member with old | new
    · exact steady.people unaborted strictly other old
    · rw [List.mem_singleton.mp new]
      exact people strictly
  · intro unaborted other member
    rcases List.mem_append.mp member with old | new
    · refine (steady.permitted unaborted other old).mono (.refl _) ?_
      rw [← List.append_assoc]
      exact fun _ => List.mem_append_left _
    · rw [List.mem_singleton.mp new]
      exact (permitted known holds).mono (.refl _) fun _ => List.mem_append_left _

/-! ## Flush, commit and rollback -/

/-- The statements of a flush are permitted in the order of the unit of work. -/
theorem Steady.permitted_unitOfWork
    (steady : Steady strict pending known)
    (unaborted : known.aborted = false)
    (later : Later known.base store) :
    contract.PermittedAll store known.writes (unitOfWork pending) := by
  refine Contract.PermittedAll.append ?_ ?_
  · refine permittedAll_of_each fun change member => ?_
    have entry := (List.mem_filter.mp member).2
    cases change with
    | insertSuppression row => trivial
    | _ => cases entry
  · refine permittedAll_of_each fun change member => ?_
    refine (steady.permitted unaborted change (List.mem_filter.mp member).1).mono later.extended ?_
    intro entry present
    rcases List.mem_append.mp present with written | waiting
    · exact List.mem_append_left _ written
    · exact List.mem_append_right _ (List.mem_filter.mpr ⟨waiting, rfl⟩)

theorem Steady.flushed
    (steady : Steady strict pending known)
    (later : Later known.base store) :
    Steady strict [] (known.extend store (unitOfWork pending)) where
  people unaborted strictly change member := by
    rw [List.append_nil] at member
    refine steady.people unaborted strictly change (List.mem_append.mpr ?_)
    exact (List.mem_append.mp member).imp_right mem_unitOfWork.mp
  permitted _ _ member := by cases member
  current := later.refl_right
  since := steady.since.trans later.extended

/-- A flush executes what waited, or it fails. -/
theorem runs_flush
    {ensures : Except Failure Unit → List Change → Knowing → Prop}
    (steady : Steady strict pending known)
    (failed : ∀ failure store, Later known.base store →
      ensures (.error failure) pending (known.abort store))
    (ran : ∀ store, Later known.base store →
      ensures (.ok ()) [] (known.extend store (unitOfWork pending))) :
    Runs flush ensures pending known := by
  cases pending with
  | nil =>
      have same : known.extend known.base (unitOfWork []) = known := by
        simp [Knowledge.extend, unitOfWork]
      have passed := ran known.base steady.current
      rw [same] at passed
      exact passed
  | cons change rest =>
      intro store later
      refine ⟨failed _ store later, ?_⟩
      intro unaborted view seen reached
      refine ⟨failed _ store later, ?_⟩
      rintro _ ⟨⟩
      exact ⟨steady.permitted_unitOfWork unaborted later, ran store later⟩

theorem keeps_flush : Keeps strict fact flush fun _ => .top := by
  intro pending known steady holds
  refine runs_flush steady ?_ ?_
  · intro failure store later
    exact ⟨steady.abort later, fact.grows (grows_abort later) holds, nofun⟩
  · intro store later
    exact ⟨steady.flushed later, fact.grows (grows_extend _ later) holds, fun _ _ => trivial⟩

/-- The end of a transaction leaves nothing to permit. -/
theorem Steady.ended
    {aborted : Bool}
    (steady : Steady strict pending known)
    (later : Later known.base store) :
    Steady strict [] (known.ended store aborted) where
  people _ _ _ member := by cases member
  permitted _ _ member := by cases member
  current := later.refl_right
  since := steady.since.trans later.extended

/-- A commit that is reported applied everything that was flushed or waited. One
that is not reported leaves a transaction that was lost, whether or not it took
effect. -/
theorem runs_commit
    {ensures : Except Failure Unit → List Change → Knowing → Prop}
    (steady : Steady strict pending known)
    (failed : ∀ failure waiting after, Steady strict waiting after →
      Later known.base after.base → after.ghost = known.ghost → after.aborted = true →
      ensures (.error failure) waiting after)
    (committed : ∀ store result, known.aborted = false → Later known.base store →
      Later store result →
      applyAll Change.apply store (known.writes ++ unitOfWork pending) = some result →
      ensures (.ok ()) [] (known.ended result false)) :
    Runs commit ensures pending known := by
  refine runs_bind.mpr (runs_flush steady ?_ ?_)
  · intro failure store later
    exact failed failure pending _ (steady.abort later) later rfl rfl
  · intro store later next reached
    have further := later.trans reached
    refine ⟨failed _ [] _ (steady.ended further) further rfl rfl, ?_⟩
    intro unaborted result applied bound
    have last := further.trans bound
    exact ⟨committed next result unaborted further bound applied,
      failed _ [] _ (steady.ended last) last rfl rfl⟩

theorem keeps_commit (lasting : fact.Lasting) : Keeps strict fact commit fun _ => .top := by
  intro pending known steady holds
  refine runs_commit steady ?_ ?_
  · intro failure waiting after steady later ghost _
    exact ⟨steady, lasting known after later ghost holds, nofun⟩
  · intro store result _ later bound _
    have last := later.trans bound
    exact ⟨steady.ended last, lasting known _ last rfl holds, fun _ _ => trivial⟩

theorem keeps_rollback (lasting : fact.Lasting) :
    Keeps strict fact rollback fun _ => .top := by
  intro pending known steady holds
  exact ⟨steady.ended steady.current, lasting known _ steady.current rfl holds,
    fun _ _ => trivial⟩

/-- `finally`. -/
theorem keeps_ensuring
    {program : Program Value}
    {cleanup : Program Unit}
    {ensures : Value → Fact}
    (keeps : Keeps strict fact program ensures)
    (cleaned : ∀ result : Fact, result.Lasting → Keeps strict (fact.and result) cleanup
      fun _ => .top)
    (lasting : ∀ value, (ensures value).Lasting) :
    Keeps strict fact (program.ensuring cleanup) ensures := by
  refine keeps.attempt.bind fun result => ?_
  cases result with
  | ok value =>
      refine (cleaned (ensures value) (lasting value)).andThen fun _ => ?_
      exact keeps_pure fun known holds => holds.2
  | error failure => exact (cleaned .top Fact.lasting_top).andThen fun _ => keeps_raise

/-- A session is rolled back at its end. -/
theorem keeps_session
    {program : Program Value}
    {ensures : Value → Fact}
    (keeps : Keeps strict fact program ensures)
    (lasting : fact.Lasting)
    (established : ∀ value, (ensures value).Lasting) :
    Keeps strict fact (session program) ensures :=
  keeps_ensuring keeps (fun _ kept => keeps_rollback (lasting.and kept)) established

theorem keeps_sessionScope
    {program : Program Value}
    (keeps : Keeps strict fact program fun _ => .top)
    (lasting : fact.Lasting) :
    Keeps strict fact (sessionScope program) fun _ => .top := by
  refine keeps_session ?_ lasting fun _ => Fact.lasting_top
  have committing : Keeps strict fact (do let value ← program; commit; pure value)
      fun _ => .top := by
    refine keeps.andThen fun value => ?_
    exact (keeps_commit lasting).andThen fun _ => keeps_pure fun _ _ => trivial
  refine (committing.attempt.weaken fun _ _ _ _ => trivial).andThen fun result => ?_
  cases result with
  | ok value => exact keeps_pure fun _ _ => trivial
  | error failure => exact (keeps_rollback lasting).andThen fun _ => keeps_raise

/-! ## Interactions -/

/-- A later database. -/
theorem Steady.later
    (steady : Steady strict pending known)
    (later : Later known.base store) :
    Steady strict pending { known with base := store } where
  people := steady.people
  permitted unaborted change member :=
    (steady.permitted unaborted change member).mono later.extended fun _ => id
  current := later.refl_right
  since := steady.since.trans later.extended

theorem runs_ask
    {Result : Type}
    {signal : Signal}
    {rest : signal.Reply → Program Result}
    {ensures : Except Failure Result → List Change → Knowing → Prop} :
    Runs (ask signal >>= rest) ensures pending known ↔
      ∀ store, Later known.base store → Allowed known.ghost store signal ∧
        ∀ reply, Runs (rest reply) ensures pending
          { known with base := store, ghost := observe known.ghost store signal reply } :=
  Iff.rfl

/-- An interaction that is not observed. -/
theorem keeps_ask
    {signal : Signal}
    (quiet : ∀ observed database reply, observe observed database signal reply = observed)
    (allowed : ∀ known, fact.holds known → Allowed known.ghost known.base signal) :
    Keeps strict fact (ask signal) fun _ => .top := by
  intro pending known steady holds store later
  have grown : fact.holds { known with base := store } :=
    fact.grows ⟨later, List.prefix_rfl, rfl⟩ holds
  refine ⟨allowed _ grown, fun reply => ?_⟩
  have unchanged : contract.note known.ghost store signal reply = known.ghost :=
    quiet known.ghost store reply
  rw [unchanged]
  exact ⟨steady.later later, grown, fun _ _ => trivial⟩

theorem keeps_quiet
    {signal : Signal}
    (quiet : signal.Quiet) :
    Keeps strict fact (ask signal) fun _ => .top := by
  cases signal with
  | begin | sendEmail | login | search | fetch | leftUnseen | storeSeen => exact quiet.elim
  | _ => exact keeps_ask (fun _ _ _ => rfl) fun _ _ => trivial

/-- Continue with a reply of which nothing is known. -/
theorem Keeps.askThen
    {Result : Type}
    {signal : Signal}
    {rest : signal.Reply → Program Result}
    {ensures : Result → Fact}
    (quiet : signal.Quiet)
    (continues : ∀ reply, Keeps strict fact (rest reply) ensures) :
    Keeps strict fact (ask signal >>= rest) ensures :=
  (keeps_quiet quiet).andThen continues

theorem keeps_utcnow : Keeps strict fact utcnow fun _ => .top :=
  keeps_quiet trivial

/-- The start of an operation that may send. -/
theorem keeps_begin
    {began : Fact}
    (timeless : fact.Timeless)
    (established : ∀ known, fact.holds known → known.ghost.since = known.base →
      began.holds known) :
    Keeps strict fact begin fun _ => began := by
  intro pending known steady holds store later
  have grown : fact.holds { known with base := store } :=
    fact.grows ⟨later, List.prefix_rfl, rfl⟩ holds
  refine ⟨trivial, fun _ => ?_⟩
  have noted : fact.holds
      { known with base := store, ghost := { known.ghost with since := store } } :=
    timeless _ store grown
  have moved := steady.later later
  refine ⟨⟨moved.people, moved.permitted, moved.current, .refl store⟩, noted, ?_⟩
  intro _ _
  exact established _ noted rfl

theorem keeps_sendEmail
    {settings : Settings}
    {origin : SendOrigin}
    {contactId : Nat}
    {arguments : SendEmailArguments}
    (may : ∀ known, fact.holds known →
      MaySend known.ghost known.base origin contactId arguments) :
    Keeps strict fact (sendEmail settings origin contactId arguments) fun _ => .top := by
  refine (keeps_ask (fun _ _ _ => rfl) may).andThen fun behaviour => ?_
  split
  · exact keeps_pure fun _ _ => trivial
  · exact keeps_raise

/-! ## Contacts -/

/-- A contact object under a key is the stored person. -/
def Person
    (key : Nat)
    (contact : Contact)
    (database : Database) : Prop :=
  ∃ stored, database.contacts.get key = some stored ∧ Contact.SamePerson stored contact

theorem Person.of_extends
    {key : Nat}
    {contact : Contact}
    {before after : Database}
    (extended : before.Extends after)
    (person : Person key contact before) :
    Person key contact after := by
  obtain ⟨stored, found, same⟩ := person
  obtain ⟨current, foundCurrent, kept⟩ := extended.contacts key stored found
  exact ⟨current, foundCurrent, same.1.trans kept.1.symm, same.2.trans kept.2.symm⟩

theorem Person.of_same
    {key : Nat}
    {contact other : Contact}
    {database : Database}
    (person : Person key contact database)
    (same : Contact.SamePerson contact other) :
    Person key other database := by
  obtain ⟨stored, found, before⟩ := person
  exact ⟨stored, found, same.1.trans before.1, same.2.trans before.2⟩

/-- The contacts that a strict transaction sees are stored. -/
theorem Sees.person
    {view : Database}
    {key : Nat}
    {contact : Contact}
    (sees : Sees true known view)
    (found : view.contacts.get key = some contact) :
    Person key contact known.base :=
  sees.sameParties.contacts key contact found

theorem inSession_samePerson
    (key : Nat)
    (contact : Contact) :
    Contact.SamePerson contact (inSession pending key contact) := by
  suffices kept : ∀ row, Contact.SamePerson contact row →
      Contact.SamePerson contact (inSession pending key row) from kept contact ⟨rfl, rfl⟩
  induction pending with
  | nil => exact fun _ same => same
  | cons change rest inductionHypothesis =>
      intro row same
      refine inductionHypothesis _ ?_
      cases change with
      | updateContact other patch =>
          change Contact.SamePerson contact (if other = key then patch.apply row else row)
          split <;> exact same
      | _ => exact same

/-- The fact that the loaded contact, if any, is the stored person. -/
def loadedPerson
    (key : Nat)
    (loaded : Option Contact) : Fact :=
  .stored (fun database => ∀ contact, loaded = some contact → Person key contact database)
    fun extended known contact present => (known contact present).of_extends extended

theorem loadedPerson_settled
    (key : Nat)
    (loaded : Option Contact) :
    (loadedPerson key loaded).Settled :=
  Fact.settled_of_base fun _ _ same holds contact present => same ▸ holds contact present

theorem keeps_loadContact {key : Nat} :
    Keeps true fact (loadContact key) (loadedPerson key) := by
  intro pending known steady holds
  refine keeps_query ?_ pending known steady holds
  rintro known view sees - contact present
  obtain ⟨stored, found, rfl⟩ := Option.map_eq_some_iff.mp present
  exact (sees.person found).of_same (inSession_samePerson key stored)

/-- A contact update that schedules nothing, or only a native contact. -/
theorem keeps_assign
    {key : Nat}
    {contact : Contact}
    {patch : ContactPatch}
    (native : ∀ instant, patch.nextActionAt = some (some instant) → ∀ known,
      fact.holds known → ∃ email organization,
        NativeContact known.base key email organization) :
    Keeps strict fact (assign key contact patch) fun result =>
      .always (Contact.SamePerson contact result) := by
  refine keeps_utcnow.andThen fun now => ?_
  have staged : Keeps strict fact
      (stage (.updateContact key { patch with updatedAt := some now })) fun _ => .top :=
    keeps_stage (fun known holds instant scheduled => native instant scheduled known holds)
      fun _ => trivial
  exact staged.andThen fun _ => keeps_pure fun _ _ => ⟨rfl, rfl⟩

end Statements

end Native
end MailerAgent
