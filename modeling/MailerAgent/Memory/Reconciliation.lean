import MailerAgent.Memory.Knowledge

/-!
# What the reconciliation computes

The facts and current solutions of all interpretations, read as one sequence in
chronological order, decide the reconciled knowledge: a value is current exactly when it is
in force after the sequence of statements. The open items are those of the last
interpretation that has any.
-/

namespace MailerAgent
namespace Memory

open Supersession

/-- The statement that an extracted fact makes. -/
def SemanticFact.statement (fact : SemanticFact) : Statement String :=
  { value := fact.value, replaces := fact.supersedes }

/-- The extracted facts of all interpretations, in the order of the messages. -/
def extractedFacts (ordered : List StoredMessage) : List SemanticFact :=
  (analyses ordered).flatMap fun analysis =>
    analysis.newFacts.filter fun fact => !fact.value.isEmpty

/-- The solution that an interpretation states, if any. -/
def SemanticAnalysis.statedSolution (analysis : SemanticAnalysis) : Option SemanticFact :=
  analysis.currentSolution.filter fun solution => !solution.value.isEmpty

/-- The current solutions that the interpretations state, in order. -/
def statedSolutions (ordered : List StoredMessage) : List SemanticFact :=
  (analyses ordered).filterMap SemanticAnalysis.statedSolution

/-- Knowledge that agrees with the sequences of extracted facts and of stated solutions. -/
structure Reconciles
    (facts solutions : List SemanticFact)
    (knowledge : ReconciledKnowledge) : Prop where
  retained : ∀ fact ∈ facts, ∃ known ∈ knowledge.facts, known.value = fact.value
  single : ∀ value,
    (knowledge.facts.filter fun known => known.currentlyStates value).length ≤ 1
  current : ∀ value,
    (∃ known ∈ knowledge.facts, known.status = .current ∧ known.value = value) ↔
      LastAssertion (facts.map SemanticFact.statement) value
  solution : knowledge.currentSolution = solutions.getLast?.map SemanticFact.reconciled
  history : knowledge.currentSolutionHistory =
    solutions.dropLast.map fun solution => solution.reconciled.supersede

/-! ## One extracted fact -/

variable {facts : List ReconciledFact} {raw : SemanticFact} {value named : String}

theorem currentlyStates_iff {fact : ReconciledFact} :
    fact.currentlyStates value = true ↔ fact.status = .current ∧ fact.value = value := by
  simp [ReconciledFact.currentlyStates]

@[simp] theorem currentlyStates_supersede (fact : ReconciledFact) :
    fact.supersede.currentlyStates value = false := by
  simp [ReconciledFact.currentlyStates, ReconciledFact.supersede]

@[simp] theorem currentlyStates_reconciled :
    raw.reconciled.currentlyStates value = (raw.value == value) := by
  simp [ReconciledFact.currentlyStates, SemanticFact.reconciled]

/-- Supersession takes the mark from the facts with the value that it names. -/
theorem currentlyStates_superseding (fact : ReconciledFact) :
    (if fact.currentlyStates named then fact.supersede else fact).currentlyStates value =
      (fact.currentlyStates value && value != named) := by
  by_cases stating : fact.currentlyStates named
  · have same := (currentlyStates_iff.mp stating).2
    by_cases other : fact.value = value
    · simp [stating, ← other, same]
    · have different : fact.currentlyStates value = false :=
        Bool.eq_false_iff.mpr fun current => other (currentlyStates_iff.mp current).2
      simp [stating, different]
  · by_cases other : value = named
    · simp [stating, other]
    · simp [stating, other]

/-- Facts whose values are not empty. -/
def Stated (facts : List ReconciledFact) : Prop :=
  ∀ fact ∈ facts, fact.value.isEmpty = false

/-- An empty name supersedes nothing that is stated. -/
theorem applySupersedes_some (stated : Stated facts) :
    applySupersedes (some named) facts =
      facts.map fun existing =>
        if existing.currentlyStates named then existing.supersede else existing := by
  unfold applySupersedes
  by_cases empty : named.isEmpty = true
  · simp only [empty, if_true]
    refine (List.map_id facts).symm.trans (List.map_congr_left fun fact member => ?_)
    have other : fact.currentlyStates named = false := by
      refine Bool.eq_false_iff.mpr fun stating => ?_
      have same := (currentlyStates_iff.mp stating).2
      exact Bool.false_ne_true (stated fact member ▸ same ▸ empty)
    simp [other]
  · simp only [empty, Bool.false_eq_true, if_false]

theorem values_applySupersedes
    (supersedes : Option String)
    (facts : List ReconciledFact) :
    (applySupersedes supersedes facts).map ReconciledFact.value =
      facts.map ReconciledFact.value := by
  cases supersedes with
  | none => rfl
  | some named =>
      unfold applySupersedes
      by_cases empty : named.isEmpty = true
      · simp only [empty, if_true]
      · simp only [empty, Bool.false_eq_true, if_false, List.map_map]
        refine List.map_congr_left fun fact _ => ?_
        simp only [Function.comp_apply]
        split <;> rfl

/-- How many facts currently state a value, after a supersession. -/
theorem countP_applySupersedes
    (supersedes : Option String)
    (stated : Stated facts) :
    (applySupersedes supersedes facts).countP (·.currentlyStates value) =
      if supersedes = some value then 0 else facts.countP (·.currentlyStates value) := by
  cases supersedes with
  | none => simp [applySupersedes]
  | some named =>
      rw [applySupersedes_some stated, List.countP_map]
      simp only [Function.comp_def, currentlyStates_superseding]
      by_cases same : named = value
      · simp [same]
      · have other : (value != named) = true := by simpa using Ne.symm same
        simp [same, other]

/-- How many facts currently state a value, after an extracted fact. -/
theorem countP_reconcileFact (extracted : raw.value.isEmpty = false) :
    (reconcileFact facts raw).countP (·.currentlyStates value) =
      if raw.value = value then
        max 1 ((applySupersedes raw.supersedes facts).countP (·.currentlyStates value))
      else (applySupersedes raw.supersedes facts).countP (·.currentlyStates value) := by
  simp only [reconcileFact, extracted, Bool.false_eq_true, if_false]
  by_cases known : (applySupersedes raw.supersedes facts).any (·.currentlyStates raw.value)
  · simp only [known, if_true]
    split
    · next same =>
        subst same
        have stating := List.countP_pos_iff.mpr (List.any_eq_true.mp known)
        omega
    · rfl
  · simp only [known, Bool.false_eq_true, if_false, List.countP_append, List.countP_singleton,
      currentlyStates_reconciled, beq_iff_eq]
    split
    · next same =>
        subst same
        have silent : (applySupersedes raw.supersedes facts).countP
            (·.currentlyStates raw.value) = 0 := by
          refine List.countP_eq_zero.mpr fun fact member stating => known ?_
          exact List.any_eq_true.mpr ⟨fact, member, stating⟩
        omega
    · rfl

theorem values_reconcileFact (extracted : raw.value.isEmpty = false) :
    (reconcileFact facts raw).map ReconciledFact.value = facts.map ReconciledFact.value ∨
      (reconcileFact facts raw).map ReconciledFact.value =
        facts.map ReconciledFact.value ++ [raw.value] := by
  simp only [reconcileFact, extracted, Bool.false_eq_true, if_false]
  split
  · exact .inl (values_applySupersedes raw.supersedes facts)
  · rw [List.map_append, values_applySupersedes]
    exact .inr rfl

/-! ## The sequence of extracted facts -/

/-- The facts after a sequence of extracted facts. -/
structure Recorded
    (extracted : List SemanticFact)
    (facts : List ReconciledFact) : Prop where
  stated : Stated facts
  retained : ∀ fact ∈ extracted, fact.value ∈ facts.map ReconciledFact.value
  single : ∀ value, facts.countP (·.currentlyStates value) ≤ 1
  current : ∀ value,
    0 < facts.countP (·.currentlyStates value) ↔
      value ∈ inForce (extracted.map SemanticFact.statement)

theorem Recorded.nil : Recorded [] [] where
  stated := nofun
  retained := nofun
  single _ := Nat.zero_le 1
  current _ := by simp

theorem Recorded.concat
    {extracted : List SemanticFact}
    (recorded : Recorded extracted facts)
    (nonempty : raw.value.isEmpty = false) :
    Recorded (extracted ++ [raw]) (reconcileFact facts raw) := by
  have counts := fun value => @countP_reconcileFact facts raw value nonempty
  simp only [countP_applySupersedes raw.supersedes recorded.stated] at counts
  have values := @values_reconcileFact facts raw nonempty
  have asserted : raw.value ∈ (reconcileFact facts raw).map ReconciledFact.value := by
    have positive : 0 < (reconcileFact facts raw).countP (·.currentlyStates raw.value) := by
      rw [counts raw.value, if_pos rfl]
      omega
    obtain ⟨fact, member, stating⟩ := List.countP_pos_iff.mp positive
    exact (currentlyStates_iff.mp stating).2 ▸ List.mem_map_of_mem member
  have kept : ∀ text ∈ facts.map ReconciledFact.value,
      text ∈ (reconcileFact facts raw).map ReconciledFact.value := by
    intro text member
    rcases values with same | appended
    · exact same ▸ member
    · exact appended ▸ List.mem_append_left _ member
  refine ⟨?_, ?_, ?_, ?_⟩
  · intro fact member
    have inside := List.mem_map_of_mem (f := ReconciledFact.value) member
    have origin : fact.value ∈ facts.map ReconciledFact.value ∨ fact.value = raw.value := by
      rcases values with same | appended
      · exact .inl (same ▸ inside)
      · rw [appended] at inside
        exact (List.mem_append.mp inside).imp_right List.mem_singleton.mp
    rcases origin with earlier | new
    · obtain ⟨before, known, same⟩ := List.mem_map.mp earlier
      exact same ▸ recorded.stated before known
    · exact new ▸ nonempty
  · intro fact member
    rcases List.mem_append.mp member with earlier | new
    · exact kept _ (recorded.retained fact earlier)
    · exact List.mem_singleton.mp new ▸ asserted
  · intro value
    have before := recorded.single value
    rw [counts value]
    split <;> split <;> omega
  · intro value
    rw [List.map_append, List.map_singleton, inForce_concat, Statement.mem_act,
      ← recorded.current value, counts value]
    simp only [SemanticFact.statement]
    by_cases same : raw.value = value
    · simp [same]
    · by_cases replaced : raw.supersedes = some value
      · simp [same, Ne.symm same, replaced]
      · simp [same, Ne.symm same, replaced]

/-- The loop over a sequence of facts. -/
theorem recorded_foldl
    {extracted : List SemanticFact}
    (nonempty : ∀ fact ∈ extracted, fact.value.isEmpty = false) :
    Recorded extracted (extracted.foldl reconcileFact []) := by
  induction extracted using List.reverseRecOn with
  | nil => exact Recorded.nil
  | append_singleton extracted last inductionHypothesis =>
      rw [List.foldl_append]
      have earlier := inductionHypothesis fun fact member =>
        nonempty fact (List.mem_append_left _ member)
      exact earlier.concat (nonempty last (List.mem_append_right _ List.mem_cons_self))

/-! ## The loop over the messages -/

/-- The facts without a value leave no trace. -/
theorem foldl_reconcileFact
    (newFacts : List SemanticFact)
    (facts : List ReconciledFact) :
    newFacts.foldl reconcileFact facts =
      (newFacts.filter fun fact => !fact.value.isEmpty).foldl reconcileFact facts := by
  rw [List.foldl_filter]
  congr 1
  funext known fact
  cases empty : fact.value.isEmpty with
  | true => simp [reconcileFact, empty]
  | false => simp

/-- One message, in terms of its interpretation. -/
theorem foldl_reconcileMessage
    (messages : List StoredMessage)
    (knowledge : ReconciledKnowledge) :
    (messages.foldl reconcileMessage knowledge).facts =
      ((messages.filterMap StoredMessage.semanticAnalysis).flatMap fun analysis =>
        analysis.newFacts.filter fun fact => !fact.value.isEmpty).foldl
          reconcileFact knowledge.facts := by
  induction messages generalizing knowledge with
  | nil => rfl
  | cons message messages inductionHypothesis =>
      rw [List.foldl_cons, inductionHypothesis]
      unfold reconcileMessage
      cases found : message.semanticAnalysis with
      | none => rw [List.filterMap_cons_none found]
      | some analysis =>
          rw [List.filterMap_cons_some found, List.flatMap_cons, List.foldl_append,
            ← foldl_reconcileFact]
          have untouched : (stateSolution knowledge analysis.currentSolution).facts =
              knowledge.facts := by
            unfold stateSolution
            split
            · rfl
            · split <;> rfl
          simp only [untouched]

theorem facts_reconcileKnownFacts (messages : List StoredMessage) :
    (reconcileKnownFacts messages).facts =
      (extractedFacts (classifiedInbound messages)).foldl reconcileFact [] :=
  foldl_reconcileMessage (classifiedInbound messages) {}

/-- A solution that is stated is current, and the one before it joins the history. -/
theorem stateSolution_cases
    (knowledge : ReconciledKnowledge)
    (analysis : SemanticAnalysis) :
    (analysis.statedSolution = none ∧
        stateSolution knowledge analysis.currentSolution = knowledge) ∨
      ∃ new, analysis.statedSolution = some new ∧
        stateSolution knowledge analysis.currentSolution =
          { knowledge with
            currentSolution := some new.reconciled
            currentSolutionHistory :=
              knowledge.currentSolutionHistory ++
                (knowledge.currentSolution.map ReconciledFact.supersede).toList } := by
  unfold SemanticAnalysis.statedSolution
  cases analysis.currentSolution with
  | none => exact .inl ⟨rfl, rfl⟩
  | some new =>
      cases empty : new.value.isEmpty with
      | true => exact .inl ⟨by simp [Option.filter, empty], by simp [stateSolution, empty]⟩
      | false =>
          exact .inr ⟨new, by simp [Option.filter, empty], by simp [stateSolution, empty]⟩

/-- The last solution is current and the others are history. -/
def HoldsSolutions
    (solutions : List SemanticFact)
    (knowledge : ReconciledKnowledge) : Prop :=
  knowledge.currentSolution = solutions.getLast?.map SemanticFact.reconciled ∧
    knowledge.currentSolutionHistory =
      solutions.dropLast.map fun solution => solution.reconciled.supersede

theorem HoldsSolutions.concat
    {solutions : List SemanticFact}
    {knowledge : ReconciledKnowledge}
    (new : SemanticFact)
    (holds : HoldsSolutions solutions knowledge) :
    HoldsSolutions (solutions ++ [new])
      { knowledge with
        currentSolution := some new.reconciled
        currentSolutionHistory :=
          knowledge.currentSolutionHistory ++
            (knowledge.currentSolution.map ReconciledFact.supersede).toList } := by
  obtain ⟨solution, history⟩ := holds
  refine ⟨by rw [List.getLast?_concat]; rfl, ?_⟩
  rw [List.dropLast_concat, solution, history]
  rcases List.eq_nil_or_concat solutions with rfl | ⟨earlier, last, rfl⟩
  · rfl
  · simp

theorem solutions_foldl_reconcileMessage (messages : List StoredMessage) :
    HoldsSolutions
      ((messages.filterMap StoredMessage.semanticAnalysis).filterMap
        SemanticAnalysis.statedSolution)
      (messages.foldl reconcileMessage {}) := by
  induction messages using List.reverseRecOn with
  | nil => exact ⟨rfl, rfl⟩
  | append_singleton messages last inductionHypothesis =>
      rw [List.foldl_append, List.filterMap_append, List.filterMap_append]
      simp only [List.foldl_cons, List.foldl_nil, reconcileMessage]
      cases found : last.semanticAnalysis with
      | none =>
          rw [List.filterMap_cons_none found]
          simpa using inductionHypothesis
      | some analysis =>
          rw [List.filterMap_cons_some found, List.filterMap_nil]
          dsimp only
          rcases stateSolution_cases (messages.foldl reconcileMessage {}) analysis with
            ⟨silent, same⟩ | ⟨new, stated, moved⟩
          · rw [List.filterMap_cons_none silent, List.filterMap_nil, List.append_nil, same]
            exact inductionHypothesis
          · rw [List.filterMap_cons_some stated, List.filterMap_nil, moved]
            exact inductionHypothesis.concat new

/-- The reconciled knowledge is what the sequence of statements makes of it: there is one
chronicle of the classified messages, and the knowledge agrees with the facts and solutions
in its order. -/
theorem knowledge_reconciled (messages : List StoredMessage) :
    ∃ ordered, Chronicle messages ordered ∧
      (∀ other, Chronicle messages other → other = ordered) ∧
      Reconciles (extractedFacts ordered) (statedSolutions ordered)
        (reconcileKnownFacts messages) := by
  refine ⟨classifiedInbound messages, chronicle_classifiedInbound messages,
    fun other chronicle => chronicle.eq_classifiedInbound, ?_⟩
  have recorded : Recorded (extractedFacts (classifiedInbound messages))
      (reconcileKnownFacts messages).facts := by
    rw [facts_reconcileKnownFacts]
    refine recorded_foldl fun fact member => ?_
    obtain ⟨analysis, -, inside⟩ := List.mem_flatMap.mp member
    simpa using (List.mem_filter.mp inside).2
  obtain ⟨solution, history⟩ := solutions_foldl_reconcileMessage (classifiedInbound messages)
  refine ⟨?_, ?_, ?_, solution, history⟩
  · intro fact member
    exact List.mem_map.mp (recorded.retained fact member)
  · intro value
    rw [← List.countP_eq_length_filter]
    exact recorded.single value
  · intro value
    rw [← mem_inForce_iff, ← recorded.current value, List.countP_pos_iff]
    simp only [currentlyStates_iff]

/-! ## The open items -/

/-- The last list that is not empty. -/
def lastNonempty (lists : List (List String)) : List String :=
  (lists.filter fun items => !items.isEmpty).getLast?.getD []

theorem lastNonempty_concat
    (lists : List (List String))
    (last : List String) :
    lastNonempty (lists ++ [last]) =
      if last.isEmpty then lastNonempty lists else last := by
  unfold lastNonempty
  cases empty : last.isEmpty with
  | true => simp [empty]
  | false => simp [empty]

theorem lastNonempty_eq_nil_iff {lists : List (List String)} :
    lastNonempty lists = [] ↔ ∀ items ∈ lists, items = [] := by
  induction lists using List.reverseRecOn with
  | nil => simp [lastNonempty]
  | append_singleton lists last inductionHypothesis =>
      rw [lastNonempty_concat]
      cases last with
      | nil => simpa [or_imp, forall_and] using inductionHypothesis
      | cons item items => simp

/-- The open items are those of the last interpretation that has any. -/
theorem unresolvedItems_reconcileKnownFacts (messages : List StoredMessage) :
    (reconcileKnownFacts messages).unresolvedItems =
      lastNonempty ((analyses (classifiedInbound messages)).map
        SemanticAnalysis.unresolvedItems) := by
  unfold reconcileKnownFacts analyses
  induction classifiedInbound messages using List.reverseRecOn with
  | nil => rfl
  | append_singleton earlier last inductionHypothesis =>
      rw [List.foldl_append, List.filterMap_append, List.map_append]
      simp only [List.foldl_cons, List.foldl_nil, reconcileMessage]
      cases found : last.semanticAnalysis with
      | none =>
          rw [List.filterMap_cons_none found]
          simpa using inductionHypothesis
      | some analysis =>
          rw [List.filterMap_cons_some found, List.filterMap_nil, List.map_singleton,
            lastNonempty_concat, ← inductionHypothesis]
          dsimp only
          rcases stateSolution_cases (earlier.foldl reconcileMessage {}) analysis with
            ⟨-, same⟩ | ⟨new, -, moved⟩
          · rw [same]
          · rw [moved]

/-- The interpretation of the chronologically latest classified message. -/
def Latest
    (messages : List StoredMessage)
    (latest : SemanticAnalysis) : Prop :=
  ∃ ordered, Chronicle messages ordered ∧ (analyses ordered).getLast? = some latest

/-- The open items, and the line of the planner's context about them, are those of the
latest interpretation. -/
def ReportsLatest
    (functions : PyFunctions)
    (messages : List StoredMessage) : Prop :=
  ∀ latest, Latest messages latest →
    (reconcileKnownFacts messages).unresolvedItems = latest.unresolvedItems ∧
      buildKnownFactsContext functions messages =
        String.intercalate "\n"
          (solutionLines (reconcileKnownFacts messages) ++
            factLines (reconcileKnownFacts messages) ++
            contradictionLines functions (reconcileKnownFacts messages).contradictedNotes ++
            unresolvedLines functions latest.unresolvedItems)

/-- Where the latest interpretation leaves nothing open, none before it did. -/
def NothingStale (messages : List StoredMessage) : Prop :=
  ∀ latest, Latest messages latest → latest.unresolvedItems = [] →
    ∀ message ∈ messages, message.direction = .inbound →
      ∀ analysis, message.semanticAnalysis = some analysis → analysis.unresolvedItems = []

theorem latest_iff
    {messages : List StoredMessage}
    {latest : SemanticAnalysis} :
    Latest messages latest ↔
      (analyses (classifiedInbound messages)).getLast? = some latest := by
  constructor
  · rintro ⟨ordered, chronicle, last⟩
    rwa [chronicle.eq_classifiedInbound] at last
  · exact fun last => ⟨_, chronicle_classifiedInbound messages, last⟩

theorem mem_analyses_classifiedInbound
    {messages : List StoredMessage}
    {analysis : SemanticAnalysis} :
    analysis ∈ analyses (classifiedInbound messages) ↔
      ∃ message ∈ messages, message.direction = .inbound ∧
        message.semanticAnalysis = some analysis := by
  have read := (chronicle_classifiedInbound messages).complete
  simp only [analyses, List.mem_filterMap, read.mem_iff, List.mem_filter, decide_eq_true_eq]
  constructor
  · rintro ⟨message, ⟨member, inbound, -⟩, found⟩
    exact ⟨message, member, inbound, found⟩
  · rintro ⟨message, member, inbound, found⟩
    exact ⟨message, ⟨member, inbound, by simp [found]⟩, found⟩

/-- The open items are reported truly exactly when no stale ones are left. -/
theorem open_items_reported_iff
    (functions : PyFunctions)
    (messages : List StoredMessage) :
    ReportsLatest functions messages ↔ NothingStale messages := by
  have items := unresolvedItems_reconcileKnownFacts messages
  have closed : (∀ message ∈ messages, message.direction = .inbound →
      ∀ analysis, message.semanticAnalysis = some analysis → analysis.unresolvedItems = []) ↔
        ∀ analysis ∈ analyses (classifiedInbound messages), analysis.unresolvedItems = [] := by
    simp only [mem_analyses_classifiedInbound]
    exact ⟨fun every analysis ⟨message, member, inbound, found⟩ =>
        every message member inbound analysis found,
      fun every message member inbound analysis found =>
        every analysis ⟨message, member, inbound, found⟩⟩
  unfold ReportsLatest NothingStale buildKnownFactsContext
  simp only [latest_iff, closed]
  rcases List.eq_nil_or_concat (analyses (classifiedInbound messages)) with
    nothing | ⟨earlier, last, split⟩
  · simp [nothing]
  · rw [List.concat_eq_append] at split
    rw [split, List.map_append, List.map_singleton, lastNonempty_concat] at items
    rw [split]
    simp only [List.getLast?_concat, Option.some.injEq, forall_eq']
    cases empty : last.unresolvedItems with
    | cons item others =>
        rw [empty] at items
        simp [items]
    | nil =>
        rw [empty] at items
        have stale : (reconcileKnownFacts messages).unresolvedItems = [] ↔
            ∀ analysis ∈ earlier, analysis.unresolvedItems = [] := by
          rw [items]
          simp [lastNonempty_eq_nil_iff]
        constructor
        · rintro ⟨nothing, -⟩ - analysis member
          rcases List.mem_append.mp member with before | here
          · exact stale.mp nothing analysis before
          · exact List.mem_singleton.mp here ▸ empty
        · intro closed
          have nothing := stale.mpr fun analysis member =>
            closed rfl analysis (List.mem_append_left _ member)
          exact ⟨nothing, by rw [nothing]⟩

namespace Sample

/-- A prospect asks for the price and later has no question left. -/
def answeredThread : List StoredMessage :=
  [{ id := some 1, direction := .inbound, createdAt := some 0
     semanticAnalysis := some { unresolvedItems := ["pricing"] } },
   { id := some 2, direction := .inbound, createdAt := some 1
     semanticAnalysis := some {} }]

end Sample

/-- The question that the first message asks is still reported after the second. -/
theorem answered_items_reported :
    ¬∀ functions messages, ReportsLatest functions messages := by
  intro reports
  have functions : PyFunctions :=
    { floatOfText := fun _ => none, str := fun _ => "", twoDecimals := fun _ => "",
      instantOfText := fun _ => none }
  obtain ⟨stale, -⟩ := reports functions Sample.answeredThread {} (latest_iff.mpr (by decide))
  exact absurd stale (by decide)

end Memory
end MailerAgent
