import MailerAgent.Foundation.Arrangement
import MailerAgent.Foundation.Json
import MailerAgent.Foundation.Supersession
import MailerAgent.Models.Rows
import Mathlib.Data.List.Sort
import Mathlib.Data.Prod.Lex

/-!
# Reconciled knowledge

`reconcile_known_facts` of `memory/store.py` walks the stored interpretations of a
contact's inbound messages in chronological order, and `build_known_facts_context` renders
the result for the planner. A stored interpretation is read through the members that
`serialize_semantic_intent` writes; a missing text and an empty one are alike to every
reader. The contradicted facts and the unresolved items are lists of texts, as declared;
the classifier passes on other JSON values too, and what follows from them for a reply is
part of the automatic replies.
-/

namespace MailerAgent
namespace Memory

/-- `Certainty`. -/
inductive Certainty where
  | explicit
  | stronglyInferred
  | weaklyInferred
  | unknown
  deriving DecidableEq, Repr

/-- The stored text of a certainty. -/
def Certainty.value : Certainty → String
  | explicit => "explicit"
  | stronglyInferred => "strongly_inferred"
  | weaklyInferred => "weakly_inferred"
  | unknown => "unknown"

/-- A stored `SemanticFact`. -/
structure SemanticFact where
  value : String := ""
  certainty : Option Certainty := none
  evidence : Option String := none
  supersedes : Option String := none
  sourceMessageId : Option Nat := none
  observedAt : Option String := none
  deriving DecidableEq, Repr

/-- The members of a stored interpretation that the reconciliation reads. -/
structure SemanticAnalysis where
  currentSolution : Option SemanticFact := none
  newFacts : List SemanticFact := []
  contradictedFacts : List String := []
  unresolvedItems : List String := []
  deriving DecidableEq, Repr

/-- A message of a contact with its stored interpretation, if it has one. -/
structure StoredMessage where
  id : Option Nat
  direction : MessageDirection
  createdAt : Option Instant
  semanticAnalysis : Option SemanticAnalysis
  deriving DecidableEq, Repr

/-- The `status` of a `ReconciledFact`. -/
inductive FactStatus where
  | current
  | superseded
  deriving DecidableEq, Repr

/-- `ReconciledFact`. -/
structure ReconciledFact where
  value : String
  certainty : Certainty := .unknown
  status : FactStatus := .current
  evidence : Option String := none
  sourceMessageId : Option Nat := none
  observedAt : Option String := none
  deriving DecidableEq, Repr

/-- `ReconciledKnowledge`. -/
structure ReconciledKnowledge where
  currentSolution : Option ReconciledFact := none
  currentSolutionHistory : List ReconciledFact := []
  facts : List ReconciledFact := []
  unresolvedItems : List String := []
  contradictedNotes : List String := []
  deriving DecidableEq, Repr

/-- `_mk`. -/
def SemanticFact.reconciled (raw : SemanticFact) : ReconciledFact :=
  { value := raw.value
    certainty := raw.certainty.getD .unknown
    status := .current
    evidence := raw.evidence
    sourceMessageId := raw.sourceMessageId
    observedAt := raw.observedAt }

/-- A fact with the mark of history. -/
def ReconciledFact.supersede (fact : ReconciledFact) : ReconciledFact :=
  { fact with status := .superseded }

/-- `existing.status == "current" and existing.value == value`. -/
def ReconciledFact.currentlyStates
    (fact : ReconciledFact)
    (value : String) : Bool :=
  fact.status == .current && fact.value == value

/-! ## The reconciliation -/

/-- The sort key `(created_at is None, created_at, id or 0)`. -/
def sortKey (message : StoredMessage) : Bool ×ₗ Int ×ₗ Nat :=
  toLex (message.createdAt.isNone, toLex (message.createdAt.getD 0, message.id.getD 0))

/-- The classified inbound messages in chronological order. -/
def classifiedInbound (messages : List StoredMessage) : List StoredMessage :=
  (messages.filter fun message =>
    message.direction == .inbound && message.semanticAnalysis.isSome).insertionSort
      fun left right => sortKey left ≤ sortKey right

/-- A stated current solution replaces the one before it. -/
def stateSolution (knowledge : ReconciledKnowledge) :
    Option SemanticFact → ReconciledKnowledge
  | none => knowledge
  | some solution =>
      if solution.value.isEmpty then knowledge
      else
        { knowledge with
          currentSolution := some solution.reconciled
          currentSolutionHistory :=
            knowledge.currentSolutionHistory ++
              (knowledge.currentSolution.map ReconciledFact.supersede).toList }

/-- The facts after the supersession that an extracted fact names. -/
def applySupersedes
    (supersedes : Option String)
    (facts : List ReconciledFact) :
    List ReconciledFact :=
  match supersedes with
  | none => facts
  | some named =>
      if named.isEmpty then facts
      else facts.map fun existing =>
        if existing.currentlyStates named then existing.supersede else existing

/-- One turn of the loop over `new_facts`. -/
def reconcileFact
    (facts : List ReconciledFact)
    (raw : SemanticFact) :
    List ReconciledFact :=
  if raw.value.isEmpty then facts
  else
    let facts := applySupersedes raw.supersedes facts
    if facts.any fun existing => existing.currentlyStates raw.value then facts
    else facts ++ [raw.reconciled]

/-- One turn of the loop over the messages. -/
def reconcileMessage
    (knowledge : ReconciledKnowledge)
    (message : StoredMessage) :
    ReconciledKnowledge :=
  match message.semanticAnalysis with
  | none => knowledge
  | some analysis =>
      let knowledge := stateSolution knowledge analysis.currentSolution
      { knowledge with
        facts := analysis.newFacts.foldl reconcileFact knowledge.facts
        unresolvedItems :=
          if analysis.unresolvedItems.isEmpty then knowledge.unresolvedItems
          else analysis.unresolvedItems
        contradictedNotes := knowledge.contradictedNotes ++ analysis.contradictedFacts }

/-- `reconcile_known_facts`. -/
def reconcileKnownFacts (messages : List StoredMessage) : ReconciledKnowledge :=
  (classifiedInbound messages).foldl reconcileMessage {}

/-! ## The context of the planner -/

/-- The text of a list of texts. -/
def showTexts
    (functions : PyFunctions)
    (texts : List String) : String :=
  functions.str (.array (texts.map .string))

/-- The lines about the current solution and the earlier ones. -/
def solutionLines (knowledge : ReconciledKnowledge) : List String :=
  (knowledge.currentSolution.map fun solution =>
    "current_solution: " ++ solution.value ++
      " (certainty=" ++ solution.certainty.value ++ ")").toList ++
    knowledge.currentSolutionHistory.map fun earlier =>
      "current_solution (superseded, no longer current): " ++ earlier.value

/-- The lines about the facts. -/
def factLines (knowledge : ReconciledKnowledge) : List String :=
  let superseded := knowledge.facts.filter fun fact => fact.status == .superseded
  ((knowledge.facts.filter fun fact => fact.status == .current).map fun fact =>
    "fact: " ++ fact.value ++ " (certainty=" ++ fact.certainty.value ++ ")") ++
    if superseded.isEmpty then []
    else
      ["superseded facts (history, no longer current): " ++
        String.intercalate ", " (superseded.map ReconciledFact.value)]

/-- The line about contradictions. -/
def contradictionLines
    (functions : PyFunctions)
    (notes : List String) : List String :=
  if notes.isEmpty then []
  else ["contradictions noted during conversation: " ++ showTexts functions notes]

/-- The line about what is still open. -/
def unresolvedLines
    (functions : PyFunctions)
    (items : List String) : List String :=
  if items.isEmpty then []
  else ["still unresolved as of latest message: " ++ showTexts functions items]

/-- `build_known_facts_context`. -/
def buildKnownFactsContext
    (functions : PyFunctions)
    (messages : List StoredMessage) :
    String :=
  let knowledge := reconcileKnownFacts messages
  String.intercalate "\n"
    (solutionLines knowledge ++ factLines knowledge ++
      contradictionLines functions knowledge.contradictedNotes ++
      unresolvedLines functions knowledge.unresolvedItems)

/-! ## Chronology -/

/-- A message that the reconciliation reads: received, and interpreted. -/
def Classified (message : StoredMessage) : Prop :=
  message.direction = .inbound ∧ message.semanticAnalysis.isSome = true

instance (message : StoredMessage) : Decidable (Classified message) :=
  inferInstanceAs (Decidable (_ ∧ _))

/-- A message was created no later than another one; one of an unknown time comes last, and
the identifiers decide between those of one time. -/
def NotAfter (earlier later : StoredMessage) : Prop :=
  match earlier.createdAt, later.createdAt with
  | some first, some second =>
      first < second ∨ first = second ∧ earlier.id.getD 0 ≤ later.id.getD 0
  | some _, none => True
  | none, some _ => False
  | none, none => earlier.id.getD 0 ≤ later.id.getD 0

/-- The sort key orders messages by their times. -/
theorem notAfter_iff {earlier later : StoredMessage} :
    NotAfter earlier later ↔ sortKey earlier ≤ sortKey later := by
  unfold NotAfter sortKey
  cases earlier.createdAt with
  | none =>
      cases later.createdAt with
      | none => simp [Prod.Lex.toLex_le_toLex]
      | some second => simp [Prod.Lex.toLex_le_toLex]
  | some first =>
      cases later.createdAt with
      | none => simp [Prod.Lex.toLex_le_toLex]
      | some second => simp [Prod.Lex.toLex_le_toLex]

instance : DecidableRel NotAfter :=
  fun earlier later => decidable_of_iff (sortKey earlier ≤ sortKey later) notAfter_iff.symm

instance : Std.Total NotAfter where
  total earlier later := by
    simpa only [notAfter_iff] using le_total (sortKey earlier) (sortKey later)

instance : IsTrans StoredMessage NotAfter where
  trans first second third earlier later := by
    rw [notAfter_iff] at *
    exact earlier.trans later

/-- The classified messages of a contact in chronological order. -/
abbrev Chronicle (messages ordered : List StoredMessage) : Prop :=
  Arrangement.Arranges NotAfter (messages.filter Classified) ordered

/-- The messages that are read are the chronicle. -/
theorem chronicle_classifiedInbound (messages : List StoredMessage) :
    Chronicle messages (classifiedInbound messages) := by
  have read : (messages.filter fun message =>
      message.direction == .inbound && message.semanticAnalysis.isSome) =
        messages.filter Classified :=
    List.filter_congr fun message _ => by
      rw [Bool.eq_iff_iff, decide_eq_true_iff, Classified]
      simp
  have order : (fun left right : StoredMessage => sortKey left ≤ sortKey right) = NotAfter :=
    funext₂ fun left right => propext notAfter_iff.symm
  unfold classifiedInbound
  rw [read]
  convert @Arrangement.arranges_insertionSort _ NotAfter _ _ _ (messages.filter Classified)

theorem Chronicle.eq_classifiedInbound
    {messages ordered : List StoredMessage}
    (chronicle : Chronicle messages ordered) :
    ordered = classifiedInbound messages :=
  chronicle.unique (chronicle_classifiedInbound messages)

/-- The interpretations of messages, in their order. -/
def analyses (ordered : List StoredMessage) : List SemanticAnalysis :=
  ordered.filterMap StoredMessage.semanticAnalysis

end Memory
end MailerAgent
