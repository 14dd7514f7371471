import MailerAgent.Memory.Knowledge
import MailerAgent.Policy.Classifier

/-!
# The interpretation in full

`_validate_response_shape` and `_parse_semantic_response` of `semantic/classifier.py`, with
every field of a `SemanticIntent`. Each field is read from one member of the response. What
the decisions read of an interpretation is its projection.
-/

namespace MailerAgent
namespace Semantic

open Memory Policy

/-! ## Enumerations -/

/-- `SpeechAct`. -/
inductive SpeechAct where
  | statement
  | question
  | request
  | commitment
  | rejection
  | acknowledgment
  deriving DecidableEq, Repr

/-- `SentimentType`. -/
inductive SentimentType where
  | positive
  | neutral
  | negative
  | mixed
  deriving DecidableEq, Repr

/-- `TimingKind`. -/
inductive TimingKind where
  | specificDate
  | relativePeriod
  | quarter
  | conditional
  | vague
  deriving DecidableEq, Repr

/-- The `SpeechAct` of a value. -/
def speechAct : String → Option SpeechAct
  | "statement" => some .statement
  | "question" => some .question
  | "request" => some .request
  | "commitment" => some .commitment
  | "rejection" => some .rejection
  | "acknowledgment" => some .acknowledgment
  | _ => none

/-- The `SentimentType` of a value. -/
def sentimentType : String → Option SentimentType
  | "positive" => some .positive
  | "neutral" => some .neutral
  | "negative" => some .negative
  | "mixed" => some .mixed
  | _ => none

/-- The `TimingKind` of a value. -/
def timingKind : String → Option TimingKind
  | "specific_date" => some .specificDate
  | "relative_period" => some .relativePeriod
  | "quarter" => some .quarter
  | "conditional" => some .conditional
  | "vague" => some .vague
  | _ => none

/-- The `Certainty` of a value. -/
def certainty : String → Option Certainty
  | "explicit" => some .explicit
  | "strongly_inferred" => some .stronglyInferred
  | "weakly_inferred" => some .weaklyInferred
  | "unknown" => some .unknown
  | _ => none

/-! ## Structured values -/

/-- `TimingSignal`, with members that are passed on as they are. -/
structure TimingSignal where
  expression : String
  kind : Option TimingKind
  normalizedTarget : Option Json
  certainty : Certainty
  commitmentStrength : Json
  requiresClarification : Bool

/-- `SemanticFact`, before its provenance is attached. -/
structure SemanticFact where
  value : String
  certainty : Certainty
  explicit : Bool
  evidence : Json
  supersedes : Option String

/-- `SemanticIntent`. Lists and flags are passed on as they are. -/
structure SemanticIntent where
  intents : List IntentType
  speechAct : Option SpeechAct
  sentiment : SentimentType
  buyingStage : BuyingStage
  userGoal : Option Json
  painPoints : Json
  objectionsRaised : Json
  constraints : Json
  urgency : UrgencyLevel
  hasPricingQuestion : Json
  hasBudgetSignal : Json
  hasDecisionMakerSignal : Json
  hasCommitmentSignal : Json
  procurementSignal : Json
  requestedInformation : Json
  questionsAsked : Json
  commitmentsMade : Json
  currentSolution : Option SemanticFact
  competitorsMentioned : List SemanticFact
  newFacts : List SemanticFact
  contradictedFacts : Json
  unresolvedItems : Json
  timing : Option TimingSignal
  confidence : PyFloat
  uncertainAspects : Json
  reasoning : Json
  requiresHumanReview : Json
  humanReviewReason : Json

/-- `_parse_certainty`. -/
def parseCertainty (value : Json) : Certainty :=
  (enumMember certainty value).getD .unknown

/-- `_parse_semantic_fact`. -/
def parseSemanticFact (functions : PyFunctions) : Json → Option SemanticFact
  | .object members =>
      if (Json.get members "value").truth then
        let certainty := parseCertainty (Json.get members "certainty")
        some
          { value := recordedText functions (Json.get members "value")
            certainty := certainty
            explicit := certainty == .explicit
            evidence := Json.get members "evidence"
            supersedes := (Json.get members "supersedes").orNone.map (recordedText functions) }
      else none
  | _ => none

/-- `_parse_timing_signal`. -/
def parseTimingSignal (functions : PyFunctions) : Json → Option TimingSignal
  | .object members =>
      if (Json.get members "expression").truth then
        some
          { expression := recordedText functions (Json.get members "expression")
            kind := (Json.get members "kind").orNone.bind (enumMember timingKind)
            normalizedTarget := (Json.get members "normalized_target").orNone
            certainty := parseCertainty (Json.get members "certainty")
            commitmentStrength := Json.get members "commitment_strength"
            requiresClarification :=
              (Json.getD members "requires_clarification" (.bool false)).truth }
      else none
  | _ => none

/-! ## The shape of a response -/

/-- The name of the type of a value. -/
def typeName : Json → String
  | .null => "NoneType"
  | .bool _ => "bool"
  | .int _ => "int"
  | .float _ => "float"
  | .string _ => "str"
  | .array _ => "list"
  | .object _ => "dict"

/-- The keys of which a response has at least one. -/
def requiredKeys : List String := ["intents", "sentiment", "buying_stage", "confidence"]

/-- `_validate_response_shape`, with the text of its `ValidationError`. -/
def validateResponseShape (functions : PyFunctions) : Json → Except String Unit
  | .object response =>
      if requiredKeys.any fun key => (Json.member response key).isSome then .ok ()
      else .error ("LLM response is missing all required classification keys " ++
        "('intents', 'sentiment', 'buying_stage', 'confidence') -- got keys: " ++
        functions.str (.array (((response.map Prod.fst).mergeSort (· ≤ ·)).map .string)))
  | value => .error ("LLM response is not a JSON object: " ++ typeName value)

/-! ## The members of a response -/

section Members

variable (response : List (String × Json))

/-- `response.get(name, []) or []`. -/
def listMember (name : String) : Json :=
  (Json.getD response name (.array [])).orNone.getD (.array [])

/-- A flag: `response.get(name, False)`. -/
def flagMember (name : String) : Json :=
  Json.getD response name (.bool false)

/-- A member of an enumeration with its default. -/
def enumField
    {Value : Type}
    (named : String → Option Value)
    (default : Value)
    (text name : String) : Value :=
  (enumMember named (Json.getD response name (.string text))).getD default

/-- The intents of the given values; there is always one. -/
def readIntents (intentStrings : List Json) : List IntentType :=
  let intents := intentStrings.filterMap (enumMember intentType)
  if intents.isEmpty then [.neutral] else intents

/-- The `SemanticIntent` that `_parse_semantic_response` builds at its end. -/
def buildIntent
    (functions : PyFunctions)
    (intentStrings competitors facts : List Json)
    (confidence : PyFloat) : SemanticIntent :=
  { intents := readIntents intentStrings
    speechAct := (Json.get response "speech_act").orNone.bind (enumMember speechAct)
    sentiment := enumField response sentimentType .neutral "neutral" "sentiment"
    buyingStage := enumField response buyingStage .unaware "unaware" "buying_stage"
    userGoal := (Json.get response "user_goal").orNone
    painPoints := listMember response "pain_points"
    objectionsRaised := listMember response "objections_raised"
    constraints := listMember response "constraints"
    urgency := enumField response urgencyLevel .noTimeline "no_timeline" "urgency"
    hasPricingQuestion := flagMember response "has_pricing_question"
    hasBudgetSignal := flagMember response "has_budget_signal"
    hasDecisionMakerSignal := flagMember response "has_decision_maker_signal"
    hasCommitmentSignal := flagMember response "has_commitment_signal"
    procurementSignal := flagMember response "procurement_signal"
    requestedInformation := listMember response "requested_information"
    questionsAsked := listMember response "questions_asked"
    commitmentsMade := listMember response "commitments_made"
    currentSolution := parseSemanticFact functions (Json.get response "current_solution")
    competitorsMentioned := competitors.filterMap (parseSemanticFact functions)
    newFacts := facts.filterMap (parseSemanticFact functions)
    contradictedFacts := listMember response "contradicted_facts"
    unresolvedItems := listMember response "unresolved_items"
    timing := parseTimingSignal functions (Json.get response "timing")
    confidence := confidence
    uncertainAspects := listMember response "uncertain_aspects"
    reasoning := Json.getD response "reasoning" (.string "")
    requiresHumanReview := flagMember response "requires_human_review"
    humanReviewReason := Json.get response "human_review_reason" }

/-- `_parse_semantic_response`. -/
def parseSemanticResponse (functions : PyFunctions) : Except String SemanticIntent := do
  let intentStrings ←
    (Json.getD response "intents" (.array [.string "neutral"])).iterate
  let competitors ← (Json.getD response "competitors_mentioned" (.array [])).iterateOrEmpty
  let facts ← (Json.getD response "new_facts" (.array [])).iterateOrEmpty
  let confidence ← (Json.getD response "confidence"
    (.float (.finite (1 / 2)))).toFloat functions
  pure (buildIntent response functions intentStrings competitors facts confidence)

end Members

/-! ## The part that decisions read -/

/-- The timing that the scheduling reads. -/
def TimingSignal.decisive
    (functions : PyFunctions)
    (timing : TimingSignal) :
    MailerAgent.TimingSignal where
  requiresClarification := timing.requiresClarification
  normalizedTarget := timing.normalizedTarget.map functions.str
  parsedTarget :=
    match timing.normalizedTarget with
    | some (.string text) => functions.instantOfText text
    | _ => none

/-- The part of an interpretation that decides about replies. -/
def SemanticIntent.decisive
    (functions : PyFunctions)
    (intent : SemanticIntent) :
    ParsedIntent where
  intents := intent.intents
  buyingStage := intent.buyingStage
  urgency := intent.urgency
  timing := intent.timing.map (TimingSignal.decisive functions)
  reasoning := recordedText functions intent.reasoning
  hasPricingQuestion := intent.hasPricingQuestion
  unresolvedItems := intent.unresolvedItems
  confidence := intent.confidence
  requiresHumanReview := intent.requiresHumanReview
  humanReviewReason := intent.humanReviewReason

/-- The interpretation of a response, as the decisions about a reply read it. -/
def parseDecisive
    (functions : PyFunctions)
    (response : List (String × Json)) :
    Except String ParsedIntent :=
  (parseSemanticResponse response functions).map (SemanticIntent.decisive functions)

/-! ## Fields -/

/-- The fields of an interpretation. -/
inductive Field where
  | intents
  | speechAct
  | sentiment
  | buyingStage
  | userGoal
  | painPoints
  | objectionsRaised
  | constraints
  | urgency
  | hasPricingQuestion
  | hasBudgetSignal
  | hasDecisionMakerSignal
  | hasCommitmentSignal
  | procurementSignal
  | requestedInformation
  | questionsAsked
  | commitmentsMade
  | currentSolution
  | competitorsMentioned
  | newFacts
  | contradictedFacts
  | unresolvedItems
  | timing
  | confidence
  | uncertainAspects
  | reasoning
  | requiresHumanReview
  | humanReviewReason
  deriving DecidableEq, Repr

/-- The member that a field is read from. -/
def Field.memberName : Field → String
  | .intents => "intents"
  | .speechAct => "speech_act"
  | .sentiment => "sentiment"
  | .buyingStage => "buying_stage"
  | .userGoal => "user_goal"
  | .painPoints => "pain_points"
  | .objectionsRaised => "objections_raised"
  | .constraints => "constraints"
  | .urgency => "urgency"
  | .hasPricingQuestion => "has_pricing_question"
  | .hasBudgetSignal => "has_budget_signal"
  | .hasDecisionMakerSignal => "has_decision_maker_signal"
  | .hasCommitmentSignal => "has_commitment_signal"
  | .procurementSignal => "procurement_signal"
  | .requestedInformation => "requested_information"
  | .questionsAsked => "questions_asked"
  | .commitmentsMade => "commitments_made"
  | .currentSolution => "current_solution"
  | .competitorsMentioned => "competitors_mentioned"
  | .newFacts => "new_facts"
  | .contradictedFacts => "contradicted_facts"
  | .unresolvedItems => "unresolved_items"
  | .timing => "timing"
  | .confidence => "confidence"
  | .uncertainAspects => "uncertain_aspects"
  | .reasoning => "reasoning"
  | .requiresHumanReview => "requires_human_review"
  | .humanReviewReason => "human_review_reason"

/-- The type of a field. -/
def Field.Value : Field → Type
  | .intents => List IntentType
  | .speechAct => Option SpeechAct
  | .sentiment => SentimentType
  | .buyingStage => BuyingStage
  | .userGoal => Option Json
  | .painPoints => Json
  | .objectionsRaised => Json
  | .constraints => Json
  | .urgency => UrgencyLevel
  | .hasPricingQuestion => Json
  | .hasBudgetSignal => Json
  | .hasDecisionMakerSignal => Json
  | .hasCommitmentSignal => Json
  | .procurementSignal => Json
  | .requestedInformation => Json
  | .questionsAsked => Json
  | .commitmentsMade => Json
  | .currentSolution => Option SemanticFact
  | .competitorsMentioned => List SemanticFact
  | .newFacts => List SemanticFact
  | .contradictedFacts => Json
  | .unresolvedItems => Json
  | .timing => Option TimingSignal
  | .confidence => PyFloat
  | .uncertainAspects => Json
  | .reasoning => Json
  | .requiresHumanReview => Json
  | .humanReviewReason => Json

/-- The value of a field. -/
def Field.value (intent : SemanticIntent) : (field : Field) → field.Value
  | .intents => intent.intents
  | .speechAct => intent.speechAct
  | .sentiment => intent.sentiment
  | .buyingStage => intent.buyingStage
  | .userGoal => intent.userGoal
  | .painPoints => intent.painPoints
  | .objectionsRaised => intent.objectionsRaised
  | .constraints => intent.constraints
  | .urgency => intent.urgency
  | .hasPricingQuestion => intent.hasPricingQuestion
  | .hasBudgetSignal => intent.hasBudgetSignal
  | .hasDecisionMakerSignal => intent.hasDecisionMakerSignal
  | .hasCommitmentSignal => intent.hasCommitmentSignal
  | .procurementSignal => intent.procurementSignal
  | .requestedInformation => intent.requestedInformation
  | .questionsAsked => intent.questionsAsked
  | .commitmentsMade => intent.commitmentsMade
  | .currentSolution => intent.currentSolution
  | .competitorsMentioned => intent.competitorsMentioned
  | .newFacts => intent.newFacts
  | .contradictedFacts => intent.contradictedFacts
  | .unresolvedItems => intent.unresolvedItems
  | .timing => intent.timing
  | .confidence => intent.confidence
  | .uncertainAspects => intent.uncertainAspects
  | .reasoning => intent.reasoning
  | .requiresHumanReview => intent.requiresHumanReview
  | .humanReviewReason => intent.humanReviewReason

section Degradation

variable {functions : PyFunctions} {response other : List (String × Json)}
variable {intent : SemanticIntent}

theorem bind_eq_ok
    {ε α β : Type}
    {first : Except ε α}
    {next : α → Except ε β}
    {result : β} :
    first.bind next = .ok result ↔ ∃ value, first = .ok value ∧ next value = .ok result := by
  cases first with
  | ok value => simp [Except.bind]
  | error error => simp [Except.bind]

/-- An interpretation is built when four members can be read. -/
theorem parseSemanticResponse_eq_ok_iff :
    parseSemanticResponse response functions = .ok intent ↔
      ∃ intentStrings,
        (Json.getD response "intents" (.array [.string "neutral"])).iterate =
          .ok intentStrings ∧
        ∃ competitors,
          (Json.getD response "competitors_mentioned" (.array [])).iterateOrEmpty =
            .ok competitors ∧
          ∃ facts,
            (Json.getD response "new_facts" (.array [])).iterateOrEmpty = .ok facts ∧
            ∃ confidence,
              (Json.getD response "confidence" (.float (.finite (1 / 2)))).toFloat functions =
                .ok confidence ∧
              buildIntent response functions intentStrings competitors facts confidence =
                intent := by
  simp only [parseSemanticResponse, bind, bind_eq_ok, pure, Except.pure, Except.ok.injEq]

theorem getD_congr
    {name : String}
    (same : Json.member response name = Json.member other name)
    (default : Json) :
    Json.getD response name default = Json.getD other name default := by
  rw [Json.getD, same, Json.getD]

/-- A field is decided by its member, whatever the others are. -/
theorem field_of_member
    {first second : SemanticIntent}
    (field : Field)
    (same : Json.member response field.memberName = Json.member other field.memberName)
    (parsed : parseSemanticResponse response functions = .ok first)
    (parsedOther : parseSemanticResponse other functions = .ok second) :
    field.value first = field.value second := by
  obtain ⟨strings, iterated, competitors, competing, facts, stated, confidence, converted, rfl⟩ :=
    parseSemanticResponse_eq_ok_iff.mp parsed
  obtain ⟨strings', iterated', competitors', competing', facts', stated', confidence',
    converted', rfl⟩ := parseSemanticResponse_eq_ok_iff.mp parsedOther
  cases field with
  | intents =>
      simp only [Field.memberName] at same
      rw [getD_congr same, iterated'] at iterated
      cases iterated
      rfl
  | competitorsMentioned =>
      simp only [Field.memberName] at same
      rw [getD_congr same, competing'] at competing
      cases competing
      rfl
  | newFacts =>
      simp only [Field.memberName] at same
      rw [getD_congr same, stated'] at stated
      cases stated
      rfl
  | confidence =>
      simp only [Field.memberName] at same
      rw [getD_congr same, converted'] at converted
      cases converted
      rfl
  | _ =>
      simp only [Field.memberName] at same
      simp only [Field.value, buildIntent, listMember, flagMember, enumField, Json.get]
      rw [getD_congr same]

/-- A value that can be iterated over. -/
def Iterable : Json → Prop
  | .string _ | .array _ | .object _ => True
  | .null | .bool _ | .int _ | .float _ => False

/-- A value that `float` converts. -/
def Convertible (functions : PyFunctions) : Json → Prop
  | .bool _ | .float _ => True
  | .int number => roundToDouble number.natAbs < 2 ^ 1024
  | .string text => (functions.floatOfText text).isSome = true
  | .null | .array _ | .object _ => False

theorem iterate_ok_iff (value : Json) :
    (∃ elements, value.iterate = .ok elements) ↔ Iterable value := by
  cases value <;> simp [Json.iterate, Iterable]

theorem iterateOrEmpty_ok_iff (value : Json) :
    (∃ elements, value.iterateOrEmpty = .ok elements) ↔
      (value.truth = true → Iterable value) := by
  unfold Json.iterateOrEmpty Json.orNone
  by_cases truth : value.truth = true
  · simp [truth, iterate_ok_iff]
  · simp [truth]

theorem toFloat_ok_iff (value : Json) :
    (∃ number, value.toFloat functions = .ok number) ↔ Convertible functions value := by
  cases value with
  | int number =>
      simp only [Json.toFloat, floatOfInt, Convertible]
      split
      case isTrue large => exact iff_of_false (by simp) (Nat.not_lt.mpr large)
      case isFalse small => exact iff_of_true ⟨_, rfl⟩ (Nat.not_le.mp small)
  | string text =>
      simp only [Json.toFloat, Convertible]
      cases functions.floatOfText text <;> simp
  | _ => simp [Json.toFloat, Convertible]

/-- The members that are not read with a default: the intents are a list, a text or an
object, the competitors and the new facts too unless they count as none, and the confidence
is a number. -/
structure Degrades
    (functions : PyFunctions)
    (response : List (String × Json)) : Prop where
  intents : Iterable (Json.getD response "intents" (.array [.string "neutral"]))
  competitors : (Json.getD response "competitors_mentioned" (.array [])).truth = true →
    Iterable (Json.getD response "competitors_mentioned" (.array []))
  newFacts : (Json.getD response "new_facts" (.array [])).truth = true →
    Iterable (Json.getD response "new_facts" (.array []))
  confidence : Convertible functions
    (Json.getD response "confidence" (.float (.finite (1 / 2))))

theorem parseSemanticResponse_ok_iff :
    (∃ intent, parseSemanticResponse response functions = .ok intent) ↔
      Degrades functions response := by
  simp only [parseSemanticResponse_eq_ok_iff]
  constructor
  · rintro ⟨intent, strings, iterated, competitors, competing, facts, stated, confidence,
      converted, -⟩
    exact
      { intents := (iterate_ok_iff _).mp ⟨strings, iterated⟩
        competitors := (iterateOrEmpty_ok_iff _).mp ⟨competitors, competing⟩
        newFacts := (iterateOrEmpty_ok_iff _).mp ⟨facts, stated⟩
        confidence := (toFloat_ok_iff _).mp ⟨confidence, converted⟩ }
  · intro degrades
    obtain ⟨strings, iterated⟩ := (iterate_ok_iff _).mpr degrades.intents
    obtain ⟨competitors, competing⟩ := (iterateOrEmpty_ok_iff _).mpr degrades.competitors
    obtain ⟨facts, stated⟩ := (iterateOrEmpty_ok_iff _).mpr degrades.newFacts
    obtain ⟨confidence, converted⟩ := (toFloat_ok_iff _).mpr degrades.confidence
    exact ⟨_, strings, iterated, competitors, competing, facts, stated, confidence, converted,
      rfl⟩

end Degradation

theorem object_of_shaped
    {functions : PyFunctions}
    {value : Json}
    (shaped : validateResponseShape functions value = .ok ()) :
    ∃ response, value = .object response := by
  cases value with
  | object response => exact ⟨response, rfl⟩
  | _ => exact nomatch shaped

/-- From a response of the right shape an interpretation comes out, each field of it decided
by the one member that it is read from, exactly when the members without a default for a
wrong type have the right one. -/
theorem classifier_output_degrades_iff
    (functions : PyFunctions)
    (value : Json)
    (shaped : validateResponseShape functions value = .ok ()) :
    ∃ response, value = .object response ∧
      ((∃ intent, parseSemanticResponse response functions = .ok intent ∧
          ∀ (other : List (String × Json)) (second : SemanticIntent) (field : Field),
            parseSemanticResponse other functions = .ok second →
            Json.member response field.memberName = Json.member other field.memberName →
            field.value intent = field.value second) ↔
        Degrades functions response) := by
  obtain ⟨response, rfl⟩ := object_of_shaped shaped
  refine ⟨response, rfl, ?_⟩
  rw [← parseSemanticResponse_ok_iff]
  constructor
  · rintro ⟨intent, parsed, -⟩
    exact ⟨intent, parsed⟩
  · rintro ⟨intent, parsed⟩
    exact ⟨intent, parsed, fun other second field parsedOther same =>
      field_of_member field same parsed parsedOther⟩

namespace Sample

/-- Functions of Python that read no text as a number. -/
def functions : PyFunctions where
  floatOfText _ := none
  str _ := ""
  twoDecimals _ := ""
  instantOfText _ := none

/-- A response to an unsubscription with a confidence, other members malformed. -/
def unsubscription (confidence : Json) : List (String × Json) :=
  [("intents", .array [.string "unsubscribe", .int 5]), ("sentiment", .array []),
    ("competitors_mentioned", .null), ("timing", .string "soon"), ("confidence", confidence)]

theorem unsubscription_shaped (confidence : Json) :
    validateResponseShape functions (.object (unsubscription confidence)) = .ok () := rfl

end Sample

/-- A confidence of null loses an unsubscription. -/
theorem classifier_output_lost :
    validateResponseShape Sample.functions (.object (Sample.unsubscription .null)) = .ok () ∧
      ¬∃ intent, parseSemanticResponse (Sample.unsubscription .null) Sample.functions =
        .ok intent := by
  refine ⟨Sample.unsubscription_shaped _, ?_⟩
  rw [parseSemanticResponse_ok_iff]
  exact fun degrades => degrades.confidence

theorem classifier_output_degrades_of_float :
    ∃ intent, parseSemanticResponse (Sample.unsubscription (.float (.finite 1)))
        Sample.functions = .ok intent ∧ intent.intents = [.unsubscribe] := by
  obtain ⟨response, same, iff⟩ := classifier_output_degrades_iff Sample.functions
    (.object (Sample.unsubscription (.float (.finite 1)))) (Sample.unsubscription_shaped _)
  cases same
  have degrades : Degrades Sample.functions (Sample.unsubscription (.float (.finite 1))) :=
    ⟨trivial, nofun, nofun, trivial⟩
  obtain ⟨intent, parsed, fieldwise⟩ := iff.mpr degrades
  refine ⟨intent, parsed, ?_⟩
  exact fieldwise [("intents", .array [.string "unsubscribe", .int 5])] _ .intents rfl rfl

end Semantic
end MailerAgent
