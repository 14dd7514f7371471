import MailerAgent.Foundation.PyText
import MailerAgent.Policy.Classifier

/-!
# The plan of a reply and its authorization

`plan_next_action` of `policy/next_action.py` and `authorize_action` of
`policy/guardrails.py`. The planner's JSON is read like the classifier's; the guardrails
collect the reasons against an automatic reply, and allow one without a reason.
-/

namespace MailerAgent
namespace Policy

/-! ## The planner -/

/-- `ActionType`. -/
inductive ActionType where
  | acknowledge
  | answer
  | clarify
  | askTargetedQuestion
  | addressObjection
  | provideRequestedInformation
  | proposeNextStep
  | requestMissingInformation
  | defer
  | nurture
  | escalate
  deriving DecidableEq, Repr

/-- The stored text of an action type. -/
def ActionType.value : ActionType → String
  | acknowledge => "acknowledge"
  | answer => "answer"
  | clarify => "clarify"
  | askTargetedQuestion => "ask_targeted_question"
  | addressObjection => "address_objection"
  | provideRequestedInformation => "provide_requested_information"
  | proposeNextStep => "propose_next_step"
  | requestMissingInformation => "request_missing_information"
  | defer => "defer"
  | nurture => "nurture"
  | escalate => "escalate"

/-- The `ActionType` of a value. -/
def actionType : String → Option ActionType
  | "acknowledge" => some .acknowledge
  | "answer" => some .answer
  | "clarify" => some .clarify
  | "ask_targeted_question" => some .askTargetedQuestion
  | "address_objection" => some .addressObjection
  | "provide_requested_information" => some .provideRequestedInformation
  | "propose_next_step" => some .proposeNextStep
  | "request_missing_information" => some .requestMissingInformation
  | "defer" => some .defer
  | "nurture" => some .nurture
  | "escalate" => some .escalate
  | _ => none

/-- `NextActionProposal`. -/
structure NextActionProposal where
  actionType : ActionType
  objective : String
  reason : Json
  confidence : PyFloat
  requiresHumanReview : Bool
  reviewReason : Json

/-- `_FALLBACK_PROPOSAL`. -/
def fallbackProposal : NextActionProposal where
  actionType := .escalate
  objective := "Have a human review this reply and decide the right response."
  reason := .string "Planner LLM unavailable -- no safe automated plan."
  confidence := .finite 0
  requiresHumanReview := true
  reviewReason := .string "Planner unavailable"

/-- How the planner's call of the language model ends, if there is one: it fails, or
returns a JSON value. -/
inductive PlannerReply where
  | unconfigured
  | failed
  | answered (payload : Json)

/-- `separator.join(texts)`. -/
def joinTexts (separator : String) : List Json → Except String String
  | [] => .ok ""
  | [.string text] => .ok text
  | .string text :: rest => do
      let joined ← joinTexts separator rest
      pure (text ++ separator ++ joined)
  | _ :: _ => .error "TypeError"

/-- `"\n".join(items) if items else ""`. -/
def joinItems (items : Json) : Except String String :=
  if items.truth then do
    let elements ← items.iterate
    joinTexts "\n" elements
  else pure ""

/-- `(value or "").strip()`. -/
def strippedText : Json → Except String String
  | .string text => .ok (PyText.strip text)
  | value => if value.truth then .error "AttributeError" else .ok ""

/-- The end of `plan_next_action`, on what the model returned. -/
def readProposal (functions : PyFunctions) : Json → Except String NextActionProposal
  | .object payload =>
      match enumMember actionType (Json.get payload "action_type") with
      | none => .ok fallbackProposal
      | some action => do
          let objective ← strippedText (Json.get payload "objective")
          if objective = "" then pure fallbackProposal
          else
            let confidence ← (Json.getD payload "confidence"
              (.float (.finite (1 / 2)))).toFloat functions
            pure
              { actionType := action
                objective := objective
                reason := Json.getD payload "reason" (.string "")
                confidence := confidence
                requiresHumanReview :=
                  (Json.getD payload "requires_human_review" (.bool false)).truth
                reviewReason := Json.get payload "review_reason" }
  | _ => .error "AttributeError"

/-- `plan_next_action`. The unresolved items of the interpretation are joined for the prompt
before the model is called. -/
def planNextAction
    (functions : PyFunctions)
    (unresolvedItems : Json) : PlannerReply → Except String NextActionProposal
  | .unconfigured => .ok fallbackProposal
  | .failed => do
      let _ ← joinItems unresolvedItems
      pure fallbackProposal
  | .answered payload => do
      let _ ← joinItems unresolvedItems
      readProposal functions payload

/-- The items are none, or texts. -/
def Joins (items : Json) : Prop :=
  items.truth = true →
    ∃ elements, items.iterate = .ok elements ∧ ∀ item ∈ elements, ∃ text, item = .string text

/-- Texts can be joined, and nothing else. -/
theorem joinTexts_ok_iff
    {separator : String}
    {items : List Json} :
    (∃ joined, joinTexts separator items = .ok joined) ↔
      ∀ item ∈ items, ∃ text, item = .string text := by
  induction items with
  | nil => simp [joinTexts]
  | cons item rest inductionHypothesis =>
      rw [List.forall_mem_cons, ← inductionHypothesis]
      cases item with
      | string text =>
          cases rest with
          | nil => simp [joinTexts]
          | cons next others =>
              rw [joinTexts]
              · cases joinTexts separator (next :: others) with
                | ok joined => simp [bind, Except.bind, pure, Except.pure]
                | error name => simp [bind, Except.bind]
              · simp
      | _ => simp [joinTexts]

theorem joinItems_ok_iff {items : Json} :
    (∃ joined, joinItems items = .ok joined) ↔ Joins items := by
  unfold joinItems Joins
  by_cases truth : items.truth = true
  · simp only [truth, forall_const]
    cases items.iterate with
    | error name => simp [bind, Except.bind]
    | ok elements => simpa [bind, Except.bind] using joinTexts_ok_iff
  · simp [truth, pure, Except.pure]

/-- The plan is made if the model is not configured, or else if the items can be joined and
what the model returned can be read. -/
theorem planNextAction_ok_iff
    {functions : PyFunctions}
    {unresolvedItems : Json}
    {reply : PlannerReply} :
    (∃ proposal, planNextAction functions unresolvedItems reply = .ok proposal) ↔
      (reply ≠ .unconfigured → Joins unresolvedItems) ∧
        ∀ payload, reply = .answered payload →
          ∃ proposal, readProposal functions payload = .ok proposal := by
  rw [← joinItems_ok_iff]
  cases reply with
  | unconfigured => simp [planNextAction]
  | failed =>
      cases joined : joinItems unresolvedItems with
      | ok text => simp [planNextAction, joined, bind, Except.bind, pure, Except.pure]
      | error name => simp [planNextAction, joined, bind, Except.bind]
  | answered payload =>
      cases joined : joinItems unresolvedItems with
      | ok text => simp [planNextAction, joined, bind, Except.bind]
      | error name => simp [planNextAction, joined, bind, Except.bind]

/-! ## The guardrails -/

/-- `MIN_AUTO_SEND_CONFIDENCE`: the float that is nearest to 0.6. -/
def minAutoSendConfidence : ℚ := 5404319552844595 / 9007199254740992

/-- `NEVER_AUTO_SEND_ACTIONS`. -/
def neverAutoSend (action : ActionType) : Bool :=
  action == .escalate || action == .addressObjection

/-- The reasons of `authorize_action`, each with its condition. -/
def reviewReasons
    (functions : PyFunctions)
    (proposal : NextActionProposal)
    (intent : ParsedIntent)
    (autoReplyEnabled : Bool) : List (Bool × Json) :=
  [(!autoReplyEnabled, .string "AUTO_REPLY_ENABLED is false"),
    (intent.confidence.lessThan minAutoSendConfidence,
      .string ("Classifier confidence too low (" ++
        functions.twoDecimals intent.confidence ++ ")")),
    (intent.requiresHumanReview.truth,
      intent.humanReviewReason.orNone.getD
        (.string "Semantic analysis requires human review")),
    (proposal.confidence.lessThan minAutoSendConfidence,
      .string ("Planner confidence too low (" ++
        functions.twoDecimals proposal.confidence ++ ")")),
    (proposal.requiresHumanReview,
      proposal.reviewReason.orNone.getD (.string "Planner requires human review")),
    (neverAutoSend proposal.actionType,
      .string ("Action type " ++ proposal.actionType.value ++
        " always requires human review")),
    (proposal.actionType == .provideRequestedInformation && intent.hasPricingQuestion.truth,
      .string "Pricing questions are never auto-answered without human review")]

/-- `AuthorizedAction`. -/
structure AuthorizedAction where
  canAutoSend : Bool
  reviewReason : Option String
  closing : Bool
  deriving DecidableEq, Repr

/-- `authorize_action`. -/
def authorizeAction
    (functions : PyFunctions)
    (proposal : NextActionProposal)
    (intent : ParsedIntent)
    (autoReplyEnabled : Bool) : Except String AuthorizedAction :=
  let reasons := ((reviewReasons functions proposal intent autoReplyEnabled).filter
    Prod.fst).map Prod.snd
  let closing := proposal.actionType == .proposeNextStep
  match reasons with
  | [] => .ok { canAutoSend := true, reviewReason := none, closing := closing }
  | _ => do
      let joined ← joinTexts "; " reasons
      pure { canAutoSend := false, reviewReason := some joined, closing := closing }

/-- What has to be true of an interpretation and a proposal for an automatic reply. -/
structure Authorized
    (proposal : NextActionProposal)
    (intent : ParsedIntent)
    (autoReplyEnabled : Bool) : Prop where
  enabled : autoReplyEnabled = true
  understood : intent.confidence.AtLeast minAutoSendConfidence
  unreviewed : intent.requiresHumanReview.truth = false
  planned : proposal.confidence.AtLeast minAutoSendConfidence
  unchecked : proposal.requiresHumanReview = false
  action : proposal.actionType ≠ .escalate ∧ proposal.actionType ≠ .addressObjection
  unpriced : ¬(proposal.actionType = .provideRequestedInformation ∧
    intent.hasPricingQuestion.truth = true)

/-- What the guardrails let through: a confidence is at least the bound, or it is not a
number. -/
structure LetThrough
    (proposal : NextActionProposal)
    (intent : ParsedIntent)
    (autoReplyEnabled : Bool) : Prop where
  enabled : autoReplyEnabled = true
  understood : intent.confidence.AtLeast minAutoSendConfidence ∨ intent.confidence = .nan
  unreviewed : intent.requiresHumanReview.truth = false
  planned : proposal.confidence.AtLeast minAutoSendConfidence ∨ proposal.confidence = .nan
  unchecked : proposal.requiresHumanReview = false
  action : proposal.actionType ≠ .escalate ∧ proposal.actionType ≠ .addressObjection
  unpriced : ¬(proposal.actionType = .provideRequestedInformation ∧
    intent.hasPricingQuestion.truth = true)

section Authorization

variable {functions : PyFunctions} {proposal : NextActionProposal} {intent : ParsedIntent}
variable {autoReplyEnabled : Bool}

theorem LetThrough.authorized
    (through : LetThrough proposal intent autoReplyEnabled)
    (understood : intent.confidence ≠ .nan)
    (planned : proposal.confidence ≠ .nan) :
    Authorized proposal intent autoReplyEnabled where
  enabled := through.enabled
  understood := through.understood.resolve_right understood
  unreviewed := through.unreviewed
  planned := through.planned.resolve_right planned
  unchecked := through.unchecked
  action := through.action
  unpriced := through.unpriced

theorem Authorized.numbers
    (authorized : Authorized proposal intent autoReplyEnabled) :
    intent.confidence ≠ .nan ∧ proposal.confidence ≠ .nan := by
  constructor
  · intro notNumber
    have understood := authorized.understood
    rw [notNumber] at understood
    exact PyFloat.not_atLeast_nan understood
  · intro notNumber
    have planned := authorized.planned
    rw [notNumber] at planned
    exact PyFloat.not_atLeast_nan planned

/-- The guardrails have no reason against an action if and only if they let it through. -/
theorem unopposed_iff_letThrough :
    (∀ reason ∈ reviewReasons functions proposal intent autoReplyEnabled,
        reason.1 = false) ↔ LetThrough proposal intent autoReplyEnabled := by
  unfold reviewReasons
  simp only [List.forall_mem_cons, PyFloat.lessThan_eq_false_iff, neverAutoSend]
  constructor
  · rintro ⟨enabled, confident, unreviewed, sure, unchecked, allowed, unpriced, -⟩
    simp only [Bool.or_eq_false_iff, beq_eq_false_iff_ne] at allowed
    refine ⟨by simpa using enabled, confident, unreviewed, sure, unchecked, allowed, ?_⟩
    rintro ⟨provides, priced⟩
    rw [provides, priced] at unpriced
    cases unpriced
  · rintro ⟨enabled, confident, unreviewed, sure, unchecked, ⟨noEscalation, noObjection⟩,
      unpriced⟩
    refine ⟨by simpa using enabled, confident, unreviewed, sure, unchecked, ?_, ?_, nofun⟩
    · simp [noEscalation, noObjection]
    · simpa using unpriced

theorem reasons_eq_nil_iff :
    ((reviewReasons functions proposal intent autoReplyEnabled).filter
      Prod.fst).map Prod.snd = [] ↔ LetThrough proposal intent autoReplyEnabled := by
  rw [← @unopposed_iff_letThrough functions]
  simp only [List.map_eq_nil_iff, List.filter_eq_nil_iff, Bool.not_eq_true]

/-- An action that may be sent automatically was let through. -/
theorem letThrough_of_canAutoSend
    {authorized : AuthorizedAction}
    (decided : authorizeAction functions proposal intent autoReplyEnabled = .ok authorized)
    (canAutoSend : authorized.canAutoSend = true) :
    LetThrough proposal intent autoReplyEnabled := by
  unfold authorizeAction at decided
  dsimp only at decided
  split at decided
  · next unopposed => exact reasons_eq_nil_iff.mp unopposed
  · cases joined : joinTexts "; " (((reviewReasons functions proposal intent
        autoReplyEnabled).filter Prod.fst).map Prod.snd) with
    | error failure =>
        rw [joined] at decided
        cases decided
    | ok text =>
        rw [joined] at decided
        cases decided
        cases canAutoSend

theorem authorizeAction_of_letThrough
    (through : LetThrough proposal intent autoReplyEnabled) :
    authorizeAction functions proposal intent autoReplyEnabled =
      .ok
        { canAutoSend := true
          reviewReason := none
          closing := proposal.actionType == .proposeNextStep } := by
  unfold authorizeAction
  dsimp only
  rw [reasons_eq_nil_iff.mpr through]

end Authorization

end Policy
end MailerAgent
