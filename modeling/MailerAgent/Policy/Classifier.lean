import MailerAgent.Foundation.Json
import MailerAgent.Models.Semantics

/-!
# The interpretation that decides

The enumerations of `semantic_models.py` as the classifier names their members, and the
part of an interpretation that the decisions about a reply read. Members of the wrong kind
are passed on as they are.
-/

namespace MailerAgent
namespace Policy

/-- The `IntentType` of a value. -/
def intentType : String → Option IntentType
  | "positive_interest" => some .positiveInterest
  | "question" => some .question
  | "objection" => some .objection
  | "not_interested" => some .notInterested
  | "meeting_request" => some .meetingRequest
  | "pricing_request" => some .pricingRequest
  | "information_request" => some .informationRequest
  | "out_of_office" => some .outOfOffice
  | "unsubscribe" => some .unsubscribe
  | "referral" => some .referral
  | "timing_constraint" => some .timingConstraint
  | "neutral" => some .neutral
  | _ => none

/-- The `BuyingStage` of a value. -/
def buyingStage : String → Option BuyingStage
  | "unaware" => some .unaware
  | "aware" => some .aware
  | "considering" => some .considering
  | "evaluating" => some .evaluating
  | "deciding" => some .deciding
  | "committed" => some .committed
  | "rejected" => some .rejected
  | "nurture" => some .nurture
  | _ => none

/-- The `UrgencyLevel` of a value. -/
def urgencyLevel : String → Option UrgencyLevel
  | "immediate" => some .immediate
  | "near_term" => some .nearTerm
  | "long_term" => some .longTerm
  | "no_timeline" => some .noTimeline
  | _ => none

/-- A member of an enumeration of texts; any other value is none. -/
def enumMember
    {Value : Type}
    (named : String → Option Value) : Json → Option Value
  | .string text => named text
  | _ => none

/-- The part of a `SemanticIntent` that decides about automatic replies, with the
members that are passed on as they are. -/
structure ParsedIntent extends SemanticIntent where
  hasPricingQuestion : Json
  unresolvedItems : Json
  confidence : PyFloat
  requiresHumanReview : Json
  humanReviewReason : Json

/-- The texts of a value, as an interpretation records them. -/
def recordedText (functions : PyFunctions) : Json → String
  | .string text => text
  | value => functions.str value

end Policy
end MailerAgent
