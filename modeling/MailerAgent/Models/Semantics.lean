import Mathlib.Data.List.Basic

/-!
# Semantic results

What the classifier and the grounding validator hand to the deterministic code:
the interpretation of an inbound message and the validation of a draft against
approved sources. The fields are those that the modelled code reads.
-/

namespace MailerAgent

/-- Seconds and their fractions since the epoch, in microseconds, UTC. -/
abbrev Instant := Int

/-- `IntentType`. -/
inductive IntentType where
  | positiveInterest
  | question
  | objection
  | notInterested
  | meetingRequest
  | pricingRequest
  | informationRequest
  | outOfOffice
  | unsubscribe
  | referral
  | timingConstraint
  | neutral
  deriving DecidableEq, Repr

/-- The value of an intent, as it is stored and reported. -/
def IntentType.value : IntentType → String
  | positiveInterest => "positive_interest"
  | question => "question"
  | objection => "objection"
  | notInterested => "not_interested"
  | meetingRequest => "meeting_request"
  | pricingRequest => "pricing_request"
  | informationRequest => "information_request"
  | outOfOffice => "out_of_office"
  | unsubscribe => "unsubscribe"
  | referral => "referral"
  | timingConstraint => "timing_constraint"
  | neutral => "neutral"

/-- `BuyingStage`. -/
inductive BuyingStage where
  | unaware
  | aware
  | considering
  | evaluating
  | deciding
  | committed
  | rejected
  | nurture
  deriving DecidableEq, Repr

/-- `UrgencyLevel`. -/
inductive UrgencyLevel where
  | immediate
  | nearTerm
  | longTerm
  | noTimeline
  deriving DecidableEq, Repr

/-- `TimingSignal`. The target carries the instant that
`datetime.fromisoformat` reads from it, absent for an unparseable text. -/
structure TimingSignal where
  requiresClarification : Bool := false
  normalizedTarget : Option String := none
  parsedTarget : Option Instant := none
  deriving DecidableEq, Repr

/-- `SemanticIntent`. -/
structure SemanticIntent where
  intents : List IntentType := []
  buyingStage : BuyingStage := .unaware
  urgency : UrgencyLevel := .noTimeline
  timing : Option TimingSignal := none
  reasoning : String := ""
  deriving DecidableEq, Repr

/-- `ClassificationFailureReason`. -/
inductive ClassificationFailureReason where
  | providerUnavailable
  | rateLimited
  | timeout
  | malformedOutput
  | parseError
  | validationError
  | unknownError
  deriving DecidableEq, Repr

/-- The value of a reason. -/
def ClassificationFailureReason.value : ClassificationFailureReason → String
  | providerUnavailable => "provider_unavailable"
  | rateLimited => "rate_limited"
  | timeout => "timeout"
  | malformedOutput => "malformed_output"
  | parseError => "parse_error"
  | validationError => "validation_error"
  | unknownError => "unknown_error"

/-- `ClassificationResult`. -/
structure ClassificationResult where
  success : Bool
  semanticIntent : Option SemanticIntent := none
  failureReason : Option ClassificationFailureReason := none
  deriving DecidableEq, Repr

/-- `GroundingValidation`. -/
structure GroundingValidation where
  isGrounded : Bool
  unsupportedClaims : List String := []
  validationNotes : String := ""
  reviewRequired : Bool := false
  deriving DecidableEq, Repr

/-- Eligible for sending without a human in the loop. -/
def GroundingValidation.isSafeToSend (validation : GroundingValidation) : Bool :=
  validation.isGrounded && validation.unsupportedClaims.isEmpty &&
    !validation.reviewRequired

/-- Some claim is traceable to no approved source. -/
def GroundingValidation.hardBlock (validation : GroundingValidation) : Bool :=
  !validation.isGrounded || !validation.unsupportedClaims.isEmpty

/-- The approved sources of `validate_grounding`. -/
structure GroundingSources where
  proofPoints : Option String
  contextNotes : Option String
  conversationTranscript : Option String
  valueProp : Option String
  deriving DecidableEq, Repr

/-- What `draft_message` returns. -/
structure Draft where
  subject : Option String
  body : String
  grounding : Option GroundingValidation
  deriving DecidableEq, Repr

end MailerAgent
