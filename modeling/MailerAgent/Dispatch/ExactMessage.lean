import MailerAgent.Mail.Sender
import MailerAgent.Models.Services

/-!
# The exact-message boundary

`mail/exact_message.py`: the one message of an authorized operation, the handoff
to the sender, and the grounding check before it. Rows carry no key here, so the
functions take the keys they compare or print.
-/

namespace MailerAgent
namespace Dispatch

open Mail

/-- `create_authorized_message`; creation time and public handle are the column
defaults of the insertion. -/
def createAuthorizedMessage
    (contactId : Nat)
    (subject : Option String)
    (body : String)
    (createdAt : Instant)
    (replyReference : String) : Message where
  contactId := contactId
  direction := .outbound
  messageType := some .initial
  subject := subject
  body := body
  status := .draft
  createdAt := createdAt
  replyReference := some replyReference

/-- What a dispatcher may pass to `send_email`. -/
structure ExactSendInput where
  toEmail : String
  fromEmail : String
  fromName : String
  subject : String
  bodyText : String
  replyTo : Option String
  inReplyToHeader : Option String
  referencesHeader : Option String
  deriving DecidableEq, Repr

/-- `as_send_email_kwargs`: References are carried only with an In-Reply-To. -/
def ExactSendInput.asSendEmailKwargs (input : ExactSendInput) : SendEmailArguments where
  toEmail := input.toEmail
  fromEmail := input.fromEmail
  fromName := input.fromName
  subject := input.subject
  bodyText := input.bodyText
  replyTo := input.replyTo
  inReplyToHeader := truthy input.inReplyToHeader
  referencesHeader :=
    (truthy input.inReplyToHeader).bind fun _ => truthy input.referencesHeader

/-- `_assert_wired`, raising its text. -/
def assertWired
    (messageKey : Nat)
    (message : Message)
    (contactKey : Nat)
    (contact : Contact)
    (campaignKey : Nat) : Except String Unit :=
  if message.direction ≠ .outbound then
    .error ("message " ++ toString messageKey ++ " is not outbound")
  else if message.status ≠ .draft then
    .error ("message " ++ toString messageKey ++ " is not pre-send (status=" ++
      message.status.value ++ ")")
  else if message.contactId ≠ contactKey then
    .error ("message " ++ toString messageKey ++ " does not belong to contact " ++
      toString contactKey)
  else if contact.campaignId ≠ campaignKey then
    .error ("contact " ++ toString contactKey ++ " does not belong to campaign " ++
      toString campaignKey)
  else .ok ()

/-- `build_exact_send_input`. -/
def buildExactSendInput
    (messageKey : Nat)
    (message : Message)
    (contactKey : Nat)
    (contact : Contact)
    (campaignKey : Nat)
    (campaign : Campaign) : Except String ExactSendInput :=
  (assertWired messageKey message contactKey contact campaignKey).map fun _ =>
    { toEmail := contact.email
      fromEmail := campaign.senderEmail
      fromName := campaign.senderName
      subject := message.subject.getD ""
      bodyText := message.body
      replyTo := campaign.replyToEmail
      inReplyToHeader := message.inReplyToHeader
      referencesHeader := message.referencesHeader }

/-- `ExactGroundingDecision`. -/
structure ExactGroundingDecision where
  blocked : Bool
  reviewRequired : Bool
  errorMessage : Option String
  validation : GroundingValidation
  deriving DecidableEq, Repr

/-- The sources of the grounding check: the dispatch's own snapshot when it has
one, the campaign and contact otherwise. -/
def groundingSources
    (contact : Contact)
    (campaign : Campaign) :
    Option GroundingContext → GroundingSources
  | none =>
      { proofPoints := campaign.proofPoints
        contextNotes := contact.contextNotes
        conversationTranscript := none
        valueProp := some campaign.valueProp }
  | some snapshot =>
      { proofPoints := none
        contextNotes := snapshot.contextNotes
        conversationTranscript := snapshot.conversationTranscript
        valueProp := some snapshot.valueProp }

/-- `evaluate_exact_message_grounding`. -/
def evaluateExactMessageGrounding
    (services : Services)
    (messageKey : Nat)
    (message : Message)
    (contactKey : Nat)
    (contact : Contact)
    (campaignKey : Nat)
    (campaign : Campaign)
    (snapshot : Option GroundingContext) : Except String ExactGroundingDecision :=
  (assertWired messageKey message contactKey contact campaignKey).map fun _ =>
    let validation :=
      services.validateGrounding message.body (groundingSources contact campaign snapshot)
    { blocked := validation.hardBlock
      reviewRequired := validation.reviewRequired
      errorMessage :=
        if validation.hardBlock then
          some ("Message failed grounding safety check and was not sent: " ++
            validation.validationNotes ++ ". Unsupported/fabricated claims: " ++
            services.showList validation.unsupportedClaims ++ ".")
        else none
      validation := validation }

end Dispatch
end MailerAgent
