import MailerAgent.Models.Services

/-!
# The grounding of a draft

`draft_message` of `llm/agent.py`. The text comes from the language model or from the
deterministic fallback, and is arbitrary; whatever wrote it, `_run_grounding` validates
it against the approved sources before the draft is returned.
-/

namespace MailerAgent
namespace Policy

/-- What wrote the text of a draft, or why there is none. -/
inductive Written where
  | text (subject : Option String) (body : String)
  | contextualFallbackUnavailable
  | raised (exceptionName : String)
  deriving DecidableEq, Repr

/-- The members of a campaign and a contact that `_run_grounding` reads; the worker of
generated outreach passes objects that are stored nowhere. -/
structure Grounds where
  proofPoints : Option String
  contextNotes : Option String
  valueProp : String
  deriving DecidableEq, Repr

/-- The grounds of stored rows. -/
def Grounds.ofRows
    (campaign : Campaign)
    (contact : Contact) : Grounds where
  proofPoints := campaign.proofPoints
  contextNotes := contact.contextNotes
  valueProp := campaign.valueProp

/-- `_run_grounding`. -/
def runGrounding
    (services : Services)
    (grounds : Grounds)
    (contextTranscript : Option String)
    (body : String) : GroundingValidation :=
  services.validateGrounding body
    { proofPoints := grounds.proofPoints
      contextNotes := grounds.contextNotes
      conversationTranscript := contextTranscript
      valueProp := some grounds.valueProp }

/-- The draft that `draft_message` returns for a text. -/
def groundedDraft
    (services : Services)
    (grounds : Grounds)
    (contextTranscript : Option String)
    (subject : Option String)
    (body : String) : Draft where
  subject := subject
  body := body
  grounding := some (runGrounding services grounds contextTranscript body)

end Policy
end MailerAgent
