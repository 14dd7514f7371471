import MailerAgent.Native.Session

/-!
# The fallback draft

`_draft_fallback` of `llm/agent.py`: the message of an initiated contact when no language
model writes it, from the fields of the campaign and the contact.
-/

namespace MailerAgent
namespace Policy

open Native

/-- `text or default`. -/
def orElse
    (text : Option String)
    (default : String) : String :=
  match text with
  | some present => if present.isEmpty then default else present
  | none => default

/-- `_draft_fallback`: the subject and the body. A contextual reply has none. -/
def draftFallback
    (campaign : Campaign)
    (contact : Contact)
    (action : DraftAction) :
    Except String (Option String × String) :=
  let name := orElse contact.name "there"
  let company := orElse contact.company "your company"
  let sender := campaign.senderName
  let org := campaign.senderOrg
  let offer := PyText.strip campaign.valueProp
  match action with
  | .initialOutreach =>
      .ok (some (org ++ " <> " ++ company),
        "Hi " ++ name ++ ",\n\n" ++
          "I'm " ++ sender ++ " with " ++ org ++ ". " ++ offer ++ "\n\n" ++
          "Worth a short call to see if it's relevant for " ++ company ++ "?\n\n" ++
          "Best,\n" ++ sender ++ "\n" ++ org)
  | .followUp =>
      .ok (none,
        "Hi " ++ name ++ ",\n\n" ++
          "Following up on my last note -- still think this could be worth " ++
          "a quick conversation for " ++ company ++ ". " ++ offer ++ "\n\n" ++
          "Happy to work around your schedule if you're open to a short call.\n\n" ++
          "Best,\n" ++ sender ++ "\n" ++ org)
  | .reply => .error "AssertionError"
  | .closing => .error "AssertionError"

end Policy
end MailerAgent
