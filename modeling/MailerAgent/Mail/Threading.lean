import MailerAgent.Foundation.PyText
import Mathlib.Data.List.Basic

/-!
# Message-IDs, subjects and References

The deterministic threading helpers of `mail/imap_reader.py` and
`mail/reply_handler_v2.py`.
-/

namespace MailerAgent
namespace Mail

/-- `_RE_PREFIX.match`: optional whitespace, `re` in any case, optional
whitespace and a colon. -/
def hasReplyPrefix (subject : String) : Bool :=
  match subject.toList.dropWhile PyText.isSpace with
  | first :: second :: rest =>
      (first == 'r' || first == 'R') && (second == 'e' || second == 'E') &&
        (rest.dropWhile PyText.isSpace).head? == some ':'
  | _ => false

/-- `as_reply_subject`. -/
def asReplySubject (original : Option String) : String :=
  match original.filter fun text => text != "" with
  | none => "Re: our conversation"
  | some subject =>
      if hasReplyPrefix subject then PyText.strip subject
      else "Re: " ++ PyText.strip subject

/-- `SYNTHETIC_ID_PREFIX`. -/
def syntheticIdPrefix : String := "synthetic:"

/-- `is_synthetic_id`. -/
def isSyntheticId (value : Option String) : Bool :=
  value.any fun text => text.startsWith syntheticIdPrefix

/-- Characters that make a Message-ID unusable. -/
def unusableInMessageId (character : Char) : Bool :=
  PyText.isSpace character || character.toNat < 32 || character.toNat == 127

/-- `_usable_message_id`. -/
def usableMessageId (value : Option String) : Option String :=
  (value.map PyText.strip).filter fun text =>
    text != "" && !(998 < text.length) && !(text.toList.any unusableInMessageId)

/-- `_normalize_message_id`. -/
def normalizeMessageId (value : Option String) : Option String :=
  value.bind fun text =>
    if text = "" then some text
    else
      let stripped := PyText.strip text
      if stripped = "" then none
      else
        let opened := if stripped.startsWith "<" then stripped else "<" ++ stripped
        some (if opened.endsWith ">" then opened else opened ++ ">")

/-- The loop of `_build_references_header`: ids not seen before, in order. -/
def collectReferences : List String → List String → List String
  | _, [] => []
  | seen, id :: rest =>
      if id = "" ∨ id ∈ seen then collectReferences seen rest
      else id :: collectReferences (id :: seen) rest

/-- `_build_references_header`. -/
def buildReferencesHeader
    (parentReferences : List String)
    (parentInReplyTo parentMessageId : Option String) : Option String :=
  match collectReferences []
      (parentReferences ++ parentInReplyTo.toList ++ parentMessageId.toList) with
  | [] => none
  | ids => some (PyText.joinSpace ids)

/-- `InboundEmail`. -/
structure InboundEmail where
  fromEmail : String
  subject : String
  bodyText : String
  messageId : Option String := none
  inReplyTo : Option String := none
  references : List String := []
  toEmail : Option String := none
  autoSubmitted : Bool := false
  syntheticId : Option String := none
  deriving DecidableEq, Repr

/-- The normalization at the head of both inbound handlers. -/
def InboundEmail.normalized (email : InboundEmail) : InboundEmail :=
  { email with
    messageId := normalizeMessageId email.messageId
    inReplyTo := normalizeMessageId email.inReplyTo
    references := (email.references.filterMap fun reference =>
      normalizeMessageId (some reference)).filter fun reference => reference != "" }

/-- `" ".join(references) if references else None`. -/
def referencesText (references : List String) : Option String :=
  if references = [] then none else some (PyText.joinSpace references)

end Mail
end MailerAgent
