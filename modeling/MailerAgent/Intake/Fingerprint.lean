import MailerAgent.Models.Services

/-!
# Request fingerprints

The canonical JSON of the two intake routes: object members in key order,
separators without spaces, and strings escaped to ASCII as `json.dumps` does. The
fingerprint is the digest of that text.
-/

namespace MailerAgent
namespace Intake

/-- Lower-case hexadecimal digit. -/
def hexDigit (value : Nat) : Char :=
  if value < 10 then Char.ofNat (48 + value) else Char.ofNat (87 + value)

/-- Four hexadecimal digits. -/
def hexQuad (value : Nat) : List Char :=
  [hexDigit (value / 4096 % 16), hexDigit (value / 256 % 16),
    hexDigit (value / 16 % 16), hexDigit (value % 16)]

/-- An escaped UTF-16 code unit. -/
def unicodeEscape (value : Nat) : List Char :=
  '\\' :: 'u' :: hexQuad value

/-- `json.dumps` of one character with `ensure_ascii`. -/
def escapeCharacter (character : Char) : List Char :=
  let code := character.toNat
  if character = '"' then ['\\', '"']
  else if character = '\\' then ['\\', '\\']
  else if code = 8 then ['\\', 'b']
  else if code = 9 then ['\\', 't']
  else if code = 10 then ['\\', 'n']
  else if code = 12 then ['\\', 'f']
  else if code = 13 then ['\\', 'r']
  else if 32 ≤ code ∧ code ≤ 126 then [character]
  else if code < 0x10000 then unicodeEscape code
  else
    -- Outside the basic plane: a surrogate pair.
    unicodeEscape (0xd800 + (code - 0x10000) / 0x400) ++
      unicodeEscape (0xdc00 + (code - 0x10000) % 0x400)

/-- A JSON string. -/
def jsonString (text : String) : List Char :=
  '"' :: text.toList.flatMap escapeCharacter ++ ['"']

/-- A JSON string or `null`. -/
def jsonOptional : Option String → List Char
  | none => ['n', 'u', 'l', 'l']
  | some text => jsonString text

/-- One member of an object. -/
def jsonMember
    (name : String)
    (value : List Char) : List Char :=
  jsonString name ++ ':' :: value

/-- An object with its members in the given order. -/
def jsonObject (members : List (List Char)) : List Char :=
  '{' :: (members.intersperse [',']).flatten ++ ['}']

/-- Canonical JSON of an exact-message request. -/
def canonicalExact
    (externalActionId : Option String)
    (recipientEmail : String)
    (recipientName subject : Option String)
    (body : String) : String :=
  String.ofList (jsonObject
    [jsonMember "body" (jsonString body),
      jsonMember "external_action_id" (jsonOptional externalActionId),
      jsonMember "recipient_email" (jsonString recipientEmail),
      jsonMember "recipient_name" (jsonOptional recipientName),
      jsonMember "subject" (jsonOptional subject)])

/-- Canonical JSON of a generated-outreach request; the reply reference is a
member only for a reply. -/
def canonicalGenerated
    (externalActionId recipientEmail : String)
    (replyToMessageReference : Option String) : String :=
  String.ofList (jsonObject
    ([jsonMember "external_action_id" (jsonString externalActionId),
        jsonMember "kind" (jsonString "leadboost.generated_outreach.v1"),
        jsonMember "recipient_email" (jsonString recipientEmail)] ++
      (replyToMessageReference.map fun reference =>
        jsonMember "reply_to_message_reference" (jsonString reference)).toList))

/-- `_compute_request_fingerprint`. -/
def computeRequestFingerprint
    (services : Services)
    (externalActionId : Option String)
    (recipientEmail : String)
    (recipientName subject : Option String)
    (body : String) : String :=
  services.sha256Hex
    (canonicalExact externalActionId recipientEmail recipientName subject body)

/-- `_compute_generated_request_fingerprint`. -/
def computeGeneratedRequestFingerprint
    (services : Services)
    (externalActionId recipientEmail : String)
    (replyToMessageReference : Option String) : String :=
  services.sha256Hex
    (canonicalGenerated externalActionId recipientEmail replyToMessageReference)

end Intake
end MailerAgent
