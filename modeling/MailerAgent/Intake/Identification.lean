import MailerAgent.Foundation.Delimited
import MailerAgent.Intake.Requests

/-!
# Fingerprints identify requests

The escaped characters of a JSON string can be read back, so a JSON string ends where its
closing quote is. The canonical texts of the two routes determine the fields that they are
made of, and no text belongs to both routes.
-/

namespace MailerAgent
namespace Intake

open Delimited

/-! ## Reading escaped characters -/

/-- The value of a hexadecimal digit. -/
def hexValue (digit : Char) : Nat :=
  if digit.toNat < 58 then digit.toNat - 48 else digit.toNat - 87

/-- The value of four hexadecimal digits. -/
def quadValue (first second third fourth : Char) : Nat :=
  hexValue first * 4096 + hexValue second * 256 + hexValue third * 16 + hexValue fourth

/-- The escaped code unit at the start of a text, and the rest. -/
def readUnit : List Char → Option (Nat × List Char)
  | '\\' :: 'u' :: first :: second :: third :: fourth :: rest =>
      some (quadValue first second third fourth, rest)
  | _ => none

/-- The character of a code unit, or of it and the next one. -/
def readPair
    (unit : Nat)
    (rest : List Char) : Option (Char × List Char) :=
  if 0xd800 ≤ unit ∧ unit < 0xdc00 then
    (readUnit rest).map fun low =>
      (Char.ofNat (0x10000 + (unit - 0xd800) * 0x400 + (low.1 - 0xdc00)), low.2)
  else some (Char.ofNat unit, rest)

/-- The character that a short escape stands for. -/
def shortEscape : Char → Option Char
  | '"' => some '"'
  | '\\' => some '\\'
  | 'b' => some (Char.ofNat 8)
  | 't' => some (Char.ofNat 9)
  | 'n' => some (Char.ofNat 10)
  | 'f' => some (Char.ofNat 12)
  | 'r' => some (Char.ofNat 13)
  | _ => none

/-- The first character of the inside of a JSON string, and the rest. -/
def readCharacter : List Char → Option (Char × List Char)
  | [] => none
  | first :: rest =>
      if first = '\\' then
        match rest with
        | [] => none
        | second :: after =>
            match shortEscape second with
            | some character => some (character, after)
            | none => (readUnit (first :: rest)).bind fun unit => readPair unit.1 unit.2
      else some (first, rest)

theorem hexValue_hexDigit
    {value : Nat}
    (small : value < 16) :
    hexValue (hexDigit value) = value := by
  have all : ∀ value < 16, hexValue (hexDigit value) = value := by decide
  exact all value small

theorem readUnit_unicodeEscape
    {value : Nat}
    (small : value < 0x10000)
    (rest : List Char) :
    readUnit (unicodeEscape value ++ rest) = some (value, rest) := by
  have digits : quadValue (hexDigit (value / 4096 % 16)) (hexDigit (value / 256 % 16))
      (hexDigit (value / 16 % 16)) (hexDigit (value % 16)) = value := by
    unfold quadValue
    rw [hexValue_hexDigit (by omega), hexValue_hexDigit (by omega),
      hexValue_hexDigit (by omega), hexValue_hexDigit (by omega)]
    omega
  change some (quadValue _ _ _ _, rest) = _
  rw [digits]

theorem readCharacter_unicodeEscape
    {value : Nat}
    (small : value < 0x10000)
    (rest : List Char) :
    readCharacter (unicodeEscape value ++ rest) = readPair value rest := by
  change (readUnit (unicodeEscape value ++ rest)).bind (fun unit => readPair unit.1 unit.2) = _
  rw [readUnit_unicodeEscape small]
  rfl

/-- An escaped character is read back. -/
theorem readCharacter_escapeCharacter
    (character : Char)
    (rest : List Char) :
    readCharacter (escapeCharacter character ++ rest) = some (character, rest) := by
  have scalar : character.toNat < 0xd800 ∨
      (0xdfff < character.toNat ∧ character.toNat < 0x110000) := character.valid
  unfold escapeCharacter
  have code : ∀ {value : Nat}, character.toNat = value → Char.ofNat value = character :=
    fun same => same ▸ Char.ofNat_toNat character
  dsimp only
  split
  · next quote => rw [quote]; rfl
  split
  · next backslash => rw [backslash]; rfl
  split
  · next same => rw [← code same]; rfl
  split
  · next same => rw [← code same]; rfl
  split
  · next same => rw [← code same]; rfl
  split
  · next same => rw [← code same]; rfl
  split
  · next same => rw [← code same]; rfl
  split
  · next backslash _ _ _ _ _ _ =>
      change (if character = '\\' then _ else some (character, rest)) = _
      rw [if_neg backslash]
  split
  · next small =>
      rw [readCharacter_unicodeEscape small]
      unfold readPair
      rw [if_neg (by omega), Char.ofNat_toNat]
  · next large =>
      rw [List.append_assoc, readCharacter_unicodeEscape (by omega)]
      unfold readPair
      rw [if_pos (by omega), readUnit_unicodeEscape (by omega)]
      have joined : 0x10000 + (0xd800 + (character.toNat - 0x10000) / 0x400 - 0xd800) * 0x400 +
          (0xdc00 + (character.toNat - 0x10000) % 0x400 - 0xdc00) = character.toNat := by
        omega
      simp only [Option.map_some]
      rw [joined, Char.ofNat_toNat]

/-! ## Delimited parts -/

theorem escapeCharacter_delimited : IsDelimited escapeCharacter :=
  isDelimited_of_read readCharacter readCharacter_escapeCharacter

/-- A quote inside a string is escaped. -/
theorem escapeCharacter_neverStarts : NeverStarts escapeCharacter '"' := by
  intro character rest other same
  have read := readCharacter_escapeCharacter character rest
  rw [same] at read
  change some ('"', other) = _ at read
  obtain ⟨rfl, rfl⟩ := Prod.mk.inj (Option.some.inj read)
  exact absurd (List.cons.inj same).1 (by decide)

theorem jsonString_delimited : IsDelimited jsonString := by
  intro left right rest other same
  obtain ⟨characters, final⟩ :=
    isDelimited_until escapeCharacter_delimited escapeCharacter_neverStarts
      left.toList right.toList rest other (List.cons.inj same).2
  exact ⟨String.toList_injective characters, final⟩

theorem jsonString_neverStarts : NeverStarts jsonString 'n' := by
  intro text rest other same
  exact absurd (List.cons.inj same).1 (by decide)

theorem jsonOptional_delimited : IsDelimited jsonOptional := by
  have delimited : IsDelimited fun value : Option String =>
      value.elim ('n' :: ['u', 'l', 'l']) jsonString :=
    isDelimited_option jsonString_delimited jsonString_neverStarts
  intro left right rest other same
  refine delimited left right rest other ?_
  cases left <;> cases right <;> exact same

/-! ## The canonical texts -/

/-- What the exact-message route sends, as the fingerprint sees it. -/
structure ExactIdentity where
  externalActionId : Option String
  recipientEmail : String
  recipientName : Option String
  subject : Option String
  body : String
  deriving DecidableEq, Repr

/-- What the generated route identifies an operation by. -/
structure GeneratedIdentity where
  externalActionId : String
  recipientEmail : String
  replyToMessageReference : Option String
  deriving DecidableEq, Repr

/-- The canonical text of an exact-message request. -/
def ExactIdentity.canonical (identity : ExactIdentity) : String :=
  canonicalExact identity.externalActionId identity.recipientEmail identity.recipientName
    identity.subject identity.body

/-- The canonical text of a generated-outreach request. -/
def GeneratedIdentity.canonical (identity : GeneratedIdentity) : String :=
  canonicalGenerated identity.externalActionId identity.recipientEmail
    identity.replyToMessageReference

/-- A member of a canonical object determines its value. -/
theorem jsonMember_delimited
    {Value : Type}
    {encode : Value → List Char}
    (delimited : IsDelimited encode)
    (name : String) :
    IsDelimited fun value => jsonMember name (encode value) := by
  intro left right rest other same
  simp only [jsonMember, List.append_assoc, List.cons_append] at same
  exact delimited left right rest other (List.cons.inj (List.append_cancel_left same)).2

theorem canonicalExact_toList (identity : ExactIdentity) :
    identity.canonical.toList =
      '{' :: (jsonMember "body" (jsonString identity.body) ++
        (',' :: (jsonMember "external_action_id" (jsonOptional identity.externalActionId) ++
          (',' :: (jsonMember "recipient_email" (jsonString identity.recipientEmail) ++
            (',' :: (jsonMember "recipient_name" (jsonOptional identity.recipientName) ++
              (',' :: (jsonMember "subject" (jsonOptional identity.subject) ++
                ['}']))))))))) := by
  unfold ExactIdentity.canonical canonicalExact jsonObject
  rw [String.toList_ofList]
  simp only [List.intersperse, List.flatten_cons, List.flatten_nil, List.append_nil,
    List.cons_append, List.append_assoc, List.nil_append]

theorem canonicalGenerated_toList (identity : GeneratedIdentity) :
    identity.canonical.toList =
      '{' :: (jsonMember "external_action_id" (jsonString identity.externalActionId) ++
        (',' :: (jsonMember "kind" (jsonString "leadboost.generated_outreach.v1") ++
          (',' :: (jsonMember "recipient_email" (jsonString identity.recipientEmail) ++
            identity.replyToMessageReference.elim ['}'] fun reference =>
              ',' :: (jsonMember "reply_to_message_reference" (jsonString reference) ++
                ['}'])))))) := by
  unfold GeneratedIdentity.canonical canonicalGenerated jsonObject
  rw [String.toList_ofList]
  cases identity.replyToMessageReference with
  | none =>
      simp only [Option.map_none, Option.toList_none, List.append_nil, List.intersperse,
        List.flatten_cons, List.flatten_nil, List.cons_append, List.append_assoc,
        List.nil_append, Option.elim_none]
  | some reference =>
      simp only [Option.map_some, Option.toList_some, List.intersperse,
        List.flatten_cons, List.flatten_nil, List.cons_append, List.append_assoc,
        List.nil_append, List.append_nil, Option.elim_some]

theorem canonicalExact_injective : Function.Injective ExactIdentity.canonical := by
  intro left right same
  have texts := congrArg String.toList same
  rw [canonicalExact_toList, canonicalExact_toList] at texts
  obtain ⟨body, texts⟩ := jsonMember_delimited jsonString_delimited _ _ _ _ _
    (List.cons.inj texts).2
  obtain ⟨action, texts⟩ := jsonMember_delimited jsonOptional_delimited _ _ _ _ _
    (List.cons.inj texts).2
  obtain ⟨email, texts⟩ := jsonMember_delimited jsonString_delimited _ _ _ _ _
    (List.cons.inj texts).2
  obtain ⟨name, texts⟩ := jsonMember_delimited jsonOptional_delimited _ _ _ _ _
    (List.cons.inj texts).2
  obtain ⟨subject, -⟩ := jsonMember_delimited jsonOptional_delimited _ _ _ _ _
    (List.cons.inj texts).2
  cases left
  cases right
  simp only [ExactIdentity.mk.injEq]
  exact ⟨action, email, name, subject, body⟩

theorem canonicalGenerated_injective : Function.Injective GeneratedIdentity.canonical := by
  intro left right same
  have texts := congrArg String.toList same
  rw [canonicalGenerated_toList, canonicalGenerated_toList] at texts
  obtain ⟨action, texts⟩ := jsonMember_delimited jsonString_delimited _ _ _ _ _
    (List.cons.inj texts).2
  have kind := List.append_cancel_left (List.cons.inj texts).2
  obtain ⟨email, texts⟩ := jsonMember_delimited jsonString_delimited _ _ _ _ _
    (List.cons.inj kind).2
  have reference : left.replyToMessageReference = right.replyToMessageReference := by
    cases here : left.replyToMessageReference with
    | none =>
        cases there : right.replyToMessageReference with
        | none => rfl
        | some reference =>
            rw [here, there] at texts
            exact absurd (List.cons.inj texts).1 (by decide)
    | some reference =>
        cases there : right.replyToMessageReference with
        | none =>
            rw [here, there] at texts
            exact absurd (List.cons.inj texts).1 (by decide)
        | some other =>
            rw [here, there] at texts
            obtain ⟨same, -⟩ := jsonMember_delimited jsonString_delimited _ _ _ _ _
              (List.cons.inj texts).2
            rw [same]
  cases left
  cases right
  simp only [GeneratedIdentity.mk.injEq]
  exact ⟨action, email, reference⟩

/-- The first member name tells the routes apart. -/
theorem canonical_disjoint
    (given : ExactIdentity)
    (generated : GeneratedIdentity) :
    given.canonical ≠ generated.canonical := by
  intro same
  have texts := congrArg String.toList same
  rw [canonicalExact_toList, canonicalGenerated_toList] at texts
  simp only [jsonMember, List.append_assoc] at texts
  obtain ⟨name, -⟩ := jsonString_delimited _ _ _ _ (List.cons.inj texts).2
  exact absurd name (by decide)

/-! ## Requests -/

namespace OutreachRequest

/-- The route of a request with its identity fields. -/
def identity (request : OutreachRequest) : ExactIdentity ⊕ GeneratedIdentity :=
  match request.payload with
  | .exact payload =>
      .inl
        { externalActionId := payload.externalActionId
          recipientEmail := payload.recipientEmail
          recipientName := payload.recipientName
          subject := payload.subject
          body := payload.body }
  | .generated payload =>
      .inr
        { externalActionId := payload.externalActionId
          recipientEmail := payload.recipientEmail
          replyToMessageReference := payload.inReplyTo }

/-- The text that the fingerprint is the digest of. -/
def canonical (request : OutreachRequest) : String :=
  request.identity.elim ExactIdentity.canonical GeneratedIdentity.canonical

theorem fingerprint_eq
    (services : Services)
    (request : OutreachRequest) :
    request.fingerprint services = services.sha256Hex request.canonical := by
  unfold fingerprint canonical identity
  cases request.payload <;> rfl

theorem canonical_eq_iff {left right : OutreachRequest} :
    left.canonical = right.canonical ↔ left.identity = right.identity := by
  unfold canonical
  cases left.identity with
  | inl first =>
      cases right.identity with
      | inl second => simpa using canonicalExact_injective.eq_iff
      | inr second => simpa using canonical_disjoint first second
  | inr first =>
      cases right.identity with
      | inl second => simpa using (canonical_disjoint second first).symm
      | inr second => simpa using canonicalGenerated_injective.eq_iff

end OutreachRequest

/-- The canonical texts determine the identity fields and the route, and so do the
fingerprints of two requests whose texts do not collide. -/
theorem fingerprints_identify
    (services : Services)
    (left right : OutreachRequest)
    (collisionFree : services.sha256Hex left.canonical = services.sha256Hex right.canonical →
      left.canonical = right.canonical) :
    Function.Injective ExactIdentity.canonical ∧
      Function.Injective GeneratedIdentity.canonical ∧
      (∀ (given : ExactIdentity) (generated : GeneratedIdentity),
        given.canonical ≠ generated.canonical) ∧
      (left.fingerprint services = right.fingerprint services ↔
        left.identity = right.identity) := by
  refine ⟨canonicalExact_injective, canonicalGenerated_injective, canonical_disjoint, ?_⟩
  rw [OutreachRequest.fingerprint_eq, OutreachRequest.fingerprint_eq,
    ← OutreachRequest.canonical_eq_iff]
  exact ⟨collisionFree, congrArg services.sha256Hex⟩

namespace Sample

/-- A message with characters that are escaped. -/
def exactRequest : OutreachRequest where
  organizationId := "acme"
  payload := .exact
    { externalActionId := some "a-1", idempotencyKey := "k-1"
      recipientEmail := "kim@example.com", subject := some "Hi", body := "Hello € \"you\"" }

/-- A generated message of the same action. -/
def generatedRequest : OutreachRequest where
  organizationId := "acme"
  payload := .generated
    { externalActionId := "a-1", idempotencyKey := "k-1"
      recipientEmail := "kim@example.com", valueProposition := "" }

/-- The canonical text of `exactRequest`. -/
def exactText : String :=
  "\x7b\"body\":\"Hello \\u20ac \\\"you\\\"\",\"external_action_id\":\"a-1\"," ++
    "\"recipient_email\":\"kim@example.com\",\"recipient_name\":null,\"subject\":\"Hi\"\x7d"

/-- The canonical text of `generatedRequest`. -/
def generatedText : String :=
  "\x7b\"external_action_id\":\"a-1\",\"kind\":\"leadboost.generated_outreach.v1\"," ++
    "\"recipient_email\":\"kim@example.com\"\x7d"

/-- The SHA-256 digests of the two texts. -/
def digest (text : String) : String :=
  if text = exactText then
    "068896b8f5751bfe56c8512bf1d9bcecf91afe7744bb0c3f401a4c87ffab8077"
  else if text = generatedText then
    "3cf155d886e29cc05d91f4d96ef84243e8e0b575296ac945c90c1706075d4181"
  else ""

/-- Services with these digests. -/
def digesting : Services where
  validateGrounding _ _ := { isGrounded := true }
  decryptSecret := .plaintext
  encryptSecret := some
  sha256Hex := digest
  lower := id
  sqlLower := id
  validateEmail := some
  showInstant _ := ""
  showList _ := ""
  showMembers _ := ""
  loadsTimeZone := true
  buildConversationContext _ _ := ""

end Sample

theorem fingerprints_identify_routes :
    Sample.exactRequest.canonical = Sample.exactText ∧
      Sample.generatedRequest.canonical = Sample.generatedText ∧
      Sample.exactRequest.fingerprint Sample.digesting ≠
        Sample.generatedRequest.fingerprint Sample.digesting := by
  refine ⟨by decide +kernel, by decide +kernel, ?_⟩
  obtain ⟨-, -, -, same⟩ := fingerprints_identify Sample.digesting Sample.exactRequest
    Sample.generatedRequest (by decide +kernel)
  exact fun equal => absurd (same.mp equal) (by decide)

end Intake
end MailerAgent
