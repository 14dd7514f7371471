import MailerAgent.Config
import MailerAgent.Models.Database

/-!
# Functions taken as parameters

Library code, and rendering code whose text no modelled decision depends on. All
results hold for every choice of these functions.
-/

namespace MailerAgent

/-- How `decrypt_secret` ends. -/
inductive DecryptedSecret where
  | plaintext (value : String)
  | encryptionUnavailable (text : String)
  | undecryptable
  deriving DecidableEq, Repr

/-- A member of a lead payload: null, a text, or any other JSON value with its
`str` and its truth value. -/
inductive LeadValue where
  | null
  | text (value : String)
  | other (shown : String) (truth : Bool)
  deriving DecidableEq, Repr

namespace LeadValue

/-- Neither null nor the empty text. -/
def present : LeadValue → Bool
  | null => false
  | text value => value != ""
  | other _ _ => true

/-- The truth value. -/
def truth : LeadValue → Bool
  | null => false
  | text value => value != ""
  | other _ truth => truth

/-- `str(value)`. -/
def shown : LeadValue → String
  | null => "None"
  | text value => value
  | other shown _ => shown

end LeadValue

/-- The parameters of the model. -/
structure Services where
  /-- `validate_grounding` on a body and the approved sources. -/
  validateGrounding : String → GroundingSources → GroundingValidation
  /-- `decrypt_secret` with the configured key. -/
  decryptSecret : String → DecryptedSecret
  /-- `encrypt_secret` with the configured key, unavailable without one. -/
  encryptSecret : String → Option String
  /-- `hashlib.sha256(...).hexdigest()` of UTF-8 text. -/
  sha256Hex : String → String
  /-- `str.lower`. -/
  lower : String → String
  /-- `lower` of the database. -/
  sqlLower : String → String
  /-- `EmailStr` validation: the normalized address, or rejection. -/
  validateEmail : String → Option String
  /-- `str` of a stored timestamp. -/
  showInstant : Instant → String
  /-- `str` of a list of strings. -/
  showList : List String → String
  /-- `str` of a dictionary of lead members. -/
  showMembers : List (String × LeadValue) → String
  /-- Whether a `DateTime` column is loaded with a time zone. -/
  loadsTimeZone : Bool
  /-- `build_conversation_context` for a contact. -/
  buildConversationContext : Database → Nat → String

/-- A configured installation of the program. -/
structure Deployment where
  settings : Settings
  services : Services

end MailerAgent
