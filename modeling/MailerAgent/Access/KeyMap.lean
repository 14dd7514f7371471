import MailerAgent.Foundation.Json
import MailerAgent.Foundation.PyText
import Mathlib.Data.List.AList
import Mathlib.Data.List.Induction

/-!
# The credential map

`load_auth_config` of `api/deps.py` merges the credentials of three sources into one
dictionary and rejects the whole configuration where one credential, compared without
surrounding whitespace, names two organizations. A dictionary is an association list with
distinct keys; what `json.loads` reads from a text is a parameter.
-/

namespace MailerAgent
namespace Access

/-- A dictionary of texts. -/
abbrev Dictionary := AList fun _ : String => String

/-- `str.upper` and `str.lower`. -/
structure LetterCase where
  upper : String → String
  lower : String → String

/-! ## The JSON text -/

mutual

/-- Some object in a document repeats a member name. -/
def repeatsMember : Json → Bool
  | .array elements => anyRepeatsMember elements
  | .object members =>
      !decide (members.map Prod.fst).Nodup || anyMemberRepeats members
  | _ => false

/-- Some element does. -/
def anyRepeatsMember : List Json → Bool
  | [] => false
  | element :: elements => repeatsMember element || anyRepeatsMember elements

/-- The value of some member does. -/
def anyMemberRepeats : List (String × Json) → Bool
  | [] => false
  | (_, value) :: members => repeatsMember value || anyMemberRepeats members

end

/-- What the JSON grammar makes of a text: a document, whose objects keep all their
members, or an error after some objects, with their member names, were complete. -/
inductive Reading where
  | complete (document : Json)
  | broken (closed : List (List String))

/-- How `json.loads` with `_reject_duplicate_members` fails. -/
inductive LoadsError where
  | duplicateMember
  | decodeError
  deriving DecidableEq, Repr

/-- `json.loads(raw, object_pairs_hook=_reject_duplicate_members)`. -/
def loads
    (read : String → Reading)
    (raw : String) : Except LoadsError Json :=
  match read raw with
  | .complete document =>
      if repeatsMember document then .error .duplicateMember else .ok document
  | .broken closed =>
      if closed.any fun names => !decide names.Nodup then .error .duplicateMember
      else .error .decodeError

/-- The organization of an `ORG_KEY_MAP` entry, if it is valid. -/
def validOrg : Json → Option String
  | .string org => if (PyText.strip org).isEmpty then none else some org
  | .int number => some (toString number)
  | _ => none

/-- An entry of `ORG_KEY_MAP`, if it is valid. -/
def validEntry (member : String × Json) : Option (String × String) :=
  if (PyText.strip member.1).isEmpty then none
  else (validOrg member.2).map fun org => (member.1, org)

/-- `_parse_org_key_map`. -/
def parseOrgKeyMap
    (read : String → Reading)
    (raw : String) :
    Except String (List (String × String)) :=
  match loads read raw with
  | .error .duplicateMember =>
      .error ("ORG_KEY_MAP repeats the same key more than once " ++
        "(a JSON object may not contain duplicate keys)")
  | .error .decodeError => .error "ORG_KEY_MAP is set but is not valid JSON"
  | .ok (.object members) =>
      match members.mapM validEntry with
      | some entries => .ok entries
      | none =>
          .error ("ORG_KEY_MAP entries must map a non-empty string key " ++
            "to a non-empty string organization id")
  | .ok _ =>
      .error ("ORG_KEY_MAP must be a JSON object of the form " ++
        "\x7b\"<api_key>\": \"<org_id>\"\x7d")

/-! ## The sources -/

/-- The sources of credentials. -/
inductive Source where
  | legacy
  | orgKeys
  | orgKeyMap
  deriving DecidableEq, Repr

/-- The label of a source. -/
def Source.label : Source → String
  | legacy => "API_KEY (legacy)"
  | orgKeys => "ORG_KEYS_*"
  | orgKeyMap => "ORG_KEY_MAP"

/-- A configured credential: an element of `entries`. -/
structure Credential where
  source : Source
  key : String
  org : String
  deriving DecidableEq, Repr

/-- The credential without surrounding whitespace. -/
def Credential.normalized (credential : Credential) : String :=
  PyText.strip credential.key

/-- The credential of the legacy key. -/
def legacyCredentials (legacy : String) : List Credential :=
  if legacy.isEmpty then [] else [{ source := .legacy, key := legacy, org := "default" }]

/-- The credential of an environment variable, if it is an `ORG_KEYS_` one. -/
def orgKeysCredential
    (letters : LetterCase)
    (entry : Sigma fun _ : String => String) :
    Option Credential :=
  if "ORG_KEYS_".toList.isPrefixOf (letters.upper entry.1).toList &&
      !(PyText.strip entry.2).isEmpty then
    some
      { source := .orgKeys
        key := PyText.strip entry.2
        org := letters.lower (String.ofList (entry.1.toList.drop "ORG_KEYS_".length)) }
  else none

/-- The stripped value of `ORG_KEY_MAP`. -/
def orgKeyMapText (environ : Dictionary) : String :=
  PyText.strip ((environ.lookup "ORG_KEY_MAP").getD "")

/-- The entries of `ORG_KEY_MAP`, or its error. -/
def orgKeyMapEntries
    (read : String → Reading)
    (environ : Dictionary) :
    Except String (List (String × String)) :=
  if (orgKeyMapText environ).isEmpty then .ok []
  else parseOrgKeyMap read (orgKeyMapText environ)

/-- The text about a conflict of two sources. -/
def conflictText (first second : Source) : String :=
  let places :=
    if first = second then "within " ++ second.label
    else if first.label < second.label then
      "between " ++ first.label ++ ", " ++ second.label
    else "between " ++ second.label ++ ", " ++ first.label
  "One API key is configured for more than one organization (" ++ places ++
    "); a credential must identify exactly one tenant"

/-- The loop of `_credential_conflict`, with the owner of each credential seen. -/
def conflictWith (owner : AList fun _ : String => String × Source) :
    List Credential → Option String
  | [] => none
  | entry :: entries =>
      match owner.lookup entry.normalized with
      | none => conflictWith (owner.insert entry.normalized (entry.org, entry.source)) entries
      | some (firstOrg, firstSource) =>
          if firstOrg ≠ entry.org then some (conflictText firstSource entry.source)
          else conflictWith owner entries

/-- `_credential_conflict`. -/
def credentialConflict (entries : List Credential) : Option String :=
  conflictWith ∅ entries

/-! ## The configuration -/

/-- `AuthConfig`. -/
structure AuthConfig where
  keyMap : Dictionary := ∅
  error : Option String := none
  legacyKeyActive : Bool := false
  explicitKeysActive : Bool := false

/-- The dictionary that holds the credentials, later ones over earlier ones. -/
def mergeCredentials (entries : List Credential) : Dictionary :=
  entries.foldl (fun mapping entry => mapping.insert entry.key entry.org) ∅

/-- The credentials of all sources, in the order in which they are merged. -/
def configuredCredentials
    (letters : LetterCase)
    (environ : Dictionary)
    (legacy : String)
    (parsed : List (String × String)) : List Credential :=
  legacyCredentials legacy ++ environ.entries.filterMap (orgKeysCredential letters) ++
    parsed.map fun entry => { source := .orgKeyMap, key := entry.1, org := entry.2 }

/-- `load_auth_config`. The settings hold a legacy key that an argument replaces. -/
def loadAuthConfig
    (letters : LetterCase)
    (read : String → Reading)
    (settingsApiKey : String)
    (environ : Dictionary)
    (legacyApiKey : Option String) : AuthConfig :=
  let legacy := legacyApiKey.getD settingsApiKey
  match orgKeyMapEntries read environ with
  | .error error => { error := some error }
  | .ok parsed =>
      let entries := configuredCredentials letters environ legacy parsed
      match credentialConflict entries with
      | some conflict => { error := some conflict }
      | none =>
          { keyMap := mergeCredentials entries
            legacyKeyActive :=
              !legacy.isEmpty && ((mergeCredentials entries).lookup legacy).isSome
            explicitKeysActive :=
              !(environ.entries.filterMap (orgKeysCredential letters)).isEmpty ||
                !parsed.isEmpty }

/-- `_resolve_org`. -/
def resolveOrg
    (keyMap : Dictionary)
    (apiKey : String) : Option String :=
  keyMap.entries.foldl
    (fun matched entry => if apiKey == entry.1 then some entry.2 else matched) none

end Access
end MailerAgent
