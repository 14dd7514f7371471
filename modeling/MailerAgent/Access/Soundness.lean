import Mathlib.Data.Set.Insert
import MailerAgent.Access.KeyMap

/-!
# Soundness of the credential map

The configured credentials are a set that is read off the environment and the legacy key. A
configuration without an error gives every credential to one organization, and a presented
key resolves to the organization of a configured credential or to none. A conflict or a bad
`ORG_KEY_MAP` empties the map. The order of the environment does not matter.
-/

namespace MailerAgent
namespace Access

variable {letters : LetterCase} {read : String → Reading} {entries : List Credential}

/-! ## What is configured -/

/-- Some object in a document has two members of one name. -/
inductive RepeatsMember : Json → Prop where
  | here {members : List (String × Json)} (repeated : ¬(members.map Prod.fst).Nodup) :
      RepeatsMember (.object members)
  | element {elements : List Json} {element : Json} (inside : element ∈ elements)
      (repeats : RepeatsMember element) : RepeatsMember (.array elements)
  | value {members : List (String × Json)} {member : String × Json} (inside : member ∈ members)
      (repeats : RepeatsMember member.2) : RepeatsMember (.object members)

/-- The organization that a value names: a text that is not blank, or a whole number. -/
inductive NamesOrg : Json → String → Prop where
  | text {org : String} (filled : PyText.strip org ≠ "") : NamesOrg (.string org) org
  | number (number : Int) : NamesOrg (.int number) (toString number)

/-- A JSON object of keys that are not blank and organizations, no member twice. -/
def WellFormed
    (read : String → Reading)
    (raw : String) : Prop :=
  ∃ members, read raw = .complete (.object members) ∧ ¬RepeatsMember (.object members) ∧
    ∀ member ∈ members, PyText.strip member.1 ≠ "" ∧ ∃ org, NamesOrg member.2 org

/-- `ORG_KEY_MAP` is set to a text that is malformed or repeats a member. -/
def BadOrgKeyMap
    (read : String → Reading)
    (environ : Dictionary) : Prop :=
  ∃ raw, environ.lookup "ORG_KEY_MAP" = some raw ∧ PyText.strip raw ≠ "" ∧
    ¬WellFormed read (PyText.strip raw)

/-- A configured credential: the legacy key, the value of an `ORG_KEYS_` variable, or a
member of `ORG_KEY_MAP`. -/
inductive Configured
    (letters : LetterCase)
    (read : String → Reading)
    (environ : Dictionary)
    (legacy : String) : Credential → Prop where
  | legacy (filled : legacy ≠ "") :
      Configured letters read environ legacy
        { source := .legacy, key := legacy, org := "default" }
  | orgKeys {name value : String} (assigned : environ.lookup name = some value)
      (named : "ORG_KEYS_".toList <+: (letters.upper name).toList)
      (filled : PyText.strip value ≠ "") :
      Configured letters read environ legacy
        { source := .orgKeys
          key := PyText.strip value
          org := letters.lower (String.ofList (name.toList.drop "ORG_KEYS_".length)) }
  | orgKeyMap {raw key org : String} {members : List (String × Json)} {value : Json}
      (assigned : environ.lookup "ORG_KEY_MAP" = some raw) (shown : PyText.strip raw ≠ "")
      (document : read (PyText.strip raw) = .complete (.object members))
      (member : (key, value) ∈ members) (filled : PyText.strip key ≠ "")
      (names : NamesOrg value org) :
      Configured letters read environ legacy { source := .orgKeyMap, key := key, org := org }

/-- The configured credentials. -/
def configured
    (letters : LetterCase)
    (read : String → Reading)
    (environ : Dictionary)
    (legacy : String) : Set Credential :=
  fun credential => Configured letters read environ legacy credential

/-- Credentials that are equal without surrounding whitespace name one organization. -/
def Consistent (entries : List Credential) : Prop :=
  ∀ left ∈ entries, ∀ right ∈ entries, left.normalized = right.normalized →
    left.org = right.org

/-! ## Conflicts -/

/-- The owners seen so far agree with what is to come. -/
def AgreesWith
    (owner : AList fun _ : String => String × Source)
    (entries : List Credential) : Prop :=
  ∀ entry ∈ entries, ∀ known, owner.lookup entry.normalized = some known →
    known.1 = entry.org

theorem agreesWith_insert_iff
    {owner : AList fun _ : String => String × Source}
    {entry : Credential}
    (fresh : owner.lookup entry.normalized = none) :
    AgreesWith (owner.insert entry.normalized (entry.org, entry.source)) entries ↔
      AgreesWith owner entries ∧
        ∀ other ∈ entries, entry.normalized = other.normalized → entry.org = other.org := by
  constructor
  · intro agrees
    refine ⟨fun other member known found => ?_, fun other member same => ?_⟩
    · refine agrees other member known ?_
      rw [AList.lookup_insert_ne, found]
      rintro same
      rw [same, fresh] at found
      cases found
    · exact agrees other member (entry.org, entry.source) (same ▸ AList.lookup_insert owner)
  · rintro ⟨agrees, same⟩ other member known found
    by_cases equal : entry.normalized = other.normalized
    · rw [← equal, AList.lookup_insert] at found
      obtain rfl := Option.some.inj found
      exact same other member equal
    · rw [AList.lookup_insert_ne (Ne.symm equal)] at found
      exact agrees other member known found

theorem consistent_cons_iff {entry : Credential} :
    Consistent (entry :: entries) ↔
      Consistent entries ∧
        ∀ other ∈ entries, entry.normalized = other.normalized → entry.org = other.org := by
  constructor
  · intro consistent
    exact ⟨fun left memberLeft right memberRight =>
        consistent left (List.mem_cons_of_mem _ memberLeft) right
          (List.mem_cons_of_mem _ memberRight),
      fun other member => consistent entry List.mem_cons_self other
        (List.mem_cons_of_mem _ member)⟩
  · rintro ⟨consistent, first⟩ left memberLeft right memberRight same
    rcases List.mem_cons.mp memberLeft with rfl | laterLeft
    · rcases List.mem_cons.mp memberRight with rfl | laterRight
      · rfl
      · exact first right laterRight same
    · rcases List.mem_cons.mp memberRight with rfl | laterRight
      · exact (first left laterLeft same.symm).symm
      · exact consistent left laterLeft right laterRight same

/-- The loop accepts what agrees with the owners and with itself. -/
theorem conflictWith_eq_none_iff {owner : AList fun _ : String => String × Source} :
    conflictWith owner entries = none ↔ AgreesWith owner entries ∧ Consistent entries := by
  induction entries generalizing owner with
  | nil => simp [conflictWith, AgreesWith, Consistent]
  | cons entry entries inductionHypothesis =>
      rw [consistent_cons_iff]
      have head : AgreesWith owner (entry :: entries) ↔
          (∀ known, owner.lookup entry.normalized = some known → known.1 = entry.org) ∧
            AgreesWith owner entries := List.forall_mem_cons
      rw [head]
      unfold conflictWith
      cases found : owner.lookup entry.normalized with
      | none =>
          dsimp only
          rw [inductionHypothesis, agreesWith_insert_iff found]
          simp only [reduceCtorEq, false_implies, implies_true, true_and]
          tauto
      | some known =>
          obtain ⟨firstOrg, firstSource⟩ := known
          dsimp only
          by_cases same : firstOrg = entry.org
          · rw [if_neg (not_not.mpr same), inductionHypothesis]
            have owned : AgreesWith owner entries → ∀ other ∈ entries,
                entry.normalized = other.normalized → entry.org = other.org :=
              fun agrees other member equal =>
                same.symm.trans (agrees other member _ (equal ▸ found))
            simp only [Option.some.injEq, forall_eq', same, true_and]
            tauto
          · rw [if_pos same]
            simp [same]

theorem credentialConflict_eq_none_iff :
    credentialConflict entries = none ↔ Consistent entries := by
  unfold credentialConflict
  rw [conflictWith_eq_none_iff]
  refine and_iff_right ?_
  intro entry _ known found
  rw [AList.lookup_empty] at found
  cases found

/-! ## The merged dictionary -/

/-- The last entry with a key decides. -/
theorem lookup_mergeCredentials
    (key : String)
    (entries : List Credential) :
    (mergeCredentials entries).lookup key =
      ((entries.filter fun entry => entry.key == key).getLast?).map Credential.org := by
  unfold mergeCredentials
  induction entries using List.reverseRecOn with
  | nil => rfl
  | append_singleton entries last inductionHypothesis =>
      rw [List.foldl_append, List.foldl_cons, List.foldl_nil, List.filter_append]
      by_cases same : last.key = key
      · subst same
        rw [AList.lookup_insert]
        simp
      · rw [AList.lookup_insert_ne (Ne.symm same), inductionHypothesis]
        simp [same]

/-- Among consistent credentials, any entry with a key decides. -/
theorem lookup_mergeCredentials_iff
    (consistent : Consistent entries)
    {key org : String} :
    (mergeCredentials entries).lookup key = some org ↔
      ∃ entry ∈ entries, entry.key = key ∧ entry.org = org := by
  rw [lookup_mergeCredentials]
  constructor
  · intro found
    obtain ⟨entry, last, rfl⟩ := Option.map_eq_some_iff.mp found
    have member := List.mem_filter.mp (List.mem_of_getLast? last)
    exact ⟨entry, member.1, beq_iff_eq.mp member.2, rfl⟩
  · rintro ⟨entry, member, rfl, rfl⟩
    have inside : entry ∈ entries.filter fun other => other.key == entry.key :=
      List.mem_filter.mpr ⟨member, beq_self_eq_true _⟩
    obtain ⟨last, found⟩ := List.getLast?_isSome.mpr (List.ne_nil_of_mem inside) |>
      Option.isSome_iff_exists.mp
    have other := List.mem_filter.mp (List.mem_of_getLast? found)
    rw [found, Option.map_some]
    refine congrArg some (consistent last other.1 entry member ?_)
    exact congrArg PyText.strip (beq_iff_eq.mp other.2)

/-- The search through all entries finds what the dictionary holds. -/
theorem resolveOrg_eq_lookup
    (keyMap : Dictionary)
    (apiKey : String) :
    resolveOrg keyMap apiKey = keyMap.lookup apiKey := by
  suffices search : ∀ (entries : List (Sigma fun _ : String => String)) (matched : Option String),
      entries.NodupKeys →
        entries.foldl
            (fun matched entry => if apiKey == entry.1 then some entry.2 else matched) matched =
          (entries.dlookup apiKey).or matched by
    unfold resolveOrg
    rw [search _ _ keyMap.nodupKeys, Option.or_none]
    rfl
  intro entries
  induction entries with
  | nil => intro matched _; rfl
  | cons entry entries inductionHypothesis =>
      intro matched distinct
      obtain ⟨key, org⟩ := entry
      obtain ⟨fresh, rest⟩ := List.nodupKeys_cons.mp distinct
      rw [List.foldl_cons, inductionHypothesis _ rest]
      by_cases same : apiKey = key
      · subst same
        rw [List.dlookup_cons_eq, List.dlookup_eq_none.mpr fresh]
        simp
      · rw [List.dlookup_cons_ne _ _ same]
        simp [same]

/-! ## The text of `ORG_KEY_MAP` -/

mutual

theorem repeatsMember_iff : ∀ document, repeatsMember document = true ↔ RepeatsMember document
  | .array elements => by
      rw [repeatsMember, anyRepeatsMember_iff elements]
      constructor
      · rintro ⟨element, inside, repeats⟩
        exact .element inside repeats
      · rintro (_ | ⟨inside, repeats⟩)
        exact ⟨_, inside, repeats⟩
  | .object members => by
      rw [repeatsMember, Bool.or_eq_true, anyMemberRepeats_iff members]
      constructor
      · rintro (repeated | ⟨member, inside, repeats⟩)
        · exact .here (by simpa using repeated)
        · exact .value inside repeats
      · rintro (repeated | _ | ⟨inside, repeats⟩)
        · exact .inl (by simpa using repeated)
        · exact .inr ⟨_, inside, repeats⟩
  | .null => iff_of_false (by simp [repeatsMember]) nofun
  | .bool _ => iff_of_false (by simp [repeatsMember]) nofun
  | .int _ => iff_of_false (by simp [repeatsMember]) nofun
  | .float _ => iff_of_false (by simp [repeatsMember]) nofun
  | .string _ => iff_of_false (by simp [repeatsMember]) nofun

theorem anyRepeatsMember_iff : ∀ elements,
    anyRepeatsMember elements = true ↔ ∃ element ∈ elements, RepeatsMember element
  | [] => by simp [anyRepeatsMember]
  | element :: elements => by
      rw [anyRepeatsMember, Bool.or_eq_true, repeatsMember_iff element,
        anyRepeatsMember_iff elements]
      simp

theorem anyMemberRepeats_iff : ∀ members,
    anyMemberRepeats members = true ↔ ∃ member ∈ members, RepeatsMember member.2
  | [] => by simp [anyMemberRepeats]
  | (name, value) :: members => by
      rw [anyMemberRepeats, Bool.or_eq_true, repeatsMember_iff value,
        anyMemberRepeats_iff members]
      simp

end

theorem validOrg_eq_some_iff
    {value : Json}
    {org : String} :
    validOrg value = some org ↔ NamesOrg value org := by
  constructor
  · intro valid
    cases value with
    | string text =>
        simp only [validOrg, Option.ite_none_left_eq_some, Option.some.injEq] at valid
        obtain ⟨filled, rfl⟩ := valid
        exact .text (by simpa using filled)
    | int number =>
        obtain rfl := Option.some.inj valid
        exact .number number
    | null => cases valid
    | bool value => cases valid
    | float value => cases valid
    | array elements => cases valid
    | object members => cases valid
  · rintro (⟨filled⟩ | number)
    · simp [validOrg, filled]
    · rfl

theorem validEntry_eq_some_iff
    {member : String × Json}
    {entry : String × String} :
    validEntry member = some entry ↔
      PyText.strip member.1 ≠ "" ∧ NamesOrg member.2 entry.2 ∧ member.1 = entry.1 := by
  unfold validEntry
  simp only [Option.ite_none_left_eq_some, String.isEmpty_iff, Option.map_eq_some_iff,
    validOrg_eq_some_iff]
  constructor
  · rintro ⟨filled, org, names, rfl⟩
    exact ⟨filled, names, rfl⟩
  · rintro ⟨filled, names, same⟩
    exact ⟨filled, entry.2, names, by rw [same]⟩

/-- All entries are valid, or the object is rejected as a whole. -/
theorem mapM_validEntry_eq_some_iff {members : List (String × Json)} :
    (∃ entries, members.mapM validEntry = some entries) ↔
      ∀ member ∈ members, PyText.strip member.1 ≠ "" ∧ ∃ org, NamesOrg member.2 org := by
  induction members with
  | nil => simp
  | cons member members inductionHypothesis =>
      rw [List.mapM_cons, List.forall_mem_cons, ← inductionHypothesis]
      cases first : validEntry member with
      | none =>
          have invalid : ¬(PyText.strip member.1 ≠ "" ∧ ∃ org, NamesOrg member.2 org) := by
            rintro ⟨filled, org, names⟩
            rw [(@validEntry_eq_some_iff member (member.1, org)).mpr
              ⟨filled, names, rfl⟩] at first
            cases first
          simp [invalid]
      | some entry =>
          obtain ⟨filled, names, -⟩ := validEntry_eq_some_iff.mp first
          cases members.mapM validEntry with
          | none => simp
          | some entries =>
              have valid : PyText.strip member.1 ≠ "" ∧ ∃ org, NamesOrg member.2 org :=
                ⟨filled, _, names⟩
              simp [valid]

/-- The valid entries are the members with their organizations. -/
theorem mem_of_mapM_validEntry
    {members : List (String × Json)}
    {entries : List (String × String)}
    (valid : members.mapM validEntry = some entries)
    {entry : String × String} :
    entry ∈ entries ↔
      ∃ member ∈ members, PyText.strip member.1 ≠ "" ∧ NamesOrg member.2 entry.2 ∧
        member.1 = entry.1 := by
  induction members generalizing entries with
  | nil =>
      cases valid
      simp
  | cons member members inductionHypothesis =>
      simp only [List.mapM_cons, Option.bind_eq_bind, Option.bind_eq_some_iff, Option.pure_def,
        Option.some.injEq] at valid
      obtain ⟨first, head, rest, tail, rfl⟩ := valid
      rw [List.mem_cons, inductionHypothesis tail, List.exists_mem_cons_iff,
        ← validEntry_eq_some_iff, head, Option.some.injEq, eq_comm]

theorem loads_eq_ok_iff
    {raw : String}
    {document : Json} :
    loads read raw = .ok document ↔
      read raw = .complete document ∧ ¬RepeatsMember document := by
  unfold loads
  cases read raw with
  | broken closed =>
      dsimp only
      split <;> simp
  | complete other =>
      simp only [Reading.complete.injEq, ← repeatsMember_iff]
      cases repeats : repeatsMember other with
      | true =>
          simp only [if_true, reduceCtorEq, false_iff, not_and, not_not]
          rintro rfl
          exact repeats
      | false =>
          simp only [Bool.false_eq_true, if_false, Except.ok.injEq]
          refine ⟨?_, And.left⟩
          rintro rfl
          exact ⟨rfl, by simp [repeats]⟩

theorem parseOrgKeyMap_eq_ok_iff
    {raw : String}
    {parsed : List (String × String)} :
    parseOrgKeyMap read raw = .ok parsed ↔
      ∃ members, read raw = .complete (.object members) ∧ ¬RepeatsMember (.object members) ∧
        members.mapM validEntry = some parsed := by
  unfold parseOrgKeyMap
  cases loaded : loads read raw with
  | error error =>
      have unread : ∀ members, ¬(read raw = .complete (.object members) ∧
          ¬RepeatsMember (.object members)) := by
        intro members document
        rw [loads_eq_ok_iff.mpr document] at loaded
        cases loaded
      refine iff_of_false (by cases error <;> simp) ?_
      rintro ⟨members, document, unique, -⟩
      exact unread members ⟨document, unique⟩
  | ok document =>
      obtain ⟨complete, unique⟩ := loads_eq_ok_iff.mp loaded
      rw [complete]
      cases document with
      | object members =>
          simp only [Reading.complete.injEq, Json.object.injEq, exists_eq_left', unique,
            not_false_eq_true, true_and]
          cases members.mapM validEntry with
          | none => simp
          | some entries => simp
      | null => simp
      | bool value => simp
      | int number => simp
      | float value => simp
      | string text => simp
      | array elements => simp

/-- Exactly the well-formed texts are parsed. -/
theorem parseOrgKeyMap_ok_iff {raw : String} :
    (∃ parsed, parseOrgKeyMap read raw = .ok parsed) ↔ WellFormed read raw := by
  unfold WellFormed
  simp only [parseOrgKeyMap_eq_ok_iff, ← mapM_validEntry_eq_some_iff]
  constructor
  · rintro ⟨parsed, members, document, unique, valid⟩
    exact ⟨members, document, unique, parsed, valid⟩
  · rintro ⟨members, document, unique, parsed, valid⟩
    exact ⟨parsed, members, document, unique, valid⟩

/-! ## The configuration as a whole -/

/-- All configured credentials; a bad `ORG_KEY_MAP` has none. -/
def allCredentials
    (letters : LetterCase)
    (read : String → Reading)
    (environ : Dictionary)
    (legacy : String) : List Credential :=
  configuredCredentials letters environ legacy
    (match orgKeyMapEntries read environ with
    | .ok parsed => parsed
    | .error _ => [])

/-- What the credential map promises for an environment and a legacy key. -/
structure CredentialMapSound
    (letters : LetterCase)
    (read : String → Reading)
    (settingsApiKey : String)
    (environ : Dictionary)
    (legacyApiKey : Option String)
    (credentials : Set Credential)
    (config : AuthConfig) : Prop where
  oneOrganization : config.error = none →
    ∀ left ∈ credentials, ∀ right ∈ credentials,
      PyText.strip left.key = PyText.strip right.key → left.org = right.org
  resolvesConfigured : config.error = none → ∀ presented org,
    resolveOrg config.keyMap presented = some org →
      ∃ credential ∈ credentials, credential.key = presented ∧ credential.org = org
  resolvesEvery : config.error = none → ∀ credential ∈ credentials,
    resolveOrg config.keyMap credential.key = some credential.org
  rejectsConflict :
    (∃ left ∈ credentials, ∃ right ∈ credentials,
      PyText.strip left.key = PyText.strip right.key ∧ left.org ≠ right.org) →
      config.keyMap = ∅ ∧ config.error ≠ none
  rejectsBadMap : BadOrgKeyMap read environ → config.keyMap = ∅ ∧ config.error ≠ none
  unordered : ∀ other : Dictionary, environ.entries.Perm other.entries →
    let reordered := loadAuthConfig letters read settingsApiKey other legacyApiKey
    (∀ key, reordered.keyMap.lookup key = config.keyMap.lookup key) ∧
      reordered.error.isSome = config.error.isSome

variable {settingsApiKey legacy : String} {environ other : Dictionary}
  {legacyApiKey : Option String}

/-- The variable is set to a text that is not blank, or it counts as missing. -/
theorem orgKeyMapText_cases (environ : Dictionary) :
    (∃ raw, environ.lookup "ORG_KEY_MAP" = some raw ∧ PyText.strip raw ≠ "" ∧
        orgKeyMapText environ = PyText.strip raw) ∨
      orgKeyMapText environ = "" ∧
        ∀ raw, environ.lookup "ORG_KEY_MAP" = some raw → PyText.strip raw = "" := by
  unfold orgKeyMapText
  cases environ.lookup "ORG_KEY_MAP" with
  | none => exact .inr ⟨by decide, nofun⟩
  | some raw =>
      by_cases filled : PyText.strip raw = ""
      · exact .inr ⟨filled, fun other same => Option.some.inj same ▸ filled⟩
      · exact .inl ⟨raw, rfl, filled, rfl⟩

theorem orgKeyMapEntries_ok_iff :
    (∃ parsed, orgKeyMapEntries read environ = .ok parsed) ↔ ¬BadOrgKeyMap read environ := by
  unfold orgKeyMapEntries BadOrgKeyMap
  rcases orgKeyMapText_cases environ with ⟨raw, assigned, filled, text⟩ | ⟨text, blank⟩
  · rw [text, if_neg (by simpa using filled), parseOrgKeyMap_ok_iff, assigned]
    simp [filled]
  · rw [text, if_pos (by decide)]
    refine iff_of_true ⟨[], rfl⟩ ?_
    rintro ⟨raw, assigned, filled, -⟩
    exact filled (blank raw assigned)

/-! ## The credentials that are collected -/

theorem mem_legacyCredentials_iff {credential : Credential} :
    credential ∈ legacyCredentials legacy ↔
      legacy ≠ "" ∧ credential = { source := .legacy, key := legacy, org := "default" } := by
  unfold legacyCredentials
  by_cases empty : legacy = ""
  · simp [empty]
  · simp [empty]

theorem mem_orgKeysCredentials_iff {credential : Credential} :
    credential ∈ environ.entries.filterMap (orgKeysCredential letters) ↔
      ∃ name value, environ.lookup name = some value ∧
        "ORG_KEYS_".toList <+: (letters.upper name).toList ∧ PyText.strip value ≠ "" ∧
        credential =
          { source := .orgKeys
            key := PyText.strip value
            org := letters.lower (String.ofList (name.toList.drop "ORG_KEYS_".length)) } := by
  have entry : ∀ name value, environ.lookup name = some value ↔
      (⟨name, value⟩ : Sigma fun _ : String => String) ∈ environ.entries :=
    fun name value => AList.mem_lookup_iff
  simp only [List.mem_filterMap, Sigma.exists, orgKeysCredential, entry]
  constructor
  · rintro ⟨name, value, inside, made⟩
    simp only [Option.ite_none_right_eq_some, Bool.and_eq_true, List.isPrefixOf_iff_prefix,
      Bool.not_eq_true', Option.some.injEq, String.isEmpty_eq_false_iff] at made
    obtain ⟨⟨named, filled⟩, rfl⟩ := made
    exact ⟨name, value, inside, named, filled, rfl⟩
  · rintro ⟨name, value, inside, named, filled, rfl⟩
    have listed : ("ORG_KEYS_".toList.isPrefixOf (letters.upper name).toList &&
        !(PyText.strip value).isEmpty) = true := by
      rw [List.isPrefixOf_iff_prefix.mpr named, String.isEmpty_eq_false_iff.mpr filled]
      rfl
    exact ⟨name, value, inside, if_pos listed⟩

theorem mem_orgKeyMapEntries
    {parsed : List (String × String)}
    (parses : orgKeyMapEntries read environ = .ok parsed)
    {entry : String × String} :
    entry ∈ parsed ↔
      ∃ raw, environ.lookup "ORG_KEY_MAP" = some raw ∧ PyText.strip raw ≠ "" ∧
        ∃ members, read (PyText.strip raw) = .complete (.object members) ∧
          ∃ value, (entry.1, value) ∈ members ∧ PyText.strip entry.1 ≠ "" ∧
            NamesOrg value entry.2 := by
  unfold orgKeyMapEntries at parses
  rcases orgKeyMapText_cases environ with ⟨raw, assigned, filled, text⟩ | ⟨text, blank⟩
  · rw [text, if_neg (by simpa using filled), parseOrgKeyMap_eq_ok_iff] at parses
    obtain ⟨members, document, -, valid⟩ := parses
    simp only [mem_of_mapM_validEntry valid, assigned, Option.some.injEq, exists_eq_left', document,
      Reading.complete.injEq, Json.object.injEq, ne_eq, filled, not_false_eq_true, true_and]
    constructor
    · rintro ⟨⟨key, value⟩, member, keyed, names, rfl⟩
      exact ⟨value, member, keyed, names⟩
    · rintro ⟨value, member, keyed, names⟩
      exact ⟨_, member, keyed, names, rfl⟩
  · rw [text, if_pos (by decide)] at parses
    cases parses
    refine iff_of_false List.not_mem_nil ?_
    rintro ⟨raw, assigned, filled, -⟩
    exact filled (blank raw assigned)

/-- The collected credentials are the configured ones. -/
theorem mem_allCredentials_iff
    (good : ¬BadOrgKeyMap read environ)
    {credential : Credential} :
    credential ∈ allCredentials letters read environ legacy ↔
      credential ∈ configured letters read environ legacy := by
  obtain ⟨parsed, parses⟩ := orgKeyMapEntries_ok_iff.mpr good
  unfold allCredentials configuredCredentials
  rw [parses]
  simp only [List.mem_append, mem_legacyCredentials_iff, mem_orgKeysCredentials_iff,
    List.mem_map, mem_orgKeyMapEntries parses]
  constructor
  · rintro ((⟨filled, rfl⟩ | ⟨name, value, assigned, named, filled, rfl⟩) |
      ⟨⟨key, org⟩, ⟨raw, assigned, shown, members, document, value, member, filled, names⟩, rfl⟩)
    · exact .legacy filled
    · exact .orgKeys assigned named filled
    · exact .orgKeyMap assigned shown document member filled names
  · rintro (⟨filled⟩ | ⟨assigned, named, filled⟩ |
      ⟨assigned, shown, document, member, filled, names⟩)
    · exact .inl (.inl ⟨filled, rfl⟩)
    · exact .inl (.inr ⟨_, _, assigned, named, filled, rfl⟩)
    · exact .inr ⟨(_, _), ⟨_, assigned, shown, _, document, _, member, filled, names⟩, rfl⟩

/-- How the configuration comes about. -/
theorem loadAuthConfig_cases
    (letters : LetterCase)
    (read : String → Reading)
    (settingsApiKey : String)
    (environ : Dictionary)
    (legacyApiKey : Option String) :
    let config := loadAuthConfig letters read settingsApiKey environ legacyApiKey
    let credentials := allCredentials letters read environ (legacyApiKey.getD settingsApiKey)
    (config.keyMap = ∅ ∧ config.error ≠ none ∧
        (BadOrgKeyMap read environ ∨ ¬Consistent credentials)) ∨
      (config.keyMap = mergeCredentials credentials ∧ config.error = none ∧
        ¬BadOrgKeyMap read environ ∧ Consistent credentials) := by
  unfold loadAuthConfig allCredentials
  cases parsing : orgKeyMapEntries read environ with
  | error error =>
      left
      refine ⟨rfl, nofun, .inl (by_contra fun good => ?_)⟩
      obtain ⟨parsed, parses⟩ := orgKeyMapEntries_ok_iff.mpr good
      rw [parsing] at parses
      cases parses
  | ok parsed =>
      dsimp only
      cases conflict : credentialConflict (configuredCredentials letters environ
          (legacyApiKey.getD settingsApiKey) parsed) with
      | some text =>
          left
          refine ⟨rfl, nofun, .inr fun consistent => ?_⟩
          rw [credentialConflict_eq_none_iff.mpr consistent] at conflict
          cases conflict
      | none =>
          exact .inr ⟨rfl, rfl, orgKeyMapEntries_ok_iff.mp ⟨parsed, parsing⟩,
            credentialConflict_eq_none_iff.mp conflict⟩

/-! ## The order of the environment -/

theorem orgKeyMapText_perm (same : environ.entries.Perm other.entries) :
    orgKeyMapText other = orgKeyMapText environ := by
  unfold orgKeyMapText
  rw [AList.perm_lookup same]

theorem badOrgKeyMap_perm (same : environ.entries.Perm other.entries) :
    BadOrgKeyMap read other ↔ BadOrgKeyMap read environ := by
  unfold BadOrgKeyMap
  rw [AList.perm_lookup same]

/-- The credentials are the same, in another order. -/
theorem mem_allCredentials_perm
    (same : environ.entries.Perm other.entries)
    {credential : Credential} :
    credential ∈ allCredentials letters read other legacy ↔
      credential ∈ allCredentials letters read environ legacy := by
  unfold allCredentials configuredCredentials orgKeyMapEntries
  rw [orgKeyMapText_perm same]
  simp only [List.mem_append, (same.filterMap _).mem_iff]

theorem consistent_perm (same : environ.entries.Perm other.entries) :
    Consistent (allCredentials letters read other legacy) ↔
      Consistent (allCredentials letters read environ legacy) := by
  unfold Consistent
  simp only [mem_allCredentials_perm same]

/-- Consistent credentials in another order make the same dictionary. -/
theorem lookup_perm
    (same : environ.entries.Perm other.entries)
    (consistent : Consistent (allCredentials letters read environ legacy))
    (key : String) :
    (mergeCredentials (allCredentials letters read other legacy)).lookup key =
      (mergeCredentials (allCredentials letters read environ legacy)).lookup key := by
  refine Option.ext fun org => ?_
  rw [lookup_mergeCredentials_iff consistent,
    lookup_mergeCredentials_iff ((consistent_perm same).mpr consistent)]
  simp only [mem_allCredentials_perm same]

/-- Every configuration keeps the promises of the credential map, about the credentials that
are configured. -/
theorem credential_map_sound
    (letters : LetterCase)
    (read : String → Reading)
    (settingsApiKey : String)
    (environ : Dictionary)
    (legacyApiKey : Option String) :
    CredentialMapSound letters read settingsApiKey environ legacyApiKey
      (configured letters read environ (legacyApiKey.getD settingsApiKey))
      (loadAuthConfig letters read settingsApiKey environ legacyApiKey) := by
  have reorders : ∀ other : Dictionary, environ.entries.Perm other.entries →
      let reordered := loadAuthConfig letters read settingsApiKey other legacyApiKey
      let config := loadAuthConfig letters read settingsApiKey environ legacyApiKey
      (∀ key, reordered.keyMap.lookup key = config.keyMap.lookup key) ∧
        reordered.error.isSome = config.error.isSome := by
    intro other same
    have here := loadAuthConfig_cases letters read settingsApiKey environ legacyApiKey
    have there := loadAuthConfig_cases letters read settingsApiKey other legacyApiKey
    simp only [badOrgKeyMap_perm same, consistent_perm same] at there
    rcases here with ⟨empty, failed, reason⟩ | ⟨merged, clean, good, consistent⟩
    · rcases there with ⟨emptyToo, failedToo, -⟩ | ⟨-, -, good, consistent⟩
      · refine ⟨fun key => by rw [empty, emptyToo], ?_⟩
        rw [Option.isSome_iff_ne_none.mpr failed, Option.isSome_iff_ne_none.mpr failedToo]
      · exact (reason.elim good (absurd consistent)).elim
    · rcases there with ⟨-, -, reason⟩ | ⟨mergedToo, cleanToo, -, -⟩
      · exact (reason.elim good (absurd consistent)).elim
      · refine ⟨fun key => ?_, by rw [clean, cleanToo]⟩
        rw [merged, mergedToo]
        exact lookup_perm same consistent key
  rcases loadAuthConfig_cases letters read settingsApiKey environ legacyApiKey with
    ⟨empty, failed, -⟩ | ⟨merged, clean, good, consistent⟩
  · exact
      { oneOrganization := fun clean => absurd clean failed
        resolvesConfigured := fun clean => absurd clean failed
        resolvesEvery := fun clean => absurd clean failed
        rejectsConflict := fun _ => ⟨empty, failed⟩
        rejectsBadMap := fun _ => ⟨empty, failed⟩
        unordered := reorders }
  · have collected : ∀ credential,
        credential ∈ configured letters read environ (legacyApiKey.getD settingsApiKey) ↔
          credential ∈ allCredentials letters read environ (legacyApiKey.getD settingsApiKey) :=
      fun credential => (mem_allCredentials_iff good).symm
    refine
      { oneOrganization := fun _ left memberLeft right memberRight => ?_
        resolvesConfigured := fun _ presented org resolved => ?_
        resolvesEvery := fun _ credential member => ?_
        rejectsConflict := ?_
        rejectsBadMap := fun bad => absurd bad good
        unordered := reorders }
    · exact consistent left ((collected left).mp memberLeft) right
        ((collected right).mp memberRight)
    · rw [resolveOrg_eq_lookup, merged] at resolved
      obtain ⟨credential, member, owned⟩ := (lookup_mergeCredentials_iff consistent).mp resolved
      exact ⟨credential, (collected credential).mpr member, owned⟩
    · rw [resolveOrg_eq_lookup, merged]
      exact (lookup_mergeCredentials_iff consistent).mpr
        ⟨credential, (collected credential).mp member, rfl, rfl⟩
    · rintro ⟨left, memberLeft, right, memberRight, same, different⟩
      exact absurd (consistent left ((collected left).mp memberLeft) right
        ((collected right).mp memberRight) same) different

end Access
end MailerAgent
