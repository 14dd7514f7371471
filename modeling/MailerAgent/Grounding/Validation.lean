import MailerAgent.Grounding.Claims
import MailerAgent.Dispatch.ExactMessage

/-!
# Validation of a draft against approved sources

`validate_grounding` of `llm/grounding.py`: each claim of a draft is looked up in the
lower-case text of the approved sources. A claim is supported exactly when its numerals
stand alone in one of the sources and guarantee wording has a counterpart in one, so more
sources never block more.
-/

namespace MailerAgent
namespace Grounding

open Regex Occurrences

variable (classes : CharacterClasses)

/-! ## The lookup -/

/-- The approved sources that are not empty, in lower case. -/
def approvedTexts (sources : List (Option String)) : List String :=
  (sources.filterMap fun source => source.filter fun text => !text.isEmpty).map classes.lower

/-- `_build_approved_corpus`. -/
def buildApprovedCorpus (sources : List (Option String)) : String :=
  PyText.joinSpace (approvedTexts classes sources)

/-- `_numeric_value_in_corpus`. -/
def numericValueInCorpus (numeric corpus : String) : Bool :=
  (Pattern.wholeWord numeric.toList).search classes.isWord corpus.toList

/-- `needle in text`. -/
def contains (needle text : String) : Bool :=
  decide (needle.toList <:+: text.toList)

/-- `claim.startswith(start)`. -/
def startsWith (start claim : String) : Bool :=
  start.toList.isPrefixOf claim.toList

/-- The decision about one claim. -/
def claimSupported (corpus claim : String) : Bool :=
  let numerics := extractNumeric classes claim
  let supported :=
    if !numerics.isEmpty && !corpus.isEmpty then
      numerics.all fun numeric => numericValueInCorpus classes numeric corpus
    else if corpus.isEmpty then numerics.isEmpty
    else true
  if startsWith "guarantee:" claim && !contains "guarantee" corpus &&
      !contains "warrant" corpus then
    false
  else supported

/-- The sources of a check, in the order of the corpus. -/
def sourceList (sources : GroundingSources) : List (Option String) :=
  [sources.proofPoints, sources.contextNotes, sources.conversationTranscript,
    sources.valueProp]

/-- The notes about language that a human reviews. -/
def reviewNotes (body : String) : List String :=
  (if pricingTerms.search classes.isWord body.toList then
      ["Draft contains pricing/cost/availability language — requires human review."]
    else []) ++
    if availabilityPattern.search classes.isWord body.toList then
      ["Draft contains availability/launch timeline claim — requires human review."]
    else []

/-- `validate_grounding`. -/
def validateGrounding
    (body : String)
    (sources : GroundingSources) : GroundingValidation :=
  let corpus := buildApprovedCorpus classes (sourceList sources)
  let unsupported := (extractFactualClaims classes body).filter fun claim =>
    !claimSupported classes corpus claim
  let notes := reviewNotes classes body
  { isGrounded := unsupported.isEmpty
    unsupportedClaims := unsupported
    validationNotes :=
      if !notes.isEmpty then String.intercalate "; " notes
      else if !unsupported.isEmpty then
        toString unsupported.length ++ " unsupported claim(s) found"
      else "All claims traceable to approved source material"
    reviewRequired := !notes.isEmpty }

/-! ## Supported claims -/

variable {classes}

/-- A text stands alone in another one: it occurs with word boundaries on both sides. -/
def StandsAlone
    (classes : CharacterClasses)
    (numeral text : String) : Prop :=
  Occurs (Bounded classes.isWord numeral.toList) numeral.toList text.toList

/-- A claim that a text supports: its numerals stand alone there, and if it is about a
guarantee, the text mentions one. -/
structure Supports
    (classes : CharacterClasses)
    (text claim : String) : Prop where
  numerals : ∀ numeral ∈ extractNumeric classes claim, StandsAlone classes numeral text
  guarantee : startsWith "guarantee:" claim = true →
    "guarantee".toList <:+: text.toList ∨ "warrant".toList <:+: text.toList

theorem numericValueInCorpus_iff {numeric corpus : String} :
    numericValueInCorpus classes numeric corpus = true ↔
      StandsAlone classes numeric corpus :=
  search_wholeWord_iff

theorem not_standsAlone_empty
    {claim numeral : String}
    (member : numeral ∈ extractNumeric classes claim) :
    ¬StandsAlone classes numeral "" := by
  rintro ⟨before, after, split, -⟩
  have empty := (List.append_eq_nil_iff.mp split.symm).2
  exact numeral_ne_nil member (List.append_eq_nil_iff.mp empty).1

/-- The branches of the lookup agree on what is supported. -/
theorem claimSupported_iff {corpus claim : String} :
    claimSupported classes corpus claim = true ↔ Supports classes corpus claim := by
  have numerals : (if !(extractNumeric classes claim).isEmpty && !corpus.isEmpty then
        (extractNumeric classes claim).all fun numeric =>
          numericValueInCorpus classes numeric corpus
      else if corpus.isEmpty then (extractNumeric classes claim).isEmpty
      else true) = true ↔
      ∀ numeral ∈ extractNumeric classes claim, StandsAlone classes numeral corpus := by
    cases numberless : (extractNumeric classes claim).isEmpty with
    | true =>
        have empty := List.isEmpty_iff.mp numberless
        simp [empty]
    | false =>
        cases blank : corpus.isEmpty with
        | true =>
            obtain ⟨numeral, member⟩ :=
              List.exists_mem_of_ne_nil _ (List.isEmpty_eq_false_iff.mp numberless)
            have nothing := not_standsAlone_empty member
            rw [String.isEmpty_iff.mp blank]
            simp only [Bool.not_false, Bool.not_true, Bool.and_false, Bool.false_eq_true,
              if_false, if_true, false_iff, not_forall]
            exact ⟨numeral, member, nothing⟩
        | false => simp [numericValueInCorpus_iff]
  unfold claimSupported
  dsimp only
  constructor
  · intro supported
    split at supported
    · cases supported
    · next covered =>
        refine ⟨numerals.mp supported, fun wording => ?_⟩
        rw [wording] at covered
        simp only [Bool.true_and, Bool.and_eq_true, Bool.not_eq_true', contains,
          decide_eq_false_iff_not, not_and_or, not_not] at covered
        exact covered
  · rintro ⟨alone, guarantee⟩
    rw [if_neg]
    · exact numerals.mpr alone
    · intro wording
      simp only [Bool.and_eq_true, Bool.not_eq_true', contains,
        decide_eq_false_iff_not] at wording
      obtain ⟨⟨starts, noGuarantee⟩, noWarrant⟩ := wording
      exact (guarantee starts).elim noGuarantee noWarrant

/-- A draft is blocked for a claim without support. -/
theorem hardBlock_eq_false_iff
    {body : String}
    {sources : GroundingSources} :
    (validateGrounding classes body sources).hardBlock = false ↔
      ∀ claim ∈ extractFactualClaims classes body,
        Supports classes (buildApprovedCorpus classes (sourceList sources)) claim := by
  simp [GroundingValidation.hardBlock, validateGrounding, claimSupported_iff]

/-! ## More sources -/

/-- A source that is missing or empty. -/
def Absent (source : Option String) : Prop :=
  ∀ text, source = some text → text.isEmpty = true

/-- The sources of one check are those of another one, apart from absent ones. -/
structure Supplies (fewer more : GroundingSources) : Prop where
  proofPoints : Absent fewer.proofPoints ∨ fewer.proofPoints = more.proofPoints
  contextNotes : Absent fewer.contextNotes ∨ fewer.contextNotes = more.contextNotes
  conversationTranscript : Absent fewer.conversationTranscript ∨
    fewer.conversationTranscript = more.conversationTranscript
  valueProp : Absent fewer.valueProp ∨ fewer.valueProp = more.valueProp

variable {fewer more : GroundingSources}

theorem present_of_supplied
    {source supplied : Option String}
    {text : String}
    (present : some text = source)
    (nonempty : text.isEmpty = false)
    (supply : Absent source ∨ source = supplied) :
    some text = supplied := by
  rcases supply with absent | same
  · rw [absent text present.symm] at nonempty
    cases nonempty
  · exact present.trans same

theorem approvedTexts_subset (supplies : Supplies fewer more) :
    approvedTexts classes (sourceList fewer) ⊆ approvedTexts classes (sourceList more) := by
  refine List.map_subset _ fun text member => ?_
  obtain ⟨source, inside, present⟩ := List.mem_filterMap.mp member
  obtain ⟨rfl, kept⟩ := Option.filter_eq_some_iff.mp present
  have nonempty : text.isEmpty = false := by simpa using kept
  refine List.mem_filterMap.mpr ⟨some text, ?_, present⟩
  simp only [sourceList, List.mem_cons, List.not_mem_nil, or_false] at inside ⊢
  rcases inside with here | here | here | here
  · exact .inl (present_of_supplied here nonempty supplies.proofPoints)
  · exact .inr (.inl (present_of_supplied here nonempty supplies.contextNotes))
  · exact .inr (.inr (.inl
      (present_of_supplied here nonempty supplies.conversationTranscript)))
  · exact .inr (.inr (.inr (present_of_supplied here nonempty supplies.valueProp)))

theorem corpus_toList (sources : List (Option String)) :
    (buildApprovedCorpus classes sources).toList =
      [' '].intercalate ((approvedTexts classes sources).map String.toList) := by
  unfold buildApprovedCorpus PyText.joinSpace
  rw [String.toList_intercalate]
  rfl

/-- An occurrence in a corpus is one in every larger corpus. -/
theorem occurs_corpus_mono
    {fits : Option Char → Option Char → Prop}
    {word : List Char}
    (separates : Separates fits ' ')
    (spared : ' ' ∉ word)
    (nonempty : word ≠ [])
    (supplies : Supplies fewer more)
    (occurs : Occurs fits word (buildApprovedCorpus classes (sourceList fewer)).toList) :
    Occurs fits word (buildApprovedCorpus classes (sourceList more)).toList := by
  rw [corpus_toList] at occurs ⊢
  exact occurs.intercalate_mono separates spared nonempty
    (List.map_subset _ (approvedTexts_subset supplies))

/-- A space is no word character. -/
theorem isWord_space : classes.isWord ' ' = false := by
  unfold CharacterClasses.isWord
  rw [classes.space_not_isAlnum]
  rfl

theorem standsAlone_mono
    {claim numeral : String}
    (member : numeral ∈ extractNumeric classes claim)
    (supplies : Supplies fewer more)
    (alone : StandsAlone classes numeral (buildApprovedCorpus classes (sourceList fewer))) :
    StandsAlone classes numeral (buildApprovedCorpus classes (sourceList more)) := by
  refine occurs_corpus_mono (separates_bounded (numeral_ne_nil member) isWord_space) ?_
    (numeral_ne_nil member) supplies alone
  intro space
  rcases mem_numeral member space with decimal | point
  · exact absurd (classes.decimal_isAlnum ' ' decimal)
      (Bool.eq_false_iff.mp classes.space_not_isAlnum)
  · exact absurd point (by decide)

theorem infix_corpus_mono
    {word : List Char}
    (spared : ' ' ∉ word)
    (nonempty : word ≠ [])
    (supplies : Supplies fewer more)
    (inside : word <:+: (buildApprovedCorpus classes (sourceList fewer)).toList) :
    word <:+: (buildApprovedCorpus classes (sourceList more)).toList := by
  rw [← occurs_true_iff] at inside ⊢
  exact occurs_corpus_mono separates_true spared nonempty supplies inside

/-- A supported claim stays supported when sources are supplied. -/
theorem Supports.mono
    {claim : String}
    (supplies : Supplies fewer more)
    (supported : Supports classes (buildApprovedCorpus classes (sourceList fewer)) claim) :
    Supports classes (buildApprovedCorpus classes (sourceList more)) claim where
  numerals numeral member := standsAlone_mono member supplies (supported.numerals numeral member)
  guarantee wording :=
    (supported.guarantee wording).imp
      (infix_corpus_mono (by decide) (by decide) supplies)
      (infix_corpus_mono (by decide) (by decide) supplies)

/-- A draft that is not blocked stays so when sources are supplied. -/
theorem hardBlock_mono
    {body : String}
    (supplies : Supplies fewer more)
    (passed : (validateGrounding classes body fewer).hardBlock = false) :
    (validateGrounding classes body more).hardBlock = false :=
  hardBlock_eq_false_iff.mpr fun claim member =>
    (hardBlock_eq_false_iff.mp passed claim member).mono supplies

theorem absent_none : Absent none := by
  intro text present
  cases present

/-- A transcript is the only source that the exact-message check lacks. -/
theorem supplies_transcript
    (contact : Contact)
    (campaign : Campaign)
    (transcript : Option String) :
    Supplies (Dispatch.groundingSources contact campaign none)
      { Dispatch.groundingSources contact campaign none with
        conversationTranscript := transcript } where
  proofPoints := .inr rfl
  contextNotes := .inr rfl
  conversationTranscript := .inl absent_none
  valueProp := .inr rfl

/-- More sources support more claims and block fewer drafts; so the exact-message check,
which has no transcript, blocks whatever is blocked with one. -/
theorem grounding_monotone (classes : CharacterClasses) :
    (∀ (body : String) (fewer more : GroundingSources), Supplies fewer more →
      (∀ claim ∈ extractFactualClaims classes body,
        claimSupported classes (buildApprovedCorpus classes (sourceList fewer)) claim = true →
          claimSupported classes (buildApprovedCorpus classes (sourceList more)) claim =
            true) ∧
        ((validateGrounding classes body fewer).hardBlock = false →
          (validateGrounding classes body more).hardBlock = false)) ∧
      ∀ (services : Services) (messageKey contactKey campaignKey : Nat) (message : Message)
        (contact : Contact) (campaign : Campaign) (transcript : Option String)
        (decision : Dispatch.ExactGroundingDecision),
        Dispatch.evaluateExactMessageGrounding
            { services with validateGrounding := validateGrounding classes }
            messageKey message contactKey contact campaignKey campaign none = .ok decision →
          (validateGrounding classes message.body
            { Dispatch.groundingSources contact campaign none with
              conversationTranscript := transcript }).hardBlock = true →
          decision.blocked = true := by
  refine ⟨fun body fewer more supplies => ⟨fun claim _ supported => ?_, hardBlock_mono supplies⟩,
    ?_⟩
  · exact claimSupported_iff.mpr ((claimSupported_iff.mp supported).mono supplies)
  · intro services messageKey contactKey campaignKey message contact campaign transcript decision
      decided blocked
    unfold Dispatch.evaluateExactMessageGrounding at decided
    cases wired : Dispatch.assertWired messageKey message contactKey contact campaignKey with
    | error text =>
        rw [wired] at decided
        cases decided
    | ok _ =>
        rw [wired] at decided
        obtain rfl := Except.ok.inj decided
        by_contra passed
        have passed := hardBlock_mono (supplies_transcript contact campaign transcript)
          (Bool.eq_false_iff.mpr passed)
        rw [blocked] at passed
        cases passed

end Grounding
end MailerAgent
