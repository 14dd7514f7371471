import MailerAgent.Grounding.Figures
import MailerAgent.Policy.Fallback

/-!
# Drafts in approved wording

A draft that repeats the value proposition of its campaign, and the deterministic fallback
draft that is built around it. Such a draft passes the grounding check exactly when each
figure that a claim shows and that touches a word character in the draft, a letter or more
digits where the snippet ends, also stands free in the value proposition, and guarantee
wording goes with a mention of a guarantee or a warranty there.
-/

namespace MailerAgent
namespace Grounding

open Regex Native Policy Numerals

/-! ## Acceptance -/

/-- The sources of a check that is given the value proposition. -/
def sourcesWith
    (valueProp : String)
    (proofPoints contextNotes transcript : Option String) : GroundingSources where
  proofPoints := proofPoints
  contextNotes := contextNotes
  conversationTranscript := transcript
  valueProp := some valueProp

/-- The body is not blocked by a check that is given the value proposition, and each of its
claims is supported. -/
def Accepted
    (classes : CharacterClasses)
    (body valueProp : String) : Prop :=
  ∀ proofPoints contextNotes transcript : Option String,
    let sources := sourcesWith valueProp proofPoints contextNotes transcript
    (validateGrounding classes body sources).hardBlock = false ∧
      ∀ claim ∈ extractFactualClaims classes body,
        claimSupported classes (buildApprovedCorpus classes (sourceList sources)) claim = true

/-- The body uses guarantee wording. -/
def UsesGuarantee
    (classes : CharacterClasses)
    (body : String) : Prop :=
  guaranteePattern.findIter classes.isWord body.toList ≠ []

/-- The value proposition mentions a guarantee or a warranty. -/
def MentionsGuarantee
    (classes : CharacterClasses)
    (valueProp : String) : Prop :=
  "guarantee".toList <:+: (classes.lower valueProp).toList ∨
    "warrant".toList <:+: (classes.lower valueProp).toList

/-- Each figure that the claims of a body show, and that touches a word character there,
stands free in the value proposition; it mentions a guarantee or a warranty if the body uses
such wording. -/
structure Sourced
    (classes : CharacterClasses)
    (body valueProp : String) : Prop where
  figures : ∀ before figure after, Shown classes body.toList before figure after →
    Touched classes before after →
      StandsFree classes figure (classes.lower valueProp).toList
  guarantee : UsesGuarantee classes body → MentionsGuarantee classes valueProp

/-- The numerals in the snippets of a body's claims stand alone in the value proposition,
and it mentions a guarantee or a warranty if the body uses such wording. -/
structure Traceable
    (classes : CharacterClasses)
    (body valueProp : String) : Prop where
  numerals : ∀ claim ∈ extractFactualClaims classes body,
    ∀ numeral ∈ extractNumeric classes claim,
      StandsAlone classes numeral (classes.lower valueProp)
  guarantee : UsesGuarantee classes body → MentionsGuarantee classes valueProp

variable {classes : CharacterClasses} {body valueProp : String}

/-- The sources of a check with nothing but the value proposition. -/
def onlyValueProp (valueProp : String) : GroundingSources :=
  sourcesWith valueProp none none none

theorem corpus_onlyValueProp (valueProp : String) :
    buildApprovedCorpus classes (sourceList (onlyValueProp valueProp)) =
      classes.lower valueProp := by
  unfold buildApprovedCorpus approvedTexts sourceList onlyValueProp sourcesWith PyText.joinSpace
  cases empty : valueProp.isEmpty with
  | true =>
      rw [String.isEmpty_iff.mp empty, classes.lower_empty]
      rfl
  | false =>
      have kept : (some valueProp).filter (fun text => !text.isEmpty) = some valueProp :=
        Option.filter_eq_some_iff.mpr ⟨rfl, by rw [empty]; rfl⟩
      rw [List.filterMap_cons_none rfl, List.filterMap_cons_none rfl,
        List.filterMap_cons_none rfl, List.filterMap_cons_some kept, List.filterMap_nil,
        List.map_singleton, String.intercalate_singleton]

/-- More sources do not matter, so the check without them decides. -/
theorem accepted_iff_onlyValueProp :
    Accepted classes body valueProp ↔
      (validateGrounding classes body (onlyValueProp valueProp)).hardBlock = false := by
  constructor
  · intro accepted
    exact (accepted none none none).1
  · intro passed proofPoints contextNotes transcript
    have supplies : Supplies (onlyValueProp valueProp)
        (sourcesWith valueProp proofPoints contextNotes transcript) :=
      ⟨.inl absent_none, .inl absent_none, .inl absent_none, .inr rfl⟩
    have passes := hardBlock_mono supplies passed
    refine ⟨passes, fun claim member => ?_⟩
    exact claimSupported_iff.mpr (hardBlock_eq_false_iff.mp passes claim member)

/-! ## Guarantee claims -/

/-- The label of a claim starts it. -/
theorem toList_of_mem_claimsOf
    {label claim : String}
    {pattern : Pattern Char}
    {before after : Nat}
    (member : claim ∈ claimsOf classes label pattern before after body) :
    ∃ rest, claim.toList = label.toList ++ ':' :: rest := by
  obtain ⟨found, -, rfl⟩ := List.mem_map.mp member
  refine ⟨" «".toList ++ (snippet body.toList before after found).toList ++ "»".toList, ?_⟩
  simp [String.toList_append]

/-- A claim with another label is not about a guarantee. -/
theorem not_startsWith_guarantee
    {label claim : String}
    {pattern : Pattern Char}
    {before after : Nat}
    (member : claim ∈ claimsOf classes label pattern before after body)
    (other : ∀ rest, "guarantee:".toList.isPrefixOf (label.toList ++ ':' :: rest) = false) :
    startsWith "guarantee:" claim = false := by
  obtain ⟨rest, text⟩ := toList_of_mem_claimsOf member
  unfold startsWith
  rw [text]
  exact other rest

/-- Claims about a guarantee come from guarantee wording. -/
theorem startsWith_guarantee_iff
    {claim : String}
    (member : claim ∈ extractFactualClaims classes body) :
    startsWith "guarantee:" claim = true ↔
      claim ∈ claimsOf classes "guarantee" guaranteePattern 20 40 body := by
  constructor
  · intro wording
    simp only [extractFactualClaims, List.mem_append] at member
    rcases member with ((((here | here) | here) | here) | here) | here
    · rw [not_startsWith_guarantee here fun _ => rfl] at wording
      cases wording
    · rw [not_startsWith_guarantee here fun _ => rfl] at wording
      cases wording
    · rw [not_startsWith_guarantee here fun _ => rfl] at wording
      cases wording
    · rw [not_startsWith_guarantee here fun _ => rfl] at wording
      cases wording
    · rw [not_startsWith_guarantee here fun _ => rfl] at wording
      cases wording
    · exact here
  · intro here
    obtain ⟨rest, text⟩ := toList_of_mem_claimsOf here
    unfold startsWith
    rw [text]
    rfl

theorem exists_guarantee_claim (uses : UsesGuarantee classes body) :
    ∃ claim ∈ extractFactualClaims classes body, startsWith "guarantee:" claim = true := by
  obtain ⟨found, inside⟩ := List.exists_mem_of_ne_nil _ uses
  have claimed : "guarantee" ++ ": «" ++ snippet body.toList 20 40 found ++ "»" ∈
      claimsOf classes "guarantee" guaranteePattern 20 40 body :=
    List.mem_map_of_mem inside
  have extracted := List.mem_append_right
    (claimsOf classes "metric" (pctPattern classes) 20 20 body ++
      claimsOf classes "money" (dollarPattern classes) 20 20 body ++
      claimsOf classes "scale" (headcountPattern classes) 10 30 body ++
      claimsOf classes "time-claim" (timeClaimPattern classes) 10 30 body ++
      claimsOf classes "setup-claim" (setupTimePattern classes) 5 30 body) claimed
  exact ⟨_, extracted, (startsWith_guarantee_iff extracted).mpr claimed⟩

/-! ## The condition -/

/-- A body passes exactly if it is traceable to the value proposition. -/
theorem accepted_iff_traceable :
    Accepted classes body valueProp ↔ Traceable classes body valueProp := by
  rw [accepted_iff_onlyValueProp, hardBlock_eq_false_iff, corpus_onlyValueProp]
  constructor
  · intro supports
    refine ⟨fun claim member => (supports claim member).numerals, fun uses => ?_⟩
    obtain ⟨claim, member, wording⟩ := exists_guarantee_claim uses
    exact (supports claim member).guarantee wording
  · intro traceable claim member
    refine ⟨traceable.numerals claim member, fun wording => traceable.guarantee ?_⟩
    have here := (startsWith_guarantee_iff member).mp wording
    obtain ⟨found, inside, -⟩ := List.mem_map.mp here
    exact List.ne_nil_of_mem inside

/-- A text that repeats the value proposition, with or without the whitespace around it,
between texts without digits. -/
structure Repeats
    (classes : CharacterClasses)
    (front back : List Char)
    (offer leading trailing : List Char)
    (body valueProp : String) : Prop where
  body : body.toList = front ++ offer ++ back
  valueProp : valueProp.toList = leading ++ offer ++ trailing
  front : Digitless classes.isDecimal front
  back : Digitless classes.isDecimal back
  leading : ∀ character ∈ leading, PyText.isSpace character = true
  trailing : ∀ character ∈ trailing, PyText.isSpace character = true

/-- What starts and ends with a digit is within the part with digits. -/
theorem within_of_digits
    {digit : Char → Bool}
    {front offer back before figure after first second : List Char}
    (shown : Shows digit '.' first figure second)
    (noneBefore : Digitless digit front)
    (noneBehind : Digitless digit back)
    (same : before ++ figure ++ after = front ++ offer ++ back) :
    ∃ left right, offer = left ++ figure ++ right ∧ before = front ++ left ∧
      after = right ++ back := by
  obtain ⟨head, tail, starts, isDigit⟩ := shown.head
  obtain ⟨init, last, ends, isDigitToo⟩ := shown.last
  -- No digit of the figure stands in the front, so it starts behind it.
  obtain ⟨left, rfl, remains⟩ : ∃ left, before = front ++ left ∧
      left ++ (figure ++ after) = offer ++ back := by
    rw [List.append_assoc, List.append_assoc] at same
    rcases List.append_eq_append_iff.mp same with ⟨crossed, split, rest⟩ | ⟨left, split, rest⟩
    · cases crossed with
      | nil => exact ⟨[], by simpa using split.symm, by simpa using rest⟩
      | cons symbol crossed =>
          rw [starts] at rest
          have inside : head ∈ front := by simp [split, (List.cons.inj rest).1]
          rw [noneBefore head inside] at isDigit
          cases isDigit
    · exact ⟨left, split, rest.symm⟩
  rw [← List.append_assoc] at remains
  rcases List.append_eq_append_iff.mp remains with ⟨right, split, rest⟩ | ⟨crossed, split, rest⟩
  · exact ⟨left, right, split, rfl, rest⟩
  · rcases List.eq_nil_or_concat crossed with rfl | ⟨others, symbol, rfl⟩
    · exact ⟨left, [], by simpa using split.symm, rfl, by simpa using rest.symm⟩
    · rw [ends, List.concat_eq_append, ← List.append_assoc, ← List.append_assoc] at split
      have symbols := (List.append_inj' split rfl).2
      have inside : last ∈ back := by
        rw [rest, List.singleton_inj.mp symbols]
        simp
      rw [noneBehind last inside] at isDigitToo
      cases isDigitToo

section Repeated

variable {classes : TextClasses} {front back offer leading trailing : List Char}

/-- A figure that stands free in the body does so in the value proposition. -/
theorem standsFree_of_repeats
    {before figure after first second : List Char}
    (repeats : Repeats classes.toCharacterClasses front back offer leading trailing body
      valueProp)
    (shown : Shows classes.isDecimal '.' first figure second)
    (parts : body.toList = before ++ figure ++ after)
    (free : ¬Touched classes.toCharacterClasses before after) :
    StandsFree classes.toCharacterClasses figure (classes.lower valueProp).toList := by
  obtain ⟨left, right, rfl, rfl, rfl⟩ := within_of_digits shown repeats.front repeats.back
    (parts.symm.trans repeats.body)
  have lowers := classes.lowers valueProp
  rw [repeats.valueProp, show leading ++ (left ++ figure ++ right) ++ trailing =
    (leading ++ left) ++ figure ++ (right ++ trailing) by simp only [List.append_assoc]] at lowers
  refine standsFree_of_lowers lowers shown.symbols fun touched => free ?_
  rcases touched with ⟨character, final, word⟩ | ⟨character, leads, word⟩
  · rcases List.eq_nil_or_concat left with rfl | ⟨others, last, rfl⟩
    · rw [List.append_nil] at final
      rw [isWord_of_space (repeats.leading character (List.mem_of_getLast? final))] at word
      cases word
    · refine .inl ⟨character, ?_, word⟩
      rw [List.concat_eq_append, ← List.append_assoc, List.getLast?_concat] at final ⊢
      exact final
  · cases right with
    | nil =>
        rw [isWord_of_space (repeats.trailing character (List.mem_of_head? leads))] at word
        cases word
    | cons symbol others => exact .inr ⟨character, leads, word⟩

/-- A body that repeats the value proposition passes exactly if its figures are sourced. -/
theorem accepted_iff_sourced
    (repeats : Repeats classes.toCharacterClasses front back offer leading trailing body
      valueProp) :
    Accepted classes.toCharacterClasses body valueProp ↔
      Sourced classes.toCharacterClasses body valueProp := by
  rw [accepted_iff_traceable]
  constructor
  · rintro ⟨numerals, guarantee⟩
    refine ⟨fun before figure after shown _ => ?_, guarantee⟩
    obtain ⟨first, second, reads⟩ := shown.shows
    have listed : ∃ before after, Shown classes.toCharacterClasses body.toList before
        (String.ofList figure).toList after :=
      ⟨before, after, by rwa [String.toList_ofList]⟩
    obtain ⟨claim, member, numeral⟩ := exists_numeral_iff_shown.mpr listed
    have alone := numerals claim member _ numeral
    rw [← String.toList_ofList (l := figure)] at reads
    rwa [standsAlone_iff reads, String.toList_ofList] at alone
  · rintro ⟨figures, guarantee⟩
    refine ⟨fun claim member numeral listed => ?_, guarantee⟩
    obtain ⟨before, after, shown⟩ := exists_numeral_iff_shown.mp ⟨claim, member, listed⟩
    obtain ⟨first, second, reads⟩ := shown.shows
    rw [standsAlone_iff reads]
    by_cases touched : Touched classes.toCharacterClasses before after
    · exact figures before _ after shown touched
    · exact standsFree_of_repeats repeats reads shown.parts touched

end Repeated

/-! ## The approved drafts -/

/-- The names that a fallback draft inserts have no digits. -/
structure DigitlessNames
    (classes : CharacterClasses)
    (campaign : Campaign)
    (contact : Contact) : Prop where
  name : ∀ name, contact.name = some name → Digitless classes.isDecimal name.toList
  company : ∀ company, contact.company = some company →
    Digitless classes.isDecimal company.toList
  sender : Digitless classes.isDecimal campaign.senderName.toList
  org : Digitless classes.isDecimal campaign.senderOrg.toList

theorem digitless_orElse
    {classes : TextClasses}
    {text : Option String}
    {default : String}
    (fixed : Undigited default.toList)
    (given : ∀ present, text = some present → Digitless classes.isDecimal present.toList) :
    Digitless classes.isDecimal (orElse text default).toList := by
  unfold orElse
  cases text with
  | none => exact digitless_of_undigited fixed
  | some present =>
      dsimp only
      split
      · exact digitless_of_undigited fixed
      · exact given present rfl

/-- A fallback draft repeats the value proposition. -/
theorem repeats_draftFallback
    {classes : TextClasses}
    {campaign : Campaign}
    {contact : Contact}
    {action : DraftAction}
    {subject : Option String}
    {body : String}
    (names : DigitlessNames classes.toCharacterClasses campaign contact)
    (drafted : draftFallback campaign contact action = .ok (subject, body)) :
    ∃ front back offer leading trailing,
      Repeats classes.toCharacterClasses front back offer leading trailing body
        campaign.valueProp := by
  obtain ⟨⟨leading, trailing, around, spaceBefore, spaceBehind⟩, -, -⟩ :=
    PyText.trimmed_strip.mpr (rfl : (PyText.strip campaign.valueProp).toList = _)
  have undigited {text : String}
      (plain : Undigited text.toList) :
      Digitless classes.isDecimal text.toList :=
    digitless_of_undigited plain
  have name := @digitless_orElse classes contact.name "there" (by decide) names.name
  have company := @digitless_orElse classes contact.company "your company" (by decide)
    names.company
  have signature : Digitless classes.isDecimal
      ("Best,\n" ++ campaign.senderName ++ "\n" ++ campaign.senderOrg).toList := by
    simp only [String.toList_append, digitless_append_iff]
    exact ⟨⟨⟨undigited (by decide), names.sender⟩, undigited (by decide)⟩, names.org⟩
  cases action with
  | initialOutreach =>
      obtain ⟨-, rfl⟩ := Prod.mk.inj (Except.ok.inj drafted)
      refine ⟨("Hi " ++ orElse contact.name "there" ++ ",\n\n" ++ "I'm " ++
          campaign.senderName ++ " with " ++ campaign.senderOrg ++ ". ").toList,
        ("\n\n" ++ "Worth a short call to see if it's relevant for " ++
          orElse contact.company "your company" ++ "?\n\n" ++
          ("Best,\n" ++ campaign.senderName ++ "\n" ++ campaign.senderOrg)).toList,
        (PyText.strip campaign.valueProp).toList, leading, trailing,
        ?_, around, ?_, ?_, spaceBefore, spaceBehind⟩
      · simp only [String.toList_append, List.append_assoc]
      · simp only [String.toList_append, digitless_append_iff]
        exact ⟨⟨⟨⟨⟨⟨⟨undigited (by decide), name⟩, undigited (by decide)⟩,
          undigited (by decide)⟩, names.sender⟩, undigited (by decide)⟩, names.org⟩,
          undigited (by decide)⟩
      · rw [String.toList_append, digitless_append_iff]
        refine ⟨?_, signature⟩
        simp only [String.toList_append, digitless_append_iff]
        exact ⟨⟨⟨undigited (by decide), undigited (by decide)⟩, company⟩,
          undigited (by decide)⟩
  | followUp =>
      obtain ⟨-, rfl⟩ := Prod.mk.inj (Except.ok.inj drafted)
      refine ⟨("Hi " ++ orElse contact.name "there" ++ ",\n\n" ++
          "Following up on my last note -- still think this could be worth " ++
          "a quick conversation for " ++ orElse contact.company "your company" ++ ". ").toList,
        ("\n\n" ++ "Happy to work around your schedule if you're open to a short call.\n\n" ++
          ("Best,\n" ++ campaign.senderName ++ "\n" ++ campaign.senderOrg)).toList,
        (PyText.strip campaign.valueProp).toList, leading, trailing,
        ?_, around, ?_, ?_, spaceBefore, spaceBehind⟩
      · simp only [String.toList_append, List.append_assoc]
      · simp only [String.toList_append, digitless_append_iff]
        exact ⟨⟨⟨⟨⟨⟨undigited (by decide), name⟩, undigited (by decide)⟩,
          undigited (by decide)⟩, undigited (by decide)⟩, company⟩,
          undigited (by decide)⟩
      · rw [String.toList_append, digitless_append_iff]
        refine ⟨?_, signature⟩
        rw [String.toList_append, digitless_append_iff]
        exact ⟨undigited (by decide), undigited (by decide)⟩
  | reply => cases drafted
  | closing => cases drafted

/-- The value proposition itself, and a fallback draft with names that have no digits, pass
exactly if each figure that their claims show is sourced. -/
theorem approved_wording_accepted_iff (classes : TextClasses) :
    (∀ valueProp, Accepted classes.toCharacterClasses valueProp valueProp ↔
        Sourced classes.toCharacterClasses valueProp valueProp) ∧
      ∀ (campaign : Campaign) (contact : Contact) (action : DraftAction)
        (subject : Option String) (body : String),
        DigitlessNames classes.toCharacterClasses campaign contact →
        draftFallback campaign contact action = .ok (subject, body) →
          (Accepted classes.toCharacterClasses body campaign.valueProp ↔
            Sourced classes.toCharacterClasses body campaign.valueProp) := by
  refine ⟨fun valueProp => ?_, fun campaign contact action subject body names drafted => ?_⟩
  · have itself : Repeats classes.toCharacterClasses [] [] valueProp.toList [] [] valueProp
        valueProp :=
      ⟨by simp, by simp, nofun, nofun, nofun, nofun⟩
    exact accepted_iff_sourced itself
  · obtain ⟨front, back, offer, leading, trailing, repeats⟩ :=
      repeats_draftFallback names drafted
    exact accepted_iff_sourced repeats

namespace Sample

/-- Only the capital letters of ASCII have another lower case. -/
theorem toLower_of_not_isUpper
    {character : Char}
    (other : character.isUpper = false) :
    character.toLower = character :=
  dif_neg (of_decide_eq_false other)

theorem not_isUpper_of_isDigit
    {character : Char}
    (digit : character.isDigit = true) :
    character.isUpper = false := by
  simp only [Char.isDigit, Bool.and_eq_true, decide_eq_true_eq, ge_iff_le,
    UInt32.le_iff_toNat_le] at digit
  refine decide_eq_false fun upper => ?_
  simp only [ge_iff_le, UInt32.le_iff_toNat_le] at upper
  simp at *
  omega

/-- Whitespace is no letter and no digit of ASCII. -/
theorem not_isAlphanum_of_space
    {character : Char}
    (space : PyText.isSpace character = true) :
    character.isAlphanum = false := by
  have code : character.val.toNat = character.toNat := rfl
  simp only [PyText.isSpace, Bool.or_eq_true, Bool.and_eq_true, decide_eq_true_eq,
    beq_iff_eq] at space
  have outside : ∀ first last : Char, 32 < first.toNat → last.toNat < 127 →
      ¬(character.val ≥ first.val ∧ character.val ≤ last.val) := by
    rintro first last low high ⟨above, below⟩
    have lower : first.toNat ≤ character.toNat := above
    have upper : character.toNat ≤ last.toNat := below
    omega
  have noUpper : character.isUpper = false :=
    decide_eq_false (outside 'A' 'Z' (by decide) (by decide))
  have noLower : character.isLower = false :=
    (Bool.decide_and _ _).symm.trans
      (decide_eq_false (outside 'a' 'z' (by decide) (by decide)))
  have noDigit : character.isDigit = false :=
    (Bool.decide_and _ _).symm.trans
      (decide_eq_false (outside '0' '9' (by decide) (by decide)))
  rw [Char.isAlphanum, noDigit, Bool.or_false]
  exact Bool.or_eq_false_iff.mpr ⟨noUpper, noLower⟩

/-- A text in lower case, character by character. -/
theorem lowers_map
    {classes : CharacterClasses}
    (lowered : ∀ character, Lowered classes character [character.toLower])
    (text : List Char) :
    Lowers classes text (text.map Char.toLower) := by
  induction text with
  | nil => exact .nil
  | cons character text inductionHypothesis =>
      exact .cons (lowered character) inductionHypothesis

/-- The properties of the characters of ASCII. -/
def asciiCharacters : CharacterClasses where
  isDecimal := Char.isDigit
  isAlnum := Char.isAlphanum
  lower text := String.ofList (text.toList.map Char.toLower)
  decimal_isAlnum character digit := by
    rw [Char.isAlphanum, digit, Bool.or_true]
  space_not_isAlnum := rfl
  lower_empty := rfl

theorem lowered_ascii (character : Char) :
    Lowered asciiCharacters character [character.toLower] where
  nonempty := List.cons_ne_nil _ _
  figure := by
    rintro (digit | rfl)
    · rw [toLower_of_not_isUpper (not_isUpper_of_isDigit digit)]
    · rfl
  apart := by
    intro apart other inside
    obtain ⟨noLetter, -⟩ := Bool.or_eq_false_iff.mp apart
    have noCapital : character.isUpper = false := by
      have noAlpha := (Bool.or_eq_false_iff.mp noLetter).1
      exact (Bool.or_eq_false_iff.mp noAlpha).1
    rw [List.mem_singleton.mp inside, toLower_of_not_isUpper noCapital]
    exact apart

/-- The classes of ASCII. -/
def ascii : TextClasses where
  toCharacterClasses := asciiCharacters
  latin_isDecimal _ _ := rfl
  isAlnum_of_space _ space := not_isAlphanum_of_space space
  lowers text := by
    have lowers := lowers_map lowered_ascii text.toList
    rwa [← String.toList_ofList (l := text.toList.map Char.toLower)] at lowers

/-- A value proposition with a figure in thousands. -/
def savings : String := "We cut hosting bills by $50K."

/-- The campaign of that offer. -/
def campaign : Campaign where
  name := "Hosting"
  organizationId := some "acme"
  senderName := "Kim"
  senderOrg := "Acme"
  senderEmail := "kim@acme.test"
  valueProp := savings

/-- A contact without a name. -/
def contact : Contact where
  campaignId := 0
  email := "lee@example.com"

end Sample

/-- The figure `50` of `$50K` touches a letter, so neither the offer itself nor the fallback
draft passes. -/
theorem approved_wording_blocked :
    ¬Accepted Sample.ascii.toCharacterClasses Sample.savings Sample.savings ∧
      ∃ subject body,
        DigitlessNames Sample.ascii.toCharacterClasses Sample.campaign Sample.contact ∧
          draftFallback Sample.campaign Sample.contact .initialOutreach = .ok (subject, body) ∧
          ¬Accepted Sample.ascii.toCharacterClasses body Sample.savings := by
  simp only [accepted_iff_onlyValueProp]
  refine ⟨by decide +kernel, _, _, ?_, rfl, by decide +kernel⟩
  refine ⟨?_, ?_, digitless_of_undigited (by decide),
    digitless_of_undigited (by decide)⟩
  · intro name given
    cases given
  · intro company given
    cases given

end Grounding
end MailerAgent
