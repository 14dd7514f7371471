import MailerAgent.Foundation.PyText
import MailerAgent.Foundation.Regex

/-!
# Claims in a draft

The regular expressions of `llm/grounding.py` and the claims that they extract from the
body of a draft. Letters are matched without regard to case, which in Unicode includes a
few letters beyond ASCII. What a digit and a letter is, and `str.lower`, are parameters.
-/

namespace MailerAgent
namespace Grounding

open Regex

/-- The Unicode properties that the expressions go by. -/
structure CharacterClasses where
  /-- A decimal digit, `\d`. -/
  isDecimal : Char → Bool
  /-- `str.isalnum` of one character. -/
  isAlnum : Char → Bool
  /-- `str.lower`. -/
  lower : String → String
  decimal_isAlnum : ∀ character, isDecimal character = true → isAlnum character = true
  space_not_isAlnum : isAlnum ' ' = false
  lower_empty : lower "" = ""

variable (classes : CharacterClasses)

/-- A word character, `\w`. -/
def CharacterClasses.isWord (character : Char) : Bool :=
  classes.isAlnum character || character == '_'

/-! ## Parts of the expressions -/

/-- A character that matches a lower-case letter with `re.IGNORECASE`. -/
def sameLetter (letter character : Char) : Bool :=
  character == letter || character == letter.toUpper ||
    (letter == 'i' && (character == 'ı' || character == 'İ')) ||
    (letter == 's' && character == 'ſ') ||
    (letter == 'k' && character == Char.ofNat 0x212a)

/-- A word of the expressions. -/
def keyword (text : String) : Pattern Char :=
  .concat (text.toList.map fun letter => .one (sameLetter letter))

/-- A word with an optional ending. -/
def ending (text suffix : String) : Pattern Char :=
  .seq (keyword text) (.opt (keyword suffix))

/-- One character. -/
def symbol (character : Char) : Pattern Char :=
  .one (· == character)

/-- `\s*`. -/
def spaces : Pattern Char :=
  .many PyText.isSpace

/-- `\s+`. -/
def someSpaces : Pattern Char :=
  .some PyText.isSpace

/-- `\d+`. -/
def digits : Pattern Char :=
  .some classes.isDecimal

/-- `(?:hours?|days?|minutes?|weeks?)`. -/
def timeUnit : Pattern Char :=
  .choice (ending "hour" "s") [ending "day" "s", ending "minute" "s", ending "week" "s"]

/-! ## The expressions -/

/-- `_PCT_PATTERN`. -/
def pctPattern : Pattern Char :=
  .concat
    [.boundary, digits classes, .opt (.seq (symbol '.') (digits classes)), spaces,
      .choice (symbol '%')
        [keyword "percent", keyword "x faster", keyword "x roi", keyword "x return",
          symbol '×']]

/-- `_DOLLAR_PATTERN`. -/
def dollarPattern : Pattern Char :=
  .concat
    [.one fun character => character ∈ ['$', '£', '€', '¥'], spaces, .one classes.isDecimal,
      .many fun character =>
        classes.isDecimal character || character == ',' || character == '.',
      .opt (.seq spaces (.one fun character =>
        sameLetter 'k' character || sameLetter 'm' character || sameLetter 'b' character))]

/-- `_HEADCOUNT_PATTERN`. -/
def headcountPattern : Pattern Char :=
  .concat
    [.boundary, digits classes, someSpaces,
      .choice (keyword "companies")
        [keyword "customers", keyword "clients", keyword "users", keyword "teams",
          keyword "organizations", keyword "businesses", keyword "startups",
          keyword "brands", keyword "retailers", keyword "chains"]]

/-- `_TIME_CLAIM_PATTERN`. -/
def timeClaimPattern : Pattern Char :=
  .concat
    [.boundary,
      .choice (keyword "within")
        [keyword "in under", keyword "in less than", keyword "under", keyword "less than"],
      someSpaces, digits classes, spaces, timeUnit]

/-- `_SETUP_TIME_PATTERN`. -/
def setupTimePattern : Pattern Char :=
  .concat
    [.boundary,
      .choice (keyword "setup")
        [ending "install" "ation", ending "deploy" "ment", ending "onboard" "ing",
          ending "implement" "ation"],
      someSpaces,
      .opt (.seq (keyword "time") someSpaces),
      .opt (.seq (keyword "is") someSpaces),
      .opt (.seq (keyword "only") someSpaces),
      .opt (.seq (ending "take" "s") someSpaces),
      .opt (.seq (keyword "in") someSpaces),
      .opt (.choice (.seq (keyword "under") someSpaces)
        [.concat [keyword "less", someSpaces, keyword "than", someSpaces],
          .seq (keyword "within") someSpaces]),
      digits classes, spaces, timeUnit]

/-- `_GUARANTEE_PATTERN`. -/
def guaranteePattern : Pattern Char :=
  .concat
    [.boundary,
      .choice (ending "guarantee" "d")
        [.seq (keyword "warrant") (.opt (.choice (keyword "y") [keyword "ied"])),
          ending "promise" "d",
          .concat [keyword "committed", someSpaces, keyword "to"],
          ending "assure" "d"],
      .boundary]

/-- `_PRICING_TERMS`. -/
def pricingTerms : Pattern Char :=
  .concat
    [.boundary,
      .choice (keyword "price")
        [keyword "pricing", keyword "cost", keyword "costs", keyword "fee", keyword "fees",
          keyword "rate", keyword "rates", keyword "discount", keyword "discounts",
          keyword "budget", keyword "budgets", keyword "afford", keyword "affordable",
          keyword "cheap", keyword "expensive", keyword "quote", keyword "proposal",
          keyword "contract", keyword "subscription",
          .concat [keyword "per", someSpaces,
            .choice (keyword "seat") [keyword "user", keyword "month", keyword "year"]],
          keyword "monthly", keyword "annually",
          .concat [keyword "free", someSpaces, keyword "trial"],
          .concat [keyword "trial", someSpaces, keyword "period"],
          ending "available" "ility"],
      .boundary]

/-- `next\s+(?:week|month)`. -/
def nextPeriod : Pattern Char :=
  .concat [keyword "next", someSpaces, .choice (keyword "week") [keyword "month"]]

/-- `_AVAILABILITY_PATTERN`. -/
def availabilityPattern : Pattern Char :=
  .concat
    [.boundary,
      .choice
        (.concat
          [keyword "available", someSpaces,
            .choice (keyword "now")
              [keyword "today", keyword "immediately",
                .concat [keyword "this", someSpaces, keyword "week"]]])
        [.concat
          [keyword "launch", .opt (.choice (keyword "ing") [keyword "es"]), someSpaces,
            .choice nextPeriod [keyword "soon", keyword "shortly"]],
          .concat
            [keyword "ship", .opt (.choice (keyword "ping") [keyword "s"]), someSpaces,
              nextPeriod]],
      .boundary]

/-! ## Extraction -/

/-- The text around a match, on one line. -/
def snippet
    (body : List Char)
    (before after : Nat)
    (found : Nat × Nat) : String :=
  PyText.strip (String.ofList
    ((slice body (found.1 - before) (min body.length (found.2 + after))).map fun character =>
      if character = '\n' then ' ' else character))

/-- The claims of one expression. -/
def claimsOf
    (label : String)
    (pattern : Pattern Char)
    (before after : Nat)
    (body : String) : List String :=
  (pattern.findIter classes.isWord body.toList).map fun found =>
    label ++ ": «" ++ snippet body.toList before after found ++ "»"

/-- `extract_factual_claims`. -/
def extractFactualClaims (body : String) : List String :=
  claimsOf classes "metric" (pctPattern classes) 20 20 body ++
    claimsOf classes "money" (dollarPattern classes) 20 20 body ++
    claimsOf classes "scale" (headcountPattern classes) 10 30 body ++
    claimsOf classes "time-claim" (timeClaimPattern classes) 10 30 body ++
    claimsOf classes "setup-claim" (setupTimePattern classes) 5 30 body ++
    claimsOf classes "guarantee" guaranteePattern 20 40 body

/-- `\d+(?:\.\d+)?`. -/
def numericPattern : Pattern Char :=
  .seq (digits classes) (.opt (.seq (symbol '.') (digits classes)))

/-- `_extract_numeric`. -/
def extractNumeric (claim : String) : List String :=
  ((numericPattern classes).findIter classes.isWord claim.toList).map fun found =>
    String.ofList (slice claim.toList found.1 found.2)

/-! ## Numerals -/

variable {classes}

/-- A numeral is made of digits and points. -/
theorem mem_numeral
    {claim numeral : String}
    (member : numeral ∈ extractNumeric classes claim)
    {character : Char}
    (inside : character ∈ numeral.toList) :
    classes.isDecimal character = true ∨ character = '.' := by
  obtain ⟨⟨start, finish⟩, found, rfl⟩ := List.mem_map.mp member
  rw [String.toList_ofList] at inside
  have within : (numericPattern classes).Within fun character =>
      classes.isDecimal character = true ∨ character = '.' := by
    refine ⟨⟨fun _ => .inl, fun _ => .inl⟩, ?_, fun _ => .inl, fun _ => .inl⟩
    exact fun _ point => .inr (beq_iff_eq.mp point)
  exact mem_slice (Pattern.spans_of_mem_ends within (Pattern.mem_ends_of_mem_findIter found))
    inside

/-- A numeral has a digit. -/
theorem numeral_ne_nil
    {claim numeral : String}
    (member : numeral ∈ extractNumeric classes claim) :
    numeral.toList ≠ [] := by
  obtain ⟨⟨start, finish⟩, found, rfl⟩ := List.mem_map.mp member
  rw [String.toList_ofList]
  have ends := Pattern.mem_ends_of_mem_findIter found
  exact slice_ne_nil (Pattern.spans_of_mem_ends (Pattern.within_true _) ends)
    (Pattern.lt_of_mem_ends_some ends)

end Grounding
end MailerAgent
