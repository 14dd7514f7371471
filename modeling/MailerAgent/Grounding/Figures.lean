import MailerAgent.Foundation.Numerals
import MailerAgent.Grounding.Validation

/-!
# Figures in a draft

Which figures of a draft its claims show, and where they stand: a claim shows the figures
in a window of the text around a match of one of the expressions, cut off where the window
ends. A figure stands free in a text where no word character is next to it.
-/

namespace MailerAgent
namespace Grounding

open Numerals Occurrences PyText Regex

/-- What a character becomes in lower case: a decimal digit and a point stay, and what is no
word character becomes none. -/
structure Lowered
    (classes : CharacterClasses)
    (character : Char)
    (image : List Char) : Prop where
  nonempty : image ≠ []
  figure : classes.isDecimal character = true ∨ character = '.' → image = [character]
  apart : classes.isWord character = false → ∀ other ∈ image, classes.isWord other = false

/-- A text in lower case: each character with what it becomes. -/
inductive Lowers (classes : CharacterClasses) : List Char → List Char → Prop where
  | nil : Lowers classes [] []
  | cons {character : Char} {image text lowered : List Char}
      (here : Lowered classes character image) (rest : Lowers classes text lowered) :
      Lowers classes (character :: text) (image ++ lowered)

/-- The Unicode properties with more of what is documented about them. -/
structure TextClasses extends CharacterClasses where
  latin_isDecimal : ∀ character : Char, character.toNat < 256 →
    isDecimal character = character.isDigit
  isAlnum_of_space : ∀ character, isSpace character = true → isAlnum character = false
  lowers : ∀ text, Lowers toCharacterClasses text.toList (lower text).toList

/-! ## Windows -/

/-- An expression of claims, with how far a snippet reaches before and behind a match. -/
structure Expression where
  pattern : Pattern Char
  before : Nat
  after : Nat

/-- The expressions of claims. -/
def expressions (classes : CharacterClasses) : List Expression :=
  [⟨pctPattern classes, 20, 20⟩, ⟨dollarPattern classes, 20, 20⟩,
    ⟨headcountPattern classes, 10, 30⟩, ⟨timeClaimPattern classes, 10, 30⟩,
    ⟨setupTimePattern classes, 5, 30⟩, ⟨guaranteePattern, 20, 40⟩]

/-- The window of a match: what is left of the body without the text that is farther before
the match or behind it. -/
structure Window
    (expression : Expression)
    (found : Nat × Nat)
    (body front window back : List Char) : Prop where
  parts : body = front ++ window ++ back
  front : front.length = found.1 - expression.before
  back : back.length = body.length - (found.2 + expression.after)

/-- The window of a claim shows a figure, with what stands before and after it in the
body. -/
def Shown
    (classes : CharacterClasses)
    (body before figure after : List Char) : Prop :=
  ∃ expression ∈ expressions classes,
    ∃ found ∈ expression.pattern.findIter classes.isWord body,
      ∃ front first second back, Window expression found body front
          (first ++ figure ++ second) back ∧
        Shows classes.isDecimal '.' first figure second ∧
        before = front ++ first ∧ after = second ++ back

/-- A word character is next to what stands between two texts. -/
def Touched
    (classes : CharacterClasses)
    (before after : List Char) : Prop :=
  (∃ character ∈ before.getLast?, classes.isWord character = true) ∨
    ∃ character ∈ after.head?, classes.isWord character = true

/-- A figure occurs in a text without a word character next to it. -/
def StandsFree
    (classes : CharacterClasses)
    (figure text : List Char) : Prop :=
  ∃ before after, text = before ++ figure ++ after ∧ ¬Touched classes before after

theorem Shown.parts
    {classes : CharacterClasses}
    {body before figure after : List Char}
    (shown : Shown classes body before figure after) :
    body = before ++ figure ++ after := by
  obtain ⟨expression, -, found, -, front, first, second, back, window, -, rfl, rfl⟩ := shown
  simpa only [List.append_assoc] using window.parts

theorem Shown.shows
    {classes : CharacterClasses}
    {body before figure after : List Char}
    (shown : Shown classes body before figure after) :
    ∃ first second, Shows classes.isDecimal '.' first figure second := by
  obtain ⟨-, -, -, -, -, first, second, -, -, shown, -, -⟩ := shown
  exact ⟨first, second, shown⟩

/-! ## Standing free -/

section Free

variable {classes : CharacterClasses}

theorem isWord_of_isDecimal
    {character : Char}
    (decimal : classes.isDecimal character = true) :
    classes.isWord character = true := by
  unfold CharacterClasses.isWord
  rw [classes.decimal_isAlnum character decimal, Bool.true_or]

/-- A figure stands alone, between two boundaries, where it stands free. -/
theorem standsAlone_iff
    {first second : List Char}
    {numeral text : String}
    (shown : Shows classes.isDecimal '.' first numeral.toList second) :
    StandsAlone classes numeral text ↔
      StandsFree classes numeral.toList text.toList := by
  obtain ⟨head, rest, starts, isDigit⟩ := shown.head
  obtain ⟨others, last, ends, isDigitToo⟩ := shown.last
  have bounded : ∀ before after,
      Bounded classes.isWord numeral.toList before after ↔
        before.any classes.isWord = false ∧ after.any classes.isWord = false := by
    intro before after
    unfold Bounded isBoundary
    have headed : numeral.toList.head? = some head := by rw [starts, List.head?_cons]
    have lasted : numeral.toList.getLast? = some last := by rw [ends, List.getLast?_concat]
    rw [headed, lasted]
    simp [isWord_of_isDecimal isDigit, isWord_of_isDecimal isDigitToo]
  have untouched : ∀ before after, ¬Touched classes before after ↔
      before.getLast?.any classes.isWord = false ∧ after.head?.any classes.isWord = false := by
    intro before after
    simp [Touched, Option.any_eq_false]
  unfold StandsAlone StandsFree Occurs
  simp only [bounded, untouched, List.append_assoc]

/-- A text that is put together is lowered part by part. -/
theorem lowers_append_iff
    {first second lowered : List Char} :
    Lowers classes (first ++ second) lowered ↔
      ∃ left right, lowered = left ++ right ∧ Lowers classes first left ∧
        Lowers classes second right := by
  induction first generalizing lowered with
  | nil =>
      constructor
      · exact fun lowers => ⟨[], lowered, rfl, .nil, lowers⟩
      · rintro ⟨left, right, rfl, nothing, lowers⟩
        cases nothing
        exact lowers
  | cons character first inductionHypothesis =>
      constructor
      · rintro (_ | ⟨here, rest⟩)
        obtain ⟨left, right, rfl, lowers, lowersToo⟩ := inductionHypothesis.mp rest
        exact ⟨_, right, (List.append_assoc _ _ _).symm, .cons here lowers, lowersToo⟩
      · rintro ⟨left, right, rfl, lowers, lowersToo⟩
        cases lowers with
        | cons here rest =>
            rw [List.append_assoc]
            exact .cons here (inductionHypothesis.mpr ⟨_, right, rfl, rest, lowersToo⟩)

theorem lowers_singleton
    {character : Char}
    {lowered : List Char}
    (lowers : Lowers classes [character] lowered) :
    Lowered classes character lowered := by
  cases lowers with
  | cons here rest =>
      cases rest
      rwa [List.append_nil]

/-- Figures stay as they are. -/
theorem Lowers.figure
    {figure lowered : List Char}
    (lowers : Lowers classes figure lowered)
    (made : ∀ character ∈ figure, classes.isDecimal character = true ∨ character = '.') :
    lowered = figure := by
  induction lowers with
  | nil => rfl
  | cons here rest inductionHypothesis =>
      rw [here.figure (made _ List.mem_cons_self), inductionHypothesis fun other inside =>
        made other (List.mem_cons_of_mem _ inside)]
      rfl

theorem Lowers.last
    {text lowered : List Char}
    (lowers : Lowers classes text lowered)
    (apart : ∀ character ∈ text.getLast?, classes.isWord character = false) :
    ∀ character ∈ lowered.getLast?, classes.isWord character = false := by
  rcases List.eq_nil_or_concat text with rfl | ⟨others, last, rfl⟩
  · cases lowers
    exact apart
  · rw [List.concat_eq_append] at lowers apart
    obtain ⟨left, right, rfl, -, ending⟩ := lowers_append_iff.mp lowers
    have image := lowers_singleton ending
    intro character final
    rw [List.getLast?_append_of_ne_nil _ image.nonempty] at final
    exact image.apart (apart last (by simp)) character (List.mem_of_getLast? final)

theorem Lowers.first
    {text lowered : List Char}
    (lowers : Lowers classes text lowered)
    (apart : ∀ character ∈ text.head?, classes.isWord character = false) :
    ∀ character ∈ lowered.head?, classes.isWord character = false := by
  cases lowers with
  | nil => exact apart
  | cons here rest =>
      intro character leads
      rw [List.head?_append_of_ne_nil _ here.nonempty] at leads
      exact here.apart (apart _ rfl) character (List.mem_of_head? leads)

/-- What stands free in a text does so in lower case. -/
theorem standsFree_of_lowers
    {before figure after lowered : List Char}
    (lowers : Lowers classes (before ++ figure ++ after) lowered)
    (made : ∀ character ∈ figure, classes.isDecimal character = true ∨ character = '.')
    (free : ¬Touched classes before after) :
    StandsFree classes figure lowered := by
  obtain ⟨front, right, rfl, leading, trailing⟩ := lowers_append_iff.mp lowers
  obtain ⟨left, middle, rfl, start, centre⟩ := lowers_append_iff.mp leading
  obtain rfl := centre.figure made
  simp only [Touched, not_or, not_exists, not_and, Bool.not_eq_true] at free
  refine ⟨left, right, rfl, ?_⟩
  rintro (⟨character, final, word⟩ | ⟨character, leads, word⟩)
  · rw [start.last free.1 character final] at word
    cases word
  · rw [trailing.first free.2 character leads] at word
    cases word

end Free

/-! ## The figures of a claim -/

section Claims

variable {classes : TextClasses}

theorem numericPattern_eq (classes : CharacterClasses) :
    numericPattern classes = Numerals.numeral classes.isDecimal '.' := rfl

/-- The numerals of a claim are the figures that its text shows. -/
theorem mem_extractNumeric_iff
    {classes : CharacterClasses}
    {claim numeral : String} :
    numeral ∈ extractNumeric classes claim ↔
      ShownIn classes.isDecimal '.' claim.toList numeral.toList := by
  rw [← mem_findIter_numeral_iff classes.isWord, ← numericPattern_eq]
  unfold extractNumeric
  rw [List.mem_map]
  simp only [← String.toList_inj, String.toList_ofList]

/-- A fixed text of the source: its characters are of Latin-1, and no digits. -/
def Undigited
    (text : List Char) :
    Bool :=
  text.all fun character => decide (character.toNat < 256) && !character.isDigit

theorem digitless_of_undigited
    {text : List Char}
    (fixed : Undigited text) :
    Digitless classes.isDecimal text := by
  intro character inside
  have known := List.all_eq_true.mp fixed character inside
  simp only [Bool.and_eq_true, decide_eq_true_eq, Bool.not_eq_true'] at known
  rw [classes.latin_isDecimal character known.1, known.2]

theorem isDecimal_of_space
    {character : Char}
    (space : isSpace character = true) :
    classes.isDecimal character = false := by
  by_contra decimal
  have alnum := classes.decimal_isAlnum character (by simpa using decimal)
  rw [classes.isAlnum_of_space character space] at alnum
  cases alnum

theorem isWord_of_space
    {character : Char}
    (space : isSpace character = true) :
    classes.isWord character = false := by
  have other : character ≠ '_' := by
    rintro rfl
    exact absurd space (by decide)
  unfold CharacterClasses.isWord
  rw [classes.isAlnum_of_space character space, beq_false_of_ne other, Bool.false_or]

/-- A snippet shows what the text that it is cut from shows. -/
theorem shownIn_snippet_iff
    {body figure : List Char}
    {before after : Nat}
    {found : Nat × Nat} :
    ShownIn classes.isDecimal '.' (snippet body before after found).toList figure ↔
      ShownIn classes.isDecimal '.'
        (slice body (found.1 - before) (min body.length (found.2 + after))) figure := by
  unfold snippet
  generalize slice body (found.1 - before) (min body.length (found.2 + after)) = window
  have newline : classes.isDecimal '\n' = false := isDecimal_of_space (by decide)
  have space : classes.isDecimal ' ' = false := isDecimal_of_space (by decide)
  have flattened : ShownIn classes.isDecimal '.'
      (window.map fun character => if character = '\n' then ' ' else character) figure ↔
        ShownIn classes.isDecimal '.' window figure := by
    refine shownIn_map_iff (fun character => ?_) (fun character => ?_)
      (fun character decimal => if_neg ?_) window
    · split
      · next same => rw [same, newline, space]
      · rfl
    · split
      · next same => simp [same]
      · rfl
    · rintro rfl
      rw [newline] at decimal
      cases decimal
  rw [← flattened]
  generalize (window.map fun character => if character = '\n' then ' ' else character) = line
  obtain ⟨⟨front, back, parts, leading, trailing⟩, -, -⟩ :=
    trimmed_strip.mpr (rfl : (strip (String.ofList line)).toList = _)
  rw [String.toList_ofList] at parts
  rw [parts, shownIn_append_right_iff fun character inside =>
      isDecimal_of_space (trailing character inside),
    shownIn_append_left_iff fun character inside =>
      isDecimal_of_space (leading character inside)]
  simp only [← parts]

/-- A claim shows what its snippet shows. -/
theorem shownIn_claim_iff
    {label text : String}
    {figure : List Char}
    (fixed : Undigited label.toList) :
    ShownIn classes.isDecimal '.' (label ++ ": «" ++ text ++ "»").toList figure ↔
      ShownIn classes.isDecimal '.' text.toList figure := by
  have opening : Undigited (label ++ ": «").toList := by
    rw [String.toList_append]
    unfold Undigited
    rw [List.all_append, Bool.and_eq_true]
    exact ⟨fixed, by decide⟩
  rw [String.toList_append, shownIn_append_right_iff (digitless_of_undigited (by decide)),
    String.toList_append, shownIn_append_left_iff (digitless_of_undigited opening)]

theorem slice_of_window
    {expression : Expression}
    {found : Nat × Nat}
    {body front window back : List Char}
    (cut : Window expression found body front window back) :
    slice body (found.1 - expression.before)
      (min body.length (found.2 + expression.after)) = window := by
  have lengths := congrArg List.length cut.parts
  have behind := cut.back
  simp only [List.length_append] at lengths
  have upTo : min body.length (found.2 + expression.after) = (front ++ window).length := by
    rw [List.length_append]
    omega
  rw [slice, upTo, cut.parts, List.take_left, ← cut.front, List.drop_left]

theorem window_of_slice
    (expression : Expression)
    (found : Nat × Nat)
    {body window : List Char}
    (cut : slice body (found.1 - expression.before)
      (min body.length (found.2 + expression.after)) = window)
    (filled : window ≠ []) :
    Window expression found body (body.take (found.1 - expression.before)) window
      (body.drop (min body.length (found.2 + expression.after))) := by
  have ordered : found.1 - expression.before ≤
      min body.length (found.2 + expression.after) := by
    by_contra crossed
    refine filled (cut ▸ List.drop_eq_nil_of_le ?_)
    rw [List.length_take]
    omega
  refine ⟨?_, ?_, ?_⟩
  · have parted := List.take_append_drop (found.1 - expression.before)
      (body.take (min body.length (found.2 + expression.after)))
    rw [List.take_take, Nat.min_eq_left ordered] at parted
    rw [← cut, slice, parted, List.take_append_drop]
  · rw [List.length_take]
    omega
  · rw [List.length_drop]
    omega

/-- A figure is shown where a window has it. -/
theorem exists_shown_iff
    {classes : CharacterClasses}
    {body figure : List Char} :
    (∃ before after, Shown classes body before figure after) ↔
      ∃ expression ∈ expressions classes,
        ∃ found ∈ expression.pattern.findIter classes.isWord body,
          ShownIn classes.isDecimal '.'
            (slice body (found.1 - expression.before)
              (min body.length (found.2 + expression.after))) figure := by
  constructor
  · rintro ⟨-, -, expression, listed, found, inside, front, first, second, back, window, shown,
      rfl, rfl⟩
    exact ⟨expression, listed, found, inside, first, second, slice_of_window window, shown⟩
  · rintro ⟨expression, listed, found, inside, first, second, cut, shown⟩
    have filled : first ++ figure ++ second ≠ [] := by
      obtain ⟨head, rest, rfl, -⟩ := shown.head
      simp
    exact ⟨_, _, expression, listed, found, inside, _, first, second, _,
      window_of_slice expression found cut filled, shown, rfl, rfl⟩

/-- The claims show the figures of their windows. -/
theorem exists_numeral_iff_shown
    {body numeral : String} :
    (∃ claim ∈ extractFactualClaims classes.toCharacterClasses body,
        numeral ∈ extractNumeric classes.toCharacterClasses claim) ↔
      ∃ before after,
        Shown classes.toCharacterClasses body.toList before numeral.toList after := by
  have claims : ∀ (label : String) (expression : Expression),
      Undigited label.toList →
      ((∃ claim ∈ claimsOf classes.toCharacterClasses label expression.pattern
            expression.before expression.after body,
          numeral ∈ extractNumeric classes.toCharacterClasses claim) ↔
        ∃ found ∈ expression.pattern.findIter classes.isWord body.toList,
          ShownIn classes.isDecimal '.'
            (slice body.toList (found.1 - expression.before)
              (min body.toList.length (found.2 + expression.after))) numeral.toList) := by
    intro label expression fixed
    simp only [claimsOf, List.mem_map, exists_exists_and_eq_and, mem_extractNumeric_iff,
      shownIn_claim_iff fixed, shownIn_snippet_iff]
  rw [exists_shown_iff]
  simp only [extractFactualClaims, List.mem_append, or_and_right, exists_or, expressions,
    List.exists_mem_cons_iff, List.not_mem_nil, false_and, exists_false, or_false]
  rw [claims "metric" ⟨_, 20, 20⟩ (by decide), claims "money" ⟨_, 20, 20⟩ (by decide),
    claims "scale" ⟨_, 10, 30⟩ (by decide), claims "time-claim" ⟨_, 10, 30⟩ (by decide),
    claims "setup-claim" ⟨_, 5, 30⟩ (by decide), claims "guarantee" ⟨_, 20, 40⟩ (by decide)]
  simp only [or_assoc]

end Claims

end Grounding
end MailerAgent
