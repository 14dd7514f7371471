import Mathlib.Data.List.Basic
import Mathlib.Data.List.TakeWhile

/-!
# Python text operations

The string methods used by the modelled code, on sequences of Unicode scalar
values: the whitespace class of `str.isspace`, `str.strip` and `str.split`
without arguments, which go by that class, and joining with spaces. What is left
when the characters of a class are dropped at both ends is also stated without
computing it.
-/

namespace PyText

/-- The characters for which `str.isspace` is true. -/
def isSpace (character : Char) : Bool :=
  let code := character.toNat
  (9 ≤ code && code ≤ 13) || (28 ≤ code && code ≤ 32) || code == 0x85 ||
    code == 0xa0 || code == 0x1680 || (0x2000 ≤ code && code ≤ 0x200a) ||
    code == 0x2028 || code == 0x2029 || code == 0x202f || code == 0x205f ||
    code == 0x3000

/-- `text.strip()`. -/
def strip (text : String) : String :=
  String.ofList
    (((text.toList.dropWhile isSpace).reverse.dropWhile isSpace).reverse)

/-! ## Dropping at both ends -/

/-- The inner characters are what is left when the characters of a class are dropped
at both ends of the whole. -/
structure Trimmed
    (dropped : Char → Bool)
    (whole inner : List Char) : Prop where
  parted : ∃ front back, whole = front ++ inner ++ back ∧
    (∀ character ∈ front, dropped character = true) ∧
    ∀ character ∈ back, dropped character = true
  first : ∀ character ∈ inner.head?, dropped character = false
  last : ∀ character ∈ inner.getLast?, dropped character = false

theorem dropWhile_of_head
    {dropped : Char → Bool}
    {characters : List Char}
    (kept : ∀ character ∈ characters.head?, dropped character = false) :
    characters.dropWhile dropped = characters := by
  cases characters with
  | nil => rfl
  | cons character rest =>
      exact List.dropWhile_cons_of_neg (by simpa using kept character rfl)

theorem head_dropWhile
    {dropped : Char → Bool}
    (characters : List Char) :
    ∀ character ∈ (characters.dropWhile dropped).head?, dropped character = false := by
  intro character first
  have stops := List.head?_dropWhile_not dropped characters
  rwa [first] at stops

/-- Dropping from the front and then from the back leaves exactly the inner
characters. -/
theorem trimmed_iff
    {dropped : Char → Bool}
    {whole inner : List Char} :
    Trimmed dropped whole inner ↔
      ((whole.dropWhile dropped).reverse.dropWhile dropped).reverse = inner := by
  constructor
  · rintro ⟨⟨front, back, rfl, leading, trailing⟩, first, last⟩
    rw [List.append_assoc, List.dropWhile_append_of_pos leading]
    cases inner with
    | nil =>
        have nothing := List.dropWhile_eq_nil_iff.mpr trailing
        simp [nothing]
    | cons character rest =>
        have kept : ∀ other ∈ (character :: rest ++ back).head?, dropped other = false := first
        have behind : ∀ other ∈ back.reverse, dropped other = true :=
          fun other inside => trailing other (List.mem_reverse.mp inside)
        rw [dropWhile_of_head kept, List.reverse_append, List.dropWhile_append_of_pos behind,
          dropWhile_of_head, List.reverse_reverse]
        rwa [List.head?_reverse]
  · rintro rfl
    have parted : whole.dropWhile dropped =
        ((whole.dropWhile dropped).reverse.dropWhile dropped).reverse ++
          ((whole.dropWhile dropped).reverse.takeWhile dropped).reverse := by
      rw [← List.reverse_append, List.takeWhile_append_dropWhile, List.reverse_reverse]
    refine ⟨⟨whole.takeWhile dropped,
      ((whole.dropWhile dropped).reverse.takeWhile dropped).reverse, ?_, ?_, ?_⟩, ?_, ?_⟩
    · rw [List.append_assoc, ← parted, List.takeWhile_append_dropWhile]
    · exact fun character inside => List.mem_takeWhile_imp inside
    · exact fun character inside => List.mem_takeWhile_imp (List.mem_reverse.mp inside)
    · intro character leads
      refine head_dropWhile whole character ?_
      rw [parted, List.head?_append, leads]
      rfl
    · rw [List.getLast?_reverse]
      exact head_dropWhile _

theorem trimmed_strip
    {text : String}
    {inner : List Char} :
    Trimmed isSpace text.toList inner ↔ (strip text).toList = inner := by
  rw [trimmed_iff, strip, String.toList_ofList]

/-- The part of the text after the last occurrence of a separator character,
`text.split(separator)[-1]`. -/
def afterLast
    (separator : Char)
    (text : String) : String :=
  String.ofList
    ((text.toList.reverse.takeWhile fun character => character != separator).reverse)

/-- Split characters into maximal runs without whitespace; the first argument is
the run being read, reversed. -/
def splitRuns : List Char → List Char → List (List Char)
  | [], [] => []
  | run, [] => [run.reverse]
  | run, character :: rest =>
      if isSpace character then
        match run with
        | [] => splitRuns [] rest
        | _ => run.reverse :: splitRuns [] rest
      else splitRuns (character :: run) rest

/-- `text.split()`. -/
def split (text : String) : List String :=
  (splitRuns [] text.toList).map String.ofList

/-- `" ".join(words)`. -/
def joinSpace (words : List String) : String :=
  String.intercalate " " words

/-! ## Words -/

/-- Characters of a word: some, and none of them whitespace. -/
def Spaceless (characters : List Char) : Prop :=
  characters ≠ [] ∧ ∀ character ∈ characters, isSpace character = false

/-- A text without whitespace that is not empty. -/
def Word (text : String) : Prop :=
  Spaceless text.toList

theorem strip_of_spaceless
    {text : String}
    (spaceless : ∀ character ∈ text.toList, isSpace character = false) :
    strip text = text := by
  refine String.toList_inj.mp (trimmed_strip.mp ⟨⟨[], [], by simp, by simp, by simp⟩, ?_, ?_⟩)
  · exact fun character first => spaceless character (List.mem_of_mem_head? first)
  · exact fun character last => spaceless character (List.mem_of_mem_getLast? last)

theorem strip_of_word
    {text : String}
    (word : Word text) :
    strip text = text :=
  strip_of_spaceless word.2

/-- A word is read into the run. -/
theorem splitRuns_append
    {characters : List Char}
    (run rest : List Char)
    (spaceless : ∀ character ∈ characters, isSpace character = false) :
    splitRuns run (characters ++ rest) = splitRuns (characters.reverse ++ run) rest := by
  induction characters generalizing run with
  | nil => rfl
  | cons character characters inductionHypothesis =>
      rw [List.cons_append, splitRuns.eq_def]
      simp only [spaceless character List.mem_cons_self, Bool.false_eq_true, if_false]
      rw [inductionHypothesis _ fun other member =>
        spaceless other (List.mem_cons_of_mem _ member)]
      simp

theorem splitRuns_of_spaceless
    {characters : List Char}
    (spaceless : Spaceless characters) :
    splitRuns [] characters = [characters] := by
  have read := splitRuns_append [] [] spaceless.2
  rw [List.append_nil, List.append_nil] at read
  rw [read]
  cases reversed : characters.reverse with
  | nil => exact absurd (List.reverse_eq_nil_iff.mp reversed) spaceless.1
  | cons last others =>
      rw [splitRuns, ← reversed, List.reverse_reverse]
      nofun

theorem splitRuns_of_spaceless_cons
    {characters : List Char}
    (rest : List Char)
    (spaceless : Spaceless characters) :
    splitRuns [] (characters ++ ' ' :: rest) = characters :: splitRuns [] rest := by
  rw [splitRuns_append [] _ spaceless.2, List.append_nil]
  cases reversed : characters.reverse with
  | nil => exact absurd (List.reverse_eq_nil_iff.mp reversed) spaceless.1
  | cons last others =>
      rw [splitRuns.eq_def]
      simp only [show isSpace ' ' = true from rfl, if_true]
      rw [← reversed, List.reverse_reverse]

/-- Joined words come apart again. -/
theorem split_joinSpace
    {words : List String}
    (spaceless : ∀ word ∈ words, Word word) :
    split (joinSpace words) = words := by
  suffices runs : splitRuns [] (joinSpace words).toList = words.map String.toList by
    unfold split
    rw [runs, List.map_map]
    exact (List.map_congr_left fun word _ => String.ofList_toList).trans (List.map_id words)
  induction words with
  | nil => rfl
  | cons word words inductionHypothesis =>
      have here := spaceless word List.mem_cons_self
      have there := inductionHypothesis fun other member =>
        spaceless other (List.mem_cons_of_mem _ member)
      cases words with
      | nil =>
          unfold joinSpace
          rw [String.intercalate_singleton]
          exact splitRuns_of_spaceless here
      | cons next words =>
          unfold joinSpace at there ⊢
          rw [String.intercalate_cons_cons, String.toList_append, String.toList_append,
            List.append_assoc]
          change splitRuns [] (word.toList ++ ' ' :: (" ".intercalate (next :: words)).toList) = _
          rw [splitRuns_of_spaceless_cons _ here, there]
          rfl

theorem joinSpace_ne_empty
    {word : String}
    (words : List String)
    (spaceless : Word word) :
    joinSpace (word :: words) ≠ "" := by
  intro empty
  have characters := congrArg String.toList empty
  cases words with
  | nil =>
      unfold joinSpace at characters
      rw [String.intercalate_singleton] at characters
      exact spaceless.1 characters
  | cons next words =>
      unfold joinSpace at characters
      rw [String.intercalate_cons_cons, String.toList_append, String.toList_append] at characters
      exact spaceless.1 (List.append_eq_nil_iff.mp (List.append_eq_nil_iff.mp characters).1).1

theorem spaceless_of_mem_splitRuns
    {run characters word : List Char}
    (reading : ∀ character ∈ run, isSpace character = false)
    (member : word ∈ splitRuns run characters) :
    Spaceless word := by
  induction characters generalizing run with
  | nil =>
      cases run with
      | nil => cases member
      | cons last others =>
          obtain rfl := List.mem_singleton.mp member
          exact ⟨fun empty => List.cons_ne_nil _ _ (List.reverse_eq_nil_iff.mp empty),
            fun character inside => reading character (List.mem_reverse.mp inside)⟩
  | cons character characters inductionHypothesis =>
      have nothing : ∀ other ∈ ([] : List Char), isSpace other = false :=
        fun _ inside => by cases inside
      rw [splitRuns.eq_def] at member
      simp only at member
      split at member
      · split at member
        · exact inductionHypothesis nothing member
        · next unfinished =>
            rcases List.mem_cons.mp member with rfl | later
            · refine ⟨fun empty => unfinished (List.reverse_eq_nil_iff.mp empty),
                fun other inside => reading other (List.mem_reverse.mp inside)⟩
            · exact inductionHypothesis nothing later
      · next space =>
          refine inductionHypothesis ?_ member
          intro other inside
          rcases List.mem_cons.mp inside with rfl | earlier
          · exact Bool.not_eq_true _ ▸ space
          · exact reading other earlier

/-- What a split yields are words. -/
theorem word_of_mem_split
    {text word : String}
    (member : word ∈ split text) :
    Word word := by
  obtain ⟨characters, inside, rfl⟩ := List.mem_map.mp member
  unfold Word
  rw [String.toList_ofList]
  exact spaceless_of_mem_splitRuns (fun _ nothing => by cases nothing) inside

end PyText
