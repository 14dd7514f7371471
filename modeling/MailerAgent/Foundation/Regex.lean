import MailerAgent.Foundation.Occurrences
import Mathlib.Data.List.TakeWhile

/-!
# Regular expressions with priorities

Patterns over any alphabet as a backtracking matcher reads them: alternatives in order,
repetitions and options greedy, and word boundaries. A match starts as far left as
possible and takes the first end in the order of priority.
-/

namespace Regex

open Occurrences

universe u

/-- Patterns. A repetition repeats one class of symbols. -/
inductive Pattern (Symbol : Type u) where
  | empty
  | one (accepts : Symbol → Bool)
  | many (accepts : Symbol → Bool)
  | boundary
  | seq (first second : Pattern Symbol)
  | alt (first second : Pattern Symbol)
  | opt (pattern : Pattern Symbol)

variable {Symbol : Type u}

/-- One symbol or more of a class. -/
def Pattern.some (accepts : Symbol → Bool) : Pattern Symbol :=
  .seq (.one accepts) (.many accepts)

/-- Patterns one after the other. -/
def Pattern.concat (patterns : List (Pattern Symbol)) : Pattern Symbol :=
  patterns.foldr .seq .empty

/-- The alternatives of a list, in order; the first one stands for itself. -/
def Pattern.choice (first : Pattern Symbol) : List (Pattern Symbol) → Pattern Symbol
  | [] => first
  | second :: others => .alt first (choice second others)

/-- The symbols of a word, one after the other. -/
def Pattern.literal
    [DecidableEq Symbol]
    (word : List Symbol) : Pattern Symbol :=
  .concat (word.map fun symbol => .one fun found => decide (found = symbol))

/-- A position between a word symbol and something else. -/
def isBoundary
    (isWord : Symbol → Bool)
    (before after : Option Symbol) : Bool :=
  before.any isWord != after.any isWord

/-- The ends of the matches that start at a position, in the order of priority. -/
def Pattern.ends
    (isWord : Symbol → Bool)
    (text : List Symbol) :
    Pattern Symbol → Nat → List Nat
  | empty, start => [start]
  | one accepts, start =>
      match text[start]? with
      | .some symbol => if accepts symbol then [start + 1] else []
      | none => []
  | many accepts, start =>
      (List.range (((text.drop start).takeWhile accepts).length + 1)).reverse.map (start + ·)
  | boundary, start =>
      if isBoundary isWord (text.take start).getLast? text[start]? then [start] else []
  | seq first second, start => (first.ends isWord text start).flatMap (second.ends isWord text)
  | alt first second, start => first.ends isWord text start ++ second.ends isWord text start
  | opt pattern, start => pattern.ends isWord text start ++ [start]

/-- The match at a position. -/
def Pattern.matchAt
    (isWord : Symbol → Bool)
    (text : List Symbol)
    (pattern : Pattern Symbol)
    (start : Nat) : Option Nat :=
  (pattern.ends isWord text start).head?

/-- The matches from a position on; each starts where the one before it ended, or after
an empty match one further. -/
def Pattern.scan
    (isWord : Symbol → Bool)
    (text : List Symbol)
    (pattern : Pattern Symbol) : Nat → Nat → List (Nat × Nat)
  | 0, _ => []
  | fuel + 1, start =>
      match pattern.matchAt isWord text start with
      | .some finish =>
          (start, finish) :: scan isWord text pattern fuel (max finish (start + 1))
      | none => scan isWord text pattern fuel (start + 1)

/-- `finditer`: all matches from the left. -/
def Pattern.findIter
    (isWord : Symbol → Bool)
    (text : List Symbol)
    (pattern : Pattern Symbol) : List (Nat × Nat) :=
  pattern.scan isWord text (text.length + 1) 0

/-- `search`: there is a match. -/
def Pattern.search
    (isWord : Symbol → Bool)
    (text : List Symbol)
    (pattern : Pattern Symbol) : Bool :=
  (List.range (text.length + 1)).any fun start =>
    (pattern.matchAt isWord text start).isSome

/-- The symbols between two positions. -/
def slice
    (text : List Symbol)
    (start finish : Nat) : List Symbol :=
  (text.take finish).drop start

/-! ## Ends -/

variable {isWord : Symbol → Bool} {text : List Symbol} {start finish : Nat}

/-- The classes of a pattern are within a larger class. -/
def Pattern.Within (inClass : Symbol → Prop) : Pattern Symbol → Prop
  | empty => True
  | one accepts => ∀ symbol, accepts symbol = true → inClass symbol
  | many accepts => ∀ symbol, accepts symbol = true → inClass symbol
  | boundary => True
  | seq first second => first.Within inClass ∧ second.Within inClass
  | alt first second => first.Within inClass ∧ second.Within inClass
  | opt pattern => pattern.Within inClass

/-- The symbols from one position to another are in a class. -/
def Spans
    (inClass : Symbol → Prop)
    (text : List Symbol)
    (start finish : Nat) : Prop :=
  start ≤ finish ∧ ∀ position, start ≤ position → position < finish →
    ∃ symbol, text[position]? = .some symbol ∧ inClass symbol

theorem Spans.refl (inClass : Symbol → Prop) : Spans inClass text start start :=
  ⟨le_rfl, fun _ low high => absurd low (Nat.not_le.mpr high)⟩

theorem Spans.trans
    {inClass : Symbol → Prop}
    {middle : Nat}
    (first : Spans inClass text start middle)
    (second : Spans inClass text middle finish) :
    Spans inClass text start finish := by
  refine ⟨first.1.trans second.1, fun position low high => ?_⟩
  by_cases before : position < middle
  · exact first.2 position low before
  · exact second.2 position (Nat.not_lt.mp before) high

/-- A match consists of symbols of the pattern's classes. -/
theorem Pattern.spans_of_mem_ends
    {inClass : Symbol → Prop}
    {pattern : Pattern Symbol}
    (within : pattern.Within inClass)
    (member : finish ∈ pattern.ends isWord text start) :
    Spans inClass text start finish := by
  induction pattern generalizing start finish with
  | empty =>
      obtain rfl := List.mem_singleton.mp member
      exact Spans.refl inClass
  | boundary =>
      unfold Pattern.ends at member
      split at member
      · obtain rfl := List.mem_singleton.mp member
        exact Spans.refl inClass
      · cases member
  | one accepts =>
      unfold Pattern.ends at member
      split at member
      · next symbol found =>
          split at member
          · next accepted =>
              obtain rfl := List.mem_singleton.mp member
              refine ⟨Nat.le_succ start, fun position low high => ⟨symbol, ?_, ?_⟩⟩
              · obtain rfl : position = start := by omega
                exact found
              · exact within symbol accepted
          · cases member
      · cases member
  | many accepts =>
      unfold Pattern.ends at member
      obtain ⟨count, bounded, rfl⟩ := List.mem_map.mp member
      have few := List.mem_range.mp (List.mem_reverse.mp bounded)
      refine ⟨Nat.le_add_right _ _, fun position low high => ?_⟩
      obtain ⟨offset, rfl⟩ := Nat.exists_eq_add_of_le low
      have inside : offset < ((text.drop start).takeWhile accepts).length := by omega
      have accepted := List.mem_takeWhile_imp (List.getElem_mem inside)
      refine ⟨_, ?_, within _ accepted⟩
      rw [← List.getElem?_drop, ← List.getElem?_eq_getElem inside]
      conv => lhs; rw [← List.takeWhile_append_dropWhile (p := accepts) (l := text.drop start)]
      exact List.getElem?_append_left inside
  | seq first second firstSpans secondSpans =>
      obtain ⟨middle, here, there⟩ := List.mem_flatMap.mp member
      exact (firstSpans within.1 here).trans (secondSpans within.2 there)
  | alt first second firstSpans secondSpans =>
      exact (List.mem_append.mp member).elim (firstSpans within.1) (secondSpans within.2)
  | opt pattern spans =>
      rcases List.mem_append.mp member with taken | skipped
      · exact spans within taken
      · obtain rfl := List.mem_singleton.mp skipped
        exact Spans.refl inClass

/-- The class of all symbols. -/
theorem Pattern.within_true (pattern : Pattern Symbol) : pattern.Within fun _ => True := by
  induction pattern with
  | empty => trivial
  | boundary => trivial
  | one accepts => exact fun _ _ => trivial
  | many accepts => exact fun _ _ => trivial
  | seq first second firstWithin secondWithin => exact ⟨firstWithin, secondWithin⟩
  | alt first second firstWithin secondWithin => exact ⟨firstWithin, secondWithin⟩
  | opt pattern within => exact within

theorem Pattern.le_of_mem_ends
    {pattern : Pattern Symbol}
    (member : finish ∈ pattern.ends isWord text start) :
    start ≤ finish :=
  (Pattern.spans_of_mem_ends pattern.within_true member).1

/-- A pattern that starts with a repetition of at least one symbol advances. -/
theorem Pattern.lt_of_mem_ends_some
    {accepts : Symbol → Bool}
    {rest : Pattern Symbol}
    (member : finish ∈ (Pattern.seq (.some accepts) rest).ends isWord text start) :
    start < finish := by
  obtain ⟨middle, repeated, after⟩ := List.mem_flatMap.mp member
  obtain ⟨next, first, others⟩ := List.mem_flatMap.mp repeated
  have advanced : next = start + 1 := by
    unfold Pattern.ends at first
    split at first
    · split at first
      · exact List.mem_singleton.mp first
      · cases first
    · cases first
  have more := Pattern.le_of_mem_ends others
  have final := Pattern.le_of_mem_ends after
  omega

/-! ## Slices -/

/-- The symbols of a slice are those between its positions. -/
theorem mem_slice
    {inClass : Symbol → Prop}
    (spans : Spans inClass text start finish)
    {symbol : Symbol}
    (member : symbol ∈ slice text start finish) :
    inClass symbol := by
  obtain ⟨offset, bound, rfl⟩ := List.getElem_of_mem member
  unfold slice at bound ⊢
  rw [List.length_drop, List.length_take] at bound
  obtain ⟨found, here, fine⟩ := spans.2 (start + offset) (Nat.le_add_right _ _) (by omega)
  rw [List.getElem_drop, List.getElem_take]
  obtain ⟨inside, same⟩ := List.getElem?_eq_some_iff.mp here
  exact same ▸ fine

theorem slice_ne_nil
    {inClass : Symbol → Prop}
    (spans : Spans inClass text start finish)
    (advances : start < finish) :
    slice text start finish ≠ [] := by
  intro empty
  have length := congrArg List.length empty
  unfold slice at length
  rw [List.length_drop, List.length_take, List.length_nil] at length
  obtain ⟨symbol, here, -⟩ := spans.2 (finish - 1) (by omega) (by omega)
  have inside := (List.getElem?_eq_some_iff.mp here).1
  omega

/-- Every match that is found is a match of the pattern. -/
theorem Pattern.mem_ends_of_mem_scan
    {pattern : Pattern Symbol}
    {fuel origin : Nat}
    (member : (start, finish) ∈ pattern.scan isWord text fuel origin) :
    finish ∈ pattern.ends isWord text start := by
  induction fuel generalizing origin with
  | zero => cases member
  | succ fuel inductionHypothesis =>
      unfold Pattern.scan at member
      split at member
      · next found =>
          rcases List.mem_cons.mp member with here | later
          · obtain ⟨rfl, rfl⟩ := Prod.mk.inj here
            exact List.mem_of_head? found
          · exact inductionHypothesis later
      · exact inductionHypothesis member

theorem Pattern.mem_ends_of_mem_findIter
    {pattern : Pattern Symbol}
    (member : (start, finish) ∈ pattern.findIter isWord text) :
    finish ∈ pattern.ends isWord text start :=
  pattern.mem_ends_of_mem_scan member

/-! ## Whole words -/

/-- A literal word matches where the text goes on with it. -/
theorem Pattern.ends_literal
    [DecidableEq Symbol]
    (word : List Symbol)
    (start : Nat) :
    (Pattern.literal word).ends isWord text start =
      if word <+: text.drop start then [start + word.length] else [] := by
  unfold Pattern.literal Pattern.concat
  induction word generalizing start with
  | nil => simp [Pattern.ends]
  | cons symbol word inductionHypothesis =>
      rw [List.map_cons, List.foldr_cons, Pattern.ends, Pattern.ends]
      cases found : text[start]? with
      | none =>
          have short := List.getElem?_eq_none_iff.mp found
          rw [List.drop_eq_nil_of_le short, if_neg (by simp)]
          rfl
      | some first =>
          obtain ⟨inside, rfl⟩ := List.getElem?_eq_some_iff.mp found
          rw [List.drop_eq_getElem_cons inside]
          by_cases same : text[start] = symbol
          · simp only [same, decide_true, if_true, List.flatMap_singleton,
              inductionHypothesis, List.cons_prefix_cons, true_and, List.length_cons]
            rw [Nat.add_assoc, Nat.add_comm 1]
          · have apart : ¬symbol :: word <+: text[start] :: text.drop (start + 1) :=
              fun starts => same (List.cons_prefix_cons.mp starts).1.symm
            rw [if_neg apart]
            simp [same]

/-- `\b` on both sides of a word. -/
def Pattern.wholeWord
    [DecidableEq Symbol]
    (word : List Symbol) : Pattern Symbol :=
  .seq .boundary (.seq (.literal word) .boundary)

/-- Neighbours that make both ends of a word boundaries. -/
def Bounded
    (isWord : Symbol → Bool)
    (word : List Symbol)
    (before after : Option Symbol) : Prop :=
  isBoundary isWord before (word.head?.or after) = true ∧
    isBoundary isWord (word.getLast?.or before) after = true

/-- The ends of a word at its place in a text. -/
theorem bounded_iff (before word after : List Symbol) :
    (isBoundary isWord ((before ++ (word ++ after)).take before.length).getLast?
          (before ++ (word ++ after))[before.length]? = true ∧
        isBoundary isWord
          ((before ++ (word ++ after)).take (before.length + word.length)).getLast?
          (before ++ (word ++ after))[before.length + word.length]? = true) ↔
      Bounded isWord word before.getLast? after.head? := by
  have next : (before ++ (word ++ after))[before.length]? = word.head?.or after.head? := by
    rw [List.getElem?_append_right le_rfl, Nat.sub_self, ← List.head?_eq_getElem?,
      List.head?_append]
  have through : (before ++ (word ++ after)).take (before.length + word.length) =
      before ++ word := by
    rw [← List.append_assoc, ← List.length_append, List.take_left]
  have beyond : (before ++ (word ++ after))[before.length + word.length]? = after.head? := by
    rw [← List.append_assoc, ← List.length_append, List.getElem?_append_right le_rfl,
      Nat.sub_self, ← List.head?_eq_getElem?]
  rw [List.take_left, next, through, beyond, List.getLast?_append]
  rfl

/-- The search for a whole word finds the occurrences with boundaries on both sides. -/
theorem search_wholeWord_iff
    [DecidableEq Symbol]
    {word : List Symbol} :
    (Pattern.wholeWord word).search isWord text = true ↔
      Occurs (Bounded isWord word) word text := by
  have matching : ∀ start,
      ((Pattern.wholeWord word).matchAt isWord text start).isSome = true ↔
        isBoundary isWord (text.take start).getLast? text[start]? = true ∧
          word <+: text.drop start ∧
          isBoundary isWord (text.take (start + word.length)).getLast?
            text[start + word.length]? = true := by
    intro start
    unfold Pattern.matchAt Pattern.wholeWord
    rw [Pattern.ends, Pattern.ends]
    cases isBoundary isWord (text.take start).getLast? text[start]? with
    | false => simp
    | true =>
        simp only [if_true, List.flatMap_singleton, true_and]
        rw [Pattern.ends, Pattern.ends_literal]
        by_cases starts : word <+: text.drop start
        · simp only [starts, if_true, List.flatMap_singleton, true_and]
          rw [Pattern.ends]
          split
          · next ends => simp [ends]
          · next apart => simp [apart]
        · simp [starts]
  unfold Pattern.search
  rw [List.any_eq_true]
  constructor
  · rintro ⟨start, bounded, found⟩
    obtain ⟨first, ⟨after, rest⟩, second⟩ := (matching start).mp found
    have inside : start ≤ text.length := Nat.lt_succ_iff.mp (List.mem_range.mp bounded)
    have split : text = text.take start ++ (word ++ after) := by
      rw [rest, List.take_append_drop]
    refine ⟨text.take start, after, split, (bounded_iff _ _ _).mp ?_⟩
    rw [← split, List.length_take, Nat.min_eq_left inside]
    exact ⟨first, second⟩
  · rintro ⟨before, after, rfl, fit⟩
    obtain ⟨first, second⟩ := (bounded_iff before word after).mpr fit
    refine ⟨before.length, ?_, (matching _).mpr ⟨first, ?_, second⟩⟩
    · rw [List.mem_range, List.length_append]
      omega
    · rw [List.drop_left]
      exact List.prefix_append _ _

/-- A symbol that belongs to no word is as good as the end of the text. -/
theorem separates_bounded
    {word : List Symbol}
    {separator : Symbol}
    (nonempty : word ≠ [])
    (outside : isWord separator = false) :
    Separates (Bounded isWord word) separator := by
  cases first : word.head? with
  | none => exact absurd (List.head?_eq_none_iff.mp first) nonempty
  | some symbol =>
      cases last : word.getLast? with
      | none => exact absurd (List.getLast?_eq_none_iff.mp last) nonempty
      | some final =>
          refine ⟨fun after => ?_, fun before => ?_⟩
          · simp [Bounded, first, last, isBoundary, outside]
          · simp [Bounded, first, last, isBoundary, outside]

end Regex
