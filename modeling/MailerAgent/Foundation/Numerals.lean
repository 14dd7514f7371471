import MailerAgent.Foundation.Regex

/-!
# Figures in a text

A reader goes through a text from the left and takes each figure that it comes upon whole:
a run of digits, with the fraction behind a point if there is one. Which figures a text
shows does not depend on what stands around them, as long as it has no digits. A search
for the expression of a figure finds exactly these.
-/

namespace Numerals

open Regex

universe u

variable {Symbol : Type u} (digit : Symbol → Bool) (point : Symbol)

/-- The text starts with a run of digits, and no digit follows. -/
structure Run (run rest : List Symbol) : Prop where
  nonempty : run ≠ []
  all : ∀ symbol ∈ run, digit symbol = true
  stops : ∀ symbol ∈ rest.head?, digit symbol = false

/-- The text starts with a figure: a run of digits without a fraction behind it, or a run
with its fraction. -/
inductive Leads : List Symbol → List Symbol → Prop where
  | whole {run rest : List Symbol} (first : Run digit run rest)
      (plain : ∀ next, [point, next] <+: rest → digit next = false) : Leads run rest
  | decimal {run fraction rest : List Symbol}
      (first : Run digit run (point :: (fraction ++ rest)))
      (second : Run digit fraction rest) : Leads (run ++ point :: fraction) rest

/-- A reader of the text comes upon a figure, between what stands before and after it. -/
inductive Shows : List Symbol → List Symbol → List Symbol → Prop where
  | here {figure rest : List Symbol} (leads : Leads digit point figure rest) :
      Shows [] figure rest
  | skip {symbol : Symbol} {before figure after : List Symbol} (other : digit symbol = false)
      (later : Shows before figure after) : Shows (symbol :: before) figure after
  | past {first before figure after : List Symbol}
      (leads : Leads digit point first (before ++ figure ++ after))
      (later : Shows before figure after) : Shows (first ++ before) figure after

/-- The text shows a figure. -/
def ShownIn (text figure : List Symbol) : Prop :=
  ∃ before after, text = before ++ figure ++ after ∧ Shows digit point before figure after

/-- No symbol is a digit. -/
def Digitless (text : List Symbol) : Prop :=
  ∀ symbol ∈ text, digit symbol = false

variable {digit point}

/-! ## Runs -/

theorem Run.takeWhile
    {run rest : List Symbol}
    (starts : Run digit run rest) :
    (run ++ rest).takeWhile digit = run := by
  rw [List.takeWhile_append_of_pos starts.all]
  cases rest with
  | nil => simp
  | cons symbol rest => simp [starts.stops symbol rfl]

theorem Run.unique
    {run rest other others : List Symbol}
    (starts : Run digit run rest)
    (startsToo : Run digit other others)
    (same : run ++ rest = other ++ others) :
    run = other ∧ rest = others := by
  have runs : run = other := by rw [← starts.takeWhile, same, startsToo.takeWhile]
  subst runs
  exact ⟨rfl, List.append_cancel_left same⟩

theorem exists_run
    {symbol : Symbol}
    (rest : List Symbol)
    (first : digit symbol = true) :
    ∃ run others, symbol :: rest = run ++ others ∧ Run digit run others := by
  refine ⟨(symbol :: rest).takeWhile digit, (symbol :: rest).dropWhile digit,
    List.takeWhile_append_dropWhile.symm, ?_, fun _ inside => List.mem_takeWhile_imp inside, ?_⟩
  · simp [first]
  · intro next leads
    have stops := List.head?_dropWhile_not digit (symbol :: rest)
    rwa [leads] at stops

theorem Run.head
    {run rest : List Symbol}
    (starts : Run digit run rest) :
    ∃ symbol others, run = symbol :: others ∧ digit symbol = true := by
  cases run with
  | nil => exact absurd rfl starts.nonempty
  | cons symbol others => exact ⟨symbol, others, rfl, starts.all symbol List.mem_cons_self⟩

theorem Run.last
    {run rest : List Symbol}
    (starts : Run digit run rest) :
    ∃ others symbol, run = others ++ [symbol] ∧ digit symbol = true := by
  rcases List.eq_nil_or_concat run with empty | ⟨others, symbol, rfl⟩
  · exact absurd empty starts.nonempty
  · refine ⟨others, symbol, by simp, starts.all symbol (by simp)⟩

theorem Run.of_head
    {run rest others : List Symbol}
    (starts : Run digit run rest)
    (stops : ∀ symbol ∈ others.head?, digit symbol = false) :
    Run digit run others :=
  ⟨starts.nonempty, starts.all, stops⟩

/-! ## Leading figures -/

section Leading

variable {figure rest : List Symbol}

theorem Leads.head (leads : Leads digit point figure rest) :
    ∃ symbol others, figure = symbol :: others ∧ digit symbol = true := by
  cases leads with
  | whole first plain => exact first.head
  | decimal first second =>
      obtain ⟨symbol, others, rfl, isDigit⟩ := first.head
      exact ⟨symbol, _, rfl, isDigit⟩

theorem Leads.last (leads : Leads digit point figure rest) :
    ∃ others symbol, figure = others ++ [symbol] ∧ digit symbol = true := by
  cases leads with
  | whole first plain => exact first.last
  | @decimal run _ _ first second =>
      obtain ⟨others, symbol, rfl, isDigit⟩ := second.last
      exact ⟨run ++ point :: others, symbol, by simp, isDigit⟩

/-- A figure is made of digits and points. -/
theorem Leads.symbols
    (leads : Leads digit point figure rest) :
    ∀ symbol ∈ figure, digit symbol = true ∨ symbol = point := by
  cases leads with
  | whole first plain => exact fun symbol inside => .inl (first.all symbol inside)
  | decimal first second =>
      intro symbol inside
      rcases List.mem_append.mp inside with whole | fraction
      · exact .inl (first.all symbol whole)
      · rcases List.mem_cons.mp fraction with rfl | fraction
        · exact .inr rfl
        · exact .inl (second.all symbol fraction)

theorem Leads.stops (leads : Leads digit point figure rest) :
    ∀ symbol ∈ rest.head?, digit symbol = false := by
  cases leads with
  | whole first plain => exact first.stops
  | decimal first second => exact second.stops

/-- Only one figure leads a text. -/
theorem Leads.unique
    {other others : List Symbol}
    (leads : Leads digit point figure rest)
    (leadsToo : Leads digit point other others)
    (same : figure ++ rest = other ++ others) :
    figure = other ∧ rest = others := by
  have apart : ∀ {run fraction behind : List Symbol},
      Run digit fraction behind →
      (∀ next, [point, next] <+: point :: (fraction ++ behind) → digit next = false) →
      run = ([] : List Symbol) := by
    intro run fraction behind second plain
    obtain ⟨symbol, more, rfl, isDigit⟩ := second.head
    have silent := plain symbol ⟨more ++ behind, rfl⟩
    rw [isDigit] at silent
    cases silent
  cases leads with
  | whole first plain =>
      cases leadsToo with
      | whole firstToo plainToo => exact first.unique firstToo same
      | decimal firstToo secondToo =>
          rw [List.append_assoc, List.cons_append] at same
          obtain ⟨rfl, rfl⟩ := first.unique firstToo same
          exact absurd (apart secondToo plain) first.nonempty
  | decimal first second =>
      cases leadsToo with
      | whole firstToo plainToo =>
          rw [List.append_assoc, List.cons_append] at same
          obtain ⟨rfl, rfl⟩ := first.unique firstToo same
          exact absurd (apart second plainToo) first.nonempty
      | decimal firstToo secondToo =>
          rw [List.append_assoc, List.append_assoc, List.cons_append, List.cons_append] at same
          obtain ⟨rfl, tails⟩ := first.unique firstToo same
          obtain ⟨rfl, rfl⟩ := second.unique secondToo (List.cons.inj tails).2
          exact ⟨rfl, rfl⟩

/-- A text that starts with a digit starts with a figure. -/
theorem exists_leads
    {symbol : Symbol}
    (rest : List Symbol)
    (first : digit symbol = true) :
    ∃ figure others, symbol :: rest = figure ++ others ∧ Leads digit point figure others := by
  obtain ⟨run, others, split, starts⟩ := exists_run rest first
  by_cases fraction : ∃ next, [point, next] <+: others ∧ digit next = true
  · obtain ⟨next, ⟨behind, rfl⟩, isDigit⟩ := fraction
    obtain ⟨fraction, after, parts, second⟩ := exists_run behind isDigit
    have whole : [point, next] ++ behind = point :: (fraction ++ after) := by
      rw [← parts]
      rfl
    rw [whole] at starts split
    exact ⟨_, after, by rw [split, List.append_assoc, List.cons_append], .decimal starts second⟩
  · refine ⟨run, others, split, .whole starts fun next follows => ?_⟩
    exact Bool.eq_false_iff.mpr fun isDigit => fraction ⟨next, follows, isDigit⟩

/-- A leading figure does not depend on what follows, if it goes on in the same way. -/
theorem Leads.of_rest
    {others : List Symbol}
    (leads : Leads digit point figure rest)
    (stops : ∀ symbol ∈ others.head?, digit symbol = false)
    (plain : ∀ next, [point, next] <+: others → digit next = true →
      ∃ same, [point, same] <+: rest ∧ digit same = true) :
    Leads digit point figure others := by
  cases leads with
  | whole first plainToo =>
      refine .whole (first.of_head stops) fun next follows =>
        Bool.eq_false_iff.mpr fun isDigit => ?_
      obtain ⟨same, before, isDigitToo⟩ := plain next follows isDigit
      rw [plainToo same before] at isDigitToo
      cases isDigitToo
  | decimal first second =>
      exact .decimal (first.of_head fun symbol leads => first.stops symbol leads)
        (second.of_head stops)

end Leading

/-- A text is made of figures and of symbols that are no digits. -/
theorem figure_induction
    {motive : List Symbol → Prop}
    (nil : motive [])
    (other : ∀ symbol rest, digit symbol = false → motive rest → motive (symbol :: rest))
    (figure : ∀ first rest, Leads digit point first rest → motive rest → motive (first ++ rest))
    (text : List Symbol) : motive text := by
  induction length : text.length using Nat.strong_induction_on generalizing text with
  | _ length inductionHypothesis =>
      subst length
      cases text with
      | nil => exact nil
      | cons symbol rest =>
          cases isDigit : digit symbol with
          | false =>
              exact other symbol rest isDigit
                (inductionHypothesis rest.length (Nat.lt_succ_self _) rest rfl)
          | true =>
              obtain ⟨first, others, split, leads⟩ := @exists_leads _ digit point _ rest isDigit
              rw [split]
              refine figure first others leads
                (inductionHypothesis others.length ?_ others rfl)
              obtain ⟨head, tail, rfl, -⟩ := leads.head
              rw [split]
              simp only [List.cons_append, List.length_cons, List.length_append]
              omega

/-! ## Figures that are shown -/

section Showing

variable {figure : List Symbol}

theorem Shows.head
    {before after : List Symbol}
    (shown : Shows digit point before figure after) :
    ∃ symbol others, figure = symbol :: others ∧ digit symbol = true := by
  induction shown with
  | here leads => exact leads.head
  | skip other later inductionHypothesis => exact inductionHypothesis
  | past leads later inductionHypothesis => exact inductionHypothesis

theorem Shows.last
    {before after : List Symbol}
    (shown : Shows digit point before figure after) :
    ∃ others symbol, figure = others ++ [symbol] ∧ digit symbol = true := by
  induction shown with
  | here leads => exact leads.last
  | skip other later inductionHypothesis => exact inductionHypothesis
  | past leads later inductionHypothesis => exact inductionHypothesis

theorem Shows.symbols
    {before after : List Symbol}
    (shown : Shows digit point before figure after) :
    ∀ symbol ∈ figure, digit symbol = true ∨ symbol = point := by
  induction shown with
  | here leads => exact leads.symbols
  | skip other later inductionHypothesis => exact inductionHypothesis
  | past leads later inductionHypothesis => exact inductionHypothesis

theorem not_shownIn_nil : ¬ShownIn digit point [] figure := by
  rintro ⟨before, after, empty, shown⟩
  obtain ⟨symbol, others, rfl, -⟩ := shown.head
  simp at empty

/-- A symbol that is no digit shows nothing. -/
theorem shownIn_cons_iff
    {symbol : Symbol}
    {rest : List Symbol}
    (other : digit symbol = false) :
    ShownIn digit point (symbol :: rest) figure ↔ ShownIn digit point rest figure := by
  constructor
  · rintro ⟨before, after, split, shown⟩
    cases shown with
    | here leads =>
        obtain ⟨head, others, rfl, isDigit⟩ := leads.head
        rw [← (List.cons.inj split).1, other] at isDigit
        cases isDigit
    | skip skipped later => exact ⟨_, after, (List.cons.inj split).2, later⟩
    | past leads later =>
        obtain ⟨head, others, rfl, isDigit⟩ := leads.head
        rw [← (List.cons.inj split).1, other] at isDigit
        cases isDigit
  · rintro ⟨before, after, rfl, shown⟩
    exact ⟨symbol :: before, after, rfl, .skip other shown⟩

/-- A text with a leading figure shows it, and what the rest shows. -/
theorem shownIn_leads_iff
    {first rest : List Symbol}
    (leads : Leads digit point first rest) :
    ShownIn digit point (first ++ rest) figure ↔
      figure = first ∨ ShownIn digit point rest figure := by
  constructor
  · rintro ⟨before, after, split, shown⟩
    cases shown with
    | here leadsToo => exact .inl (leads.unique leadsToo split).1.symm
    | skip skipped later =>
        obtain ⟨head, others, rfl, isDigit⟩ := leads.head
        rw [(List.cons.inj split).1, skipped] at isDigit
        cases isDigit
    | past leadsToo later =>
        simp only [List.append_assoc] at split leadsToo
        obtain ⟨rfl, rfl⟩ := leads.unique leadsToo split
        exact .inr ⟨_, after, by rw [List.append_assoc], later⟩
  · rintro (rfl | ⟨before, after, rfl, shown⟩)
    · exact ⟨[], rest, rfl, .here leads⟩
    · exact ⟨first ++ before, after, by simp only [List.append_assoc], .past leads shown⟩

theorem digitless_append_iff {front back : List Symbol} :
    Digitless digit (front ++ back) ↔ Digitless digit front ∧ Digitless digit back :=
  List.forall_mem_append

/-- Digitless text in front shows nothing. -/
theorem shownIn_append_left_iff
    {front : List Symbol}
    (digitless : Digitless digit front)
    (text : List Symbol) :
    ShownIn digit point (front ++ text) figure ↔ ShownIn digit point text figure := by
  induction front with
  | nil => rfl
  | cons symbol front inductionHypothesis =>
      rw [List.cons_append, shownIn_cons_iff (digitless symbol List.mem_cons_self)]
      exact inductionHypothesis fun other inside =>
        digitless other (List.mem_cons_of_mem _ inside)

theorem not_shownIn_of_digitless
    {text : List Symbol}
    (digitless : Digitless digit text) :
    ¬ShownIn digit point text figure := by
  rw [← List.append_nil text, shownIn_append_left_iff digitless]
  exact not_shownIn_nil

/-- Digitless text behind shows nothing. -/
theorem shownIn_append_right_iff
    {back : List Symbol}
    (digitless : Digitless digit back)
    (text : List Symbol) :
    ShownIn digit point (text ++ back) figure ↔ ShownIn digit point text figure := by
  induction text using @figure_induction _ digit point with
  | nil => exact iff_of_false (not_shownIn_of_digitless digitless) not_shownIn_nil
  | other symbol rest isOther inductionHypothesis =>
      rw [List.cons_append, shownIn_cons_iff isOther, shownIn_cons_iff isOther,
        inductionHypothesis]
  | figure first rest leads inductionHypothesis =>
      have stops : ∀ symbol ∈ (rest ++ back).head?, digit symbol = false := by
        intro symbol inside
        rw [List.head?_append] at inside
        rcases Option.or_eq_some_iff.mp inside with here | ⟨-, there⟩
        · exact leads.stops symbol here
        · exact digitless symbol (List.mem_of_mem_head? there)
      have plain : ∀ next, [point, next] <+: rest ++ back → digit next = true →
          ∃ same, [point, same] <+: rest ∧ digit same = true := by
        intro next follows isDigit
        have behind : next ∉ back := by
          intro inside
          rw [digitless next inside] at isDigit
          cases isDigit
        refine ⟨next, ?_, isDigit⟩
        obtain ⟨tail, split⟩ := follows
        cases rest with
        | nil =>
            rw [List.nil_append] at split
            exact absurd (by simp [← split]) behind
        | cons head others =>
            obtain ⟨rfl, remains⟩ := List.cons.inj split
            cases others with
            | nil =>
                have whole : next :: tail = back := remains
                exact absurd (by simp [← whole]) behind
            | cons second more =>
                obtain ⟨rfl, -⟩ := List.cons.inj remains
                exact ⟨more, rfl⟩
      rw [List.append_assoc, shownIn_leads_iff (leads.of_rest stops plain),
        shownIn_leads_iff leads, inductionHypothesis]

/-- Symbols may be replaced that are neither digits nor points. -/
theorem shownIn_map_iff
    {replace : Symbol → Symbol}
    (digits : ∀ symbol, digit (replace symbol) = digit symbol)
    (points : ∀ symbol, replace symbol = point ↔ symbol = point)
    (kept : ∀ symbol, digit symbol = true → replace symbol = symbol)
    (text : List Symbol) :
    ShownIn digit point (text.map replace) figure ↔ ShownIn digit point text figure := by
  induction text using @figure_induction _ digit point with
  | nil => rfl
  | other symbol rest isOther inductionHypothesis =>
      rw [List.map_cons, shownIn_cons_iff ((digits symbol).trans isOther),
        shownIn_cons_iff isOther, inductionHypothesis]
  | figure first rest leads inductionHypothesis =>
      have same : first.map replace = first := by
        refine (List.map_congr_left fun symbol inside => ?_).trans (List.map_id first)
        rcases leads.symbols symbol inside with isDigit | rfl
        · exact kept symbol isDigit
        · exact (points symbol).mpr rfl
      have stops : ∀ symbol ∈ (rest.map replace).head?, digit symbol = false := by
        intro symbol inside
        rw [List.head?_map] at inside
        obtain ⟨source, here, rfl⟩ := Option.map_eq_some_iff.mp inside
        exact (digits source).trans (leads.stops source here)
      have plain : ∀ next, [point, next] <+: rest.map replace → digit next = true →
          ∃ same, [point, same] <+: rest ∧ digit same = true := by
        rintro next ⟨tail, split⟩ isDigit
        cases rest with
        | nil => cases split
        | cons head others =>
            obtain ⟨pointed, remains⟩ := List.cons.inj split
            obtain rfl := (points head).mp pointed.symm
            cases others with
            | nil => cases remains
            | cons second more =>
                obtain ⟨rfl, -⟩ := List.cons.inj remains
                exact ⟨second, ⟨more, rfl⟩, (digits second).symm.trans isDigit⟩
      rw [List.map_append, same, shownIn_leads_iff (leads.of_rest stops plain),
        shownIn_leads_iff leads, inductionHypothesis]

end Showing

/-! ## The search for figures -/

/-- The expression of a figure: digits, and a point with digits behind it. -/
def numeral
    [DecidableEq Symbol]
    (digit : Symbol → Bool)
    (point : Symbol) : Pattern Symbol :=
  .seq (.some digit) (.opt (.seq (.one (· == point)) (.some digit)))

section Search

variable {isWord : Symbol → Bool} {text : List Symbol} {start : Nat}

theorem drop_of_drop
    {rest : List Symbol}
    (front : List Symbol)
    (here : text.drop start = front ++ rest) :
    text.drop (start + front.length) = rest := by
  rw [← List.drop_drop, here, List.drop_left]

theorem ends_one
    {accepts : Symbol → Bool}
    {symbol : Symbol}
    {rest : List Symbol}
    (here : text.drop start = symbol :: rest)
    (accepted : accepts symbol = true) :
    (Pattern.one accepts).ends isWord text start = [start + 1] := by
  have found : text[start]? = some symbol := by rw [← List.head?_drop, here, List.head?_cons]
  simp [Pattern.ends, found, accepted]

theorem ends_one_eq_nil
    {accepts : Symbol → Bool}
    (refused : ∀ symbol ∈ (text.drop start).head?, accepts symbol = false) :
    (Pattern.one accepts).ends isWord text start = [] := by
  rw [List.head?_drop] at refused
  rw [Pattern.ends]
  cases found : text[start]? with
  | none => rfl
  | some symbol => simp [refused symbol found]

/-- A repetition takes the whole run first. -/
theorem head_ends_some
    {run rest : List Symbol}
    (here : text.drop start = run ++ rest)
    (starts : Run digit run rest) :
    ((Pattern.some digit).ends isWord text start).head? = some (start + run.length) := by
  have all := starts.takeWhile
  obtain ⟨symbol, others, rfl, isDigit⟩ := starts.head
  have next : text.drop (start + 1) = others ++ rest :=
    drop_of_drop [symbol] here
  rw [List.cons_append, List.takeWhile_cons_of_pos isDigit] at all
  have further : (others ++ rest).takeWhile digit = others := (List.cons.inj all).2
  rw [Pattern.some, Pattern.ends, ends_one here isDigit, List.flatMap_singleton, Pattern.ends,
    next, further, List.range_succ, List.reverse_append, List.map_append, List.head?_append]
  simp only [List.reverse_singleton, List.map_singleton, List.head?_cons, Option.some_or,
    List.length_cons, Option.some.injEq]
  omega

theorem ends_some_eq_nil
    (stops : ∀ symbol ∈ (text.drop start).head?, digit symbol = false) :
    (Pattern.some digit).ends isWord text start = [] := by
  rw [Pattern.some, Pattern.ends, ends_one_eq_nil stops, List.flatMap_nil]

theorem head?_flatMap_of_head?
    {Value Result : Type u}
    {values : List Value}
    {value : Value}
    {next : Value → List Result}
    {result : Result}
    (first : values.head? = some value)
    (found : (next value).head? = some result) :
    (values.flatMap next).head? = some result := by
  obtain ⟨others, rfl⟩ := List.head?_eq_some_iff.mp first
  rw [List.flatMap_cons, List.head?_append, found]
  rfl

variable [DecidableEq Symbol]

/-- The option takes the fraction if there is one. -/
theorem head_ends_fraction
    {fraction rest : List Symbol}
    (here : text.drop start = point :: (fraction ++ rest))
    (starts : Run digit fraction rest) :
    ((Pattern.opt (.seq (.one (· == point)) (.some digit))).ends isWord text start).head? =
      some (start + 1 + fraction.length) := by
  have next : text.drop (start + 1) = fraction ++ rest :=
    drop_of_drop [point] here
  rw [Pattern.ends, List.head?_append, Pattern.ends, ends_one here (by simp),
    List.flatMap_singleton, head_ends_some next starts]
  rfl

theorem head_ends_no_fraction
    (plain : ∀ next, [point, next] <+: text.drop start → digit next = false) :
    ((Pattern.opt (.seq (.one (· == point)) (.some digit))).ends isWord text start).head? =
      some start := by
  have nothing : (Pattern.seq (.one (· == point)) (.some digit)).ends isWord text start = [] := by
    rw [Pattern.ends]
    cases here : text.drop start with
    | nil => rw [ends_one_eq_nil (by simp [here]), List.flatMap_nil]
    | cons symbol rest =>
        by_cases pointed : symbol = point
        · subst pointed
          rw [ends_one here (by simp), List.flatMap_singleton]
          refine ends_some_eq_nil fun next leads => ?_
          have behind : text.drop (start + 1) = rest := drop_of_drop [symbol] here
          rw [behind] at leads
          obtain ⟨more, rfl⟩ := List.head?_eq_some_iff.mp leads
          exact plain next (by rw [here]; exact ⟨more, rfl⟩)
        · rw [ends_one_eq_nil, List.flatMap_nil]
          simp [here, pointed]
  rw [Pattern.ends, nothing]
  rfl

/-- The match at a leading figure is the figure. -/
theorem matchAt_numeral
    {figure rest : List Symbol}
    (here : text.drop start = figure ++ rest)
    (leads : Leads digit point figure rest) :
    (numeral digit point).matchAt isWord text start = some (start + figure.length) := by
  unfold Pattern.matchAt numeral
  rw [Pattern.ends]
  cases leads with
  | whole first plain =>
      refine head?_flatMap_of_head? (head_ends_some here first) (head_ends_no_fraction ?_)
      rwa [drop_of_drop figure here]
  | @decimal run fraction _ first second =>
      rw [List.append_assoc, List.cons_append] at here
      refine head?_flatMap_of_head? (head_ends_some here first) ?_
      rw [head_ends_fraction (drop_of_drop run here) second]
      simp only [List.length_append, List.length_cons, Option.some.injEq]
      omega

theorem matchAt_numeral_eq_none
    (stops : ∀ symbol ∈ (text.drop start).head?, digit symbol = false) :
    (numeral digit point).matchAt isWord text start = none := by
  unfold Pattern.matchAt numeral
  rw [Pattern.ends, ends_some_eq_nil stops]
  rfl

theorem scan_numeral_of_end
    {fuel : Nat}
    (ended : text.drop start = []) :
    (numeral digit point).scan isWord text fuel start = [] := by
  induction fuel generalizing start with
  | zero => rfl
  | succ fuel inductionHypothesis =>
      have unmatched : (numeral digit point).matchAt isWord text start = none :=
        matchAt_numeral_eq_none (by simp [ended])
      rw [Pattern.scan, unmatched]
      refine inductionHypothesis ?_
      rw [← List.drop_drop, ended, List.drop_nil]

/-- The search finds exactly the figures that the rest of the text shows. -/
theorem mem_scan_numeral_iff
    {figure : List Symbol}
    (isWord : Symbol → Bool)
    (text rest : List Symbol)
    {fuel start : Nat}
    (here : text.drop start = rest)
    (enough : rest.length < fuel) :
    (∃ found ∈ (numeral digit point).scan isWord text fuel start,
        slice text found.1 found.2 = figure) ↔
      ShownIn digit point rest figure := by
  induction rest using @figure_induction _ digit point generalizing fuel start with
  | nil =>
      refine iff_of_false ?_ not_shownIn_nil
      rintro ⟨found, inside, -⟩
      rw [scan_numeral_of_end here] at inside
      cases inside
  | other symbol rest isOther inductionHypothesis =>
      obtain ⟨fuel, rfl⟩ := Nat.exists_eq_succ_of_ne_zero (Nat.ne_of_gt (Nat.zero_lt_of_lt enough))
      have unmatched : (numeral digit point).matchAt isWord text start = none :=
        matchAt_numeral_eq_none (by simp [here, isOther])
      rw [Pattern.scan, unmatched, shownIn_cons_iff isOther]
      exact inductionHypothesis (drop_of_drop [symbol] here) (Nat.lt_of_succ_lt_succ enough)
  | figure first rest leads inductionHypothesis =>
      obtain ⟨fuel, rfl⟩ := Nat.exists_eq_succ_of_ne_zero (Nat.ne_of_gt (Nat.zero_lt_of_lt enough))
      obtain ⟨head, tail, rfl, -⟩ := leads.head
      have later := @inductionHypothesis fuel _ (drop_of_drop _ here)
        (by simp at enough; omega)
      have taken : slice text start (start + (head :: tail).length) = head :: tail := by
        rw [slice, List.drop_take, here, Nat.add_sub_cancel_left, List.take_left]
      have next : max (start + (head :: tail).length) (start + 1) =
          start + (head :: tail).length := by
        simp
      rw [Pattern.scan, matchAt_numeral here leads, shownIn_leads_iff leads, ← later]
      simp only [next, List.exists_mem_cons_iff, taken, eq_comm]

/-- The search through a text finds exactly the figures that it shows. -/
theorem mem_findIter_numeral_iff
    {figure : List Symbol}
    (isWord : Symbol → Bool)
    (text : List Symbol) :
    (∃ found ∈ (numeral digit point).findIter isWord text,
        slice text found.1 found.2 = figure) ↔
      ShownIn digit point text figure :=
  mem_scan_numeral_iff isWord text text rfl (Nat.lt_succ_self _)

end Search

end Numerals
