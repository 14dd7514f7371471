import MailerAgent.Llm.Provider

/-!
# Reading the texts of the model

What `_chat_with_retry` and `_parse_json` make of a text, without their computation: a text
is read as the value that `json.loads` gives for it when whitespace and a code fence are
taken off, or else for its part between the outermost braces.
-/

namespace MailerAgent
namespace Llm

open PyText

/-! ## What is read -/

/-- A text without its code fence: of a text that opens with three backticks, what is left
inside all of them, without the name of the format and whitespace. -/
inductive Unfenced (text : List Char) : List Char → Prop where
  | bare (noFence : ¬"```".toList <+: text) : Unfenced text text
  | named {rest inner : List Char} (fence : "```".toList <+: text)
      (between : Trimmed (· == '`') text ("json".toList ++ rest))
      (content : Trimmed isSpace rest inner) : Unfenced text inner
  | unnamed {body inner : List Char} (fence : "```".toList <+: text)
      (between : Trimmed (· == '`') text body) (noName : ¬"json".toList <+: body)
      (content : Trimmed isSpace body inner) : Unfenced text inner

/-- The part of a text from its first opening brace to its last closing one. -/
def Braced (text part : List Char) : Prop :=
  ∃ before inner after, text = before ++ part ++ after ∧ part = '{' :: inner ++ ['}'] ∧
    '{' ∉ before ∧ '}' ∉ after

/-- The value that is read from a text of the provider, which is not blank: what
`json.loads` makes of it without whitespace and fence, or of the part in braces where it
makes nothing of the whole. -/
def Reads
    (library : Library)
    (text : String)
    (value : Json) : Prop :=
  ∃ stripped cleaned, Trimmed isSpace text.toList stripped ∧ stripped ≠ [] ∧
    Unfenced stripped cleaned ∧
      (library.loads (String.ofList cleaned) = .ok value ∨
        (∃ error, library.loads (String.ofList cleaned) = .error error) ∧
          ∃ part, Braced cleaned part ∧ library.loads (String.ofList part) = .ok value)

/-! ## What the code reads -/

theorem trimmed_stripBackticks
    {text inner : List Char} :
    Trimmed (· == '`') text inner ↔ stripBackticks text = inner :=
  trimmed_iff

theorem strip_strip (text : String) : strip (strip text) = strip text := by
  have trimmed : Trimmed isSpace text.toList (strip text).toList := trimmed_strip.mpr rfl
  exact String.toList_inj.mp
    (trimmed_strip.mp ⟨⟨[], [], by simp, by simp, by simp⟩, trimmed.first, trimmed.last⟩)

/-- Taking off the fence leaves exactly the text without it. -/
theorem unfenced_iff
    {text : String}
    {inner : List Char} :
    Unfenced text.toList inner ↔ (withoutFence text).toList = inner := by
  unfold withoutFence
  by_cases fence : text.startsWith "```" = true
  · have opens := String.startsWith_string_iff.mp fence
    rw [if_pos fence, ← trimmed_strip, String.toList_ofList]
    constructor
    · rintro (bare | ⟨-, between, content⟩ | ⟨-, between, noName, content⟩)
      · exact absurd opens bare
      · rw [trimmed_stripBackticks.mp between, if_pos (List.prefix_append _ _)]
        exact content
      · rw [trimmed_stripBackticks.mp between, if_neg noName]
        exact content
    · intro content
      split at content
      case isTrue named =>
        obtain ⟨rest, parts⟩ := named
        rw [← parts] at content
        exact .named opens (trimmed_stripBackticks.mpr parts.symm) content
      case isFalse noName =>
        exact .unnamed opens (trimmed_stripBackticks.mpr rfl) noName content
  · have closed : ¬"```".toList <+: text.toList :=
      fun opens => fence (String.startsWith_string_iff.mpr opens)
    rw [if_neg fence]
    constructor
    · rintro (bare | ⟨opens, -⟩ | ⟨opens, -⟩)
      · rfl
      · exact absurd opens closed
      · exact absurd opens closed
    · rintro rfl
      exact .bare closed

/-- What is left from a character on: it stands behind characters that are different. -/
theorem dropWhile_bne_iff
    {character first : Char}
    {text rest : List Char} :
    text.dropWhile (· != character) = first :: rest ↔
      first = character ∧
        ∃ before, text = before ++ character :: rest ∧ character ∉ before := by
  constructor
  · intro left
    have stops := @head_dropWhile (· != character) text first (by simp [left])
    obtain rfl : first = character := by simpa using stops
    refine ⟨rfl, text.takeWhile (· != first), ?_, fun inside => ?_⟩
    · rw [← left, List.takeWhile_append_dropWhile]
    · simpa using List.mem_takeWhile_imp inside
  · rintro ⟨rfl, before, rfl, absent⟩
    rw [List.dropWhile_append_of_pos]
    · simp
    · intro other inside
      simp only [bne_iff_ne, ne_eq]
      rintro rfl
      exact absent inside

/-- The search for the braces finds exactly the part between them. -/
theorem braced_iff
    {text : String}
    {part : List Char} :
    Braced text.toList part ↔ bracedPart text = some (String.ofList part) := by
  unfold bracedPart
  constructor
  · rintro ⟨before, inner, after, whole, rfl, unopened, unclosed⟩
    have opened : text.toList.dropWhile (· != '{') = '{' :: (inner ++ '}' :: after) :=
      dropWhile_bne_iff.mpr ⟨rfl, before, by simp [whole], unopened⟩
    have closed : ('{' :: (inner ++ '}' :: after)).reverse.dropWhile (· != '}') =
        '}' :: (inner.reverse ++ ['{']) :=
      dropWhile_bne_iff.mpr ⟨rfl, after.reverse, by simp, by simpa using unclosed⟩
    rw [opened]
    dsimp only
    rw [closed]
    simp
  · intro found
    cases opened : text.toList.dropWhile (· != '{') with
    | nil => simp [opened] at found
    | cons first rest =>
        obtain ⟨rfl, before, whole, unopened⟩ := dropWhile_bne_iff.mp opened
        rw [opened] at found
        dsimp only at found
        cases closed : ('{' :: rest).reverse.dropWhile (· != '}') with
        | nil => simp only [closed, reduceCtorEq] at found
        | cons last front =>
            obtain ⟨rfl, behind, reversed, unclosed⟩ := dropWhile_bne_iff.mp closed
            simp only [closed, Option.some.injEq, String.ofList_inj] at found
            have ends : '{' :: rest = front.reverse ++ '}' :: behind.reverse := by
              rw [← List.reverse_reverse ('{' :: rest), reversed]
              simp
            have same : part = front.reverse ++ ['}'] := by
              rw [← found, List.reverse_cons]
            cases inner : front.reverse with
            | nil =>
                rw [inner] at ends
                cases ends
            | cons character characters =>
                rw [inner] at ends same
                obtain ⟨rfl, tail⟩ := List.cons.inj ends
                refine ⟨before, characters, behind.reverse, ?_, same, unopened, by simpa⟩
                simp [whole, tail, same]

/-- `_parse_json` returns exactly the values that are read. -/
theorem reads_iff
    {library : Library}
    {text : String}
    {value : Json} :
    Reads library text value ↔
      strip text ≠ "" ∧ parseJson library (strip text) = .ok value := by
  have parsed : parseJson library (strip text) = .ok value ↔
      ∃ cleaned, Unfenced (strip text).toList cleaned ∧
        (library.loads (String.ofList cleaned) = .ok value ∨
          (∃ error, library.loads (String.ofList cleaned) = .error error) ∧
            ∃ part, Braced cleaned part ∧ library.loads (String.ofList part) = .ok value) := by
    simp only [unfenced_iff, exists_eq_left', braced_iff, parseJson, strip_strip,
      String.ofList_toList]
    cases library.loads (withoutFence (strip text)) with
    | ok whole => simp
    | error error =>
        cases bracedPart (withoutFence (strip text)) with
        | none => simp
        | some part =>
            have found (other : List Char) :
                some part = some (String.ofList other) ↔ other = part.toList := by
              rw [Option.some.injEq, ← String.toList_inj, String.toList_ofList, eq_comm]
            simp only [found, exists_eq_left, String.ofList_toList]
            cases library.loads part with
            | ok value => simp
            | error error => simp
  have filled : (strip text).toList ≠ [] ↔ strip text ≠ "" := by simp
  rw [parsed, ← filled]
  unfold Reads
  simp only [trimmed_strip, exists_and_left, exists_eq_left']

/-- A content that is read comes from a text of the provider. -/
theorem readReply_ok
    {library : Library}
    {reply : ProviderReply}
    {content : String}
    (read : readReply library reply = .ok content) :
    ∃ text, reply = .content (some text) ∧ strip text = content ∧ content ≠ "" := by
  cases reply with
  | raised error => simp [readReply] at read
  | content text =>
      cases text with
      | none => simp [readReply] at read
      | some text =>
          simp only [readReply, Option.map_some] at read
          split at read
          case isTrue blank => simp at read
          case isFalse worded =>
            cases read
            exact ⟨text, rfl, rfl, worded⟩

end Llm
end MailerAgent
