import Mathlib.Algebra.Order.BigOperators.Group.List
import Mathlib.Algebra.Field.Rat
import Mathlib.Tactic.Linarith
import Mathlib.Tactic.NormNum
import MailerAgent.Llm.Text

/-!
# Waiting between attempts

`_wait_strategy` of `llm/provider_v2.py`: how long `_chat_with_retry` waits before it tries
again, by the hint of a rate limit or by the attempt. Every wait is bounded, whatever a
provider sends as its hint, and a hint of half a minute or less is honoured.
-/

namespace MailerAgent

/-! ## Comparisons of floats -/

namespace PyFloat

/-- `bound < value`, which is false for what is not a number. -/
def moreThan : PyFloat → ℚ → Bool
  | finite value, bound => bound < value
  | infinity negative, _ => !negative
  | nan, _ => false

/-- `min(value, bound)`. -/
def cappedAt
    (bound : ℚ)
    (value : PyFloat) : PyFloat :=
  if value.moreThan bound then .finite bound else value

/-- The number that a float is; what is none counts as zero. -/
def number : PyFloat → ℚ
  | finite value => value
  | infinity _ => 0
  | nan => 0

/-- `max(bound, value)`. -/
def raisedTo
    (bound : ℚ)
    (value : PyFloat) : PyFloat :=
  if value.moreThan bound then value else .finite bound

end PyFloat

namespace Llm

open Regex

/-! ## Hints -/

/-- What decides how long a retry waits. Sums of floats are rounded. -/
structure Timing where
  /-- The header `Retry-After` on the response of the exception of a call, by its number. -/
  header : Nat → Option String
  /-- `float` of a text. -/
  floatOfText : String → Option PyFloat
  /-- A decimal digit, `\d`. -/
  isDecimal : Char → Bool
  /-- `wait_random(0, 2)`, by the number of the wait. -/
  jitter : Nat → ℚ
  /-- The float that a sum is rounded to. -/
  round : ℚ → ℚ
  jitter_nonneg : ∀ wait, 0 ≤ jitter wait
  jitter_le : ∀ wait, jitter wait ≤ 2
  round_mono : Monotone round
  round_halves : ∀ halves : Nat, halves ≤ 64 → round (halves / 2) = halves / 2
  round_float : ∀ text value, floatOfText text = some (.finite value) → round value = value

section Hints

variable (timing : Timing)

/-- `value + addend`, where that is not too large for a float. -/
def Timing.add
    (value : PyFloat)
    (addend : ℚ) : PyFloat :=
  match value with
  | .finite number => .finite (timing.round (number + addend))
  | .infinity negative => .infinity negative
  | .nan => .nan

/-- `_bound_retry_after`. -/
def boundRetryAfter (seconds : PyFloat) : PyFloat :=
  timing.add (.raisedTo (1 / 2) (.cappedAt 30 seconds)) (1 / 2)

/-- A letter of an expression that ignores the case, with the letters that fold to it. -/
def foldsTo (letter found : Char) : Bool :=
  found.toLower == letter || (letter == 'i' && (found == 'ı' || found == 'İ')) ||
    (letter == 's' && found == 'ſ')

/-- `try again in `, before the number. -/
def retryAfterLead : Pattern Char :=
  .concat ("try again in ".toList.map fun letter => .one (foldsTo letter))

/-- A character of the number, `[\d.]`. -/
def Timing.inNumber (character : Char) : Bool :=
  timing.isDecimal character || character == '.'

/-- `_RETRY_AFTER_PATTERN`. -/
def retryAfterPattern : Pattern Char :=
  .seq retryAfterLead
    (.seq (.some timing.inNumber) (.seq (.many PyText.isSpace) (.one (foldsTo 's'))))

/-- The group of the leftmost match: it starts after the lead and takes all characters of
the number. -/
def retryAfterGroup (text : List Char) : Option (List Char) :=
  ((List.range (text.length + 1)).find? fun start =>
      ((retryAfterPattern timing).matchAt (fun _ => false) text start).isSome).map fun start =>
    (text.drop (start + "try again in ".toList.length)).takeWhile timing.inNumber

/-- The seconds that the text of an exception asks for. -/
def secondsOfBody (errorText : String) : Option PyFloat :=
  (retryAfterGroup timing errorText.toList).bind fun number =>
    timing.floatOfText (String.ofList number)

/-- `_parse_retry_after_from_body`. -/
def parseRetryAfterFromBody (errorText : String) : Option PyFloat :=
  (secondsOfBody timing errorText).map (boundRetryAfter timing)

/-- The seconds that a header asks for. -/
def secondsOfHeader (header : Option String) : Option PyFloat :=
  match header with
  | some raw => if raw = "" then none else timing.floatOfText raw
  | none => none

/-- `_extract_retry_after_seconds`. -/
def extractRetryAfterSeconds
    (header : Option String)
    (errorText : String) : Option PyFloat :=
  match secondsOfHeader timing header with
  | some seconds => some (boundRetryAfter timing seconds)
  | none => parseRetryAfterFromBody timing errorText

end Hints

/-- A timing without rounding that reads one number. -/
def exactTiming : Timing where
  header _ := none
  floatOfText text := if text = "24.3525" then some (.finite (243525 / 10000)) else none
  isDecimal := Char.isDigit
  jitter _ := 1
  round := id
  jitter_nonneg _ := by decide +kernel
  jitter_le _ := by decide +kernel
  round_mono := monotone_id
  round_halves _ _ := rfl
  round_float _ _ _ := rfl

example :
    extractRetryAfterSeconds exactTiming (some "later")
      "rate limit reached, requested 4016. please try again in 24.3525s." =
        some (.finite (248525 / 10000)) := by decide +kernel

/-! ## Waits -/

/-- A wait, with the number of the call that it follows. -/
structure Wait where
  call : Nat
  duration : PyFloat
  deriving DecidableEq, Repr

section Waits

variable (settings : ProviderSettings) (library : Library) (provider : Provider)
  (timing : Timing)

/-- The seconds that the exception of a call asks for, if it says so. -/
def secondsAsked (call : Nat) : ProviderReply → Option PyFloat
  | .content _ => none
  | .raised error =>
      match secondsOfHeader timing (timing.header call) with
      | some seconds => some seconds
      | none => secondsOfBody timing (library.lower error.text)

/-- `retry_after_seconds` of the error that a call has led to, if it is a rate limit. -/
def retryAfterSeconds (call : Nat) : ProviderReply → Option PyFloat
  | .content _ => none
  | .raised error =>
      extractRetryAfterSeconds timing (timing.header call) (library.lower error.text)

/-- `wait_exponential(multiplier=2, min=1, max=10)` after an attempt. -/
def waitExponential (attempt : Nat) : ℚ :=
  max (max 0 1) (min (2 * 2 ^ (attempt - 1)) 10)

/-- `_wait_strategy` after an attempt that ended with an error. -/
def waitStrategy
    (error : LLMProviderError)
    (hint : Option PyFloat)
    (attempt wait : Nat) : PyFloat :=
  match error.kind, hint with
  | .rateLimit, some seconds => seconds
  | _, _ => timing.add (.finite (waitExponential attempt)) (timing.jitter wait)

/-- The waits of `_chat_with_retry` with some further attempts. -/
def chatWaits : Nat → Nat → Nat → Nat → List Wait
  | 0, _, _, _ => []
  | further + 1, attempt, calls, waits =>
      match chatOnce settings library provider calls with
      | (.ok _, _) => []
      | (.error error, replies) =>
          if error.transient then
            let hint := replies.head?.bind (retryAfterSeconds library timing calls)
            ⟨calls, waitStrategy timing error hint attempt waits⟩ ::
              chatWaits further (attempt + 1) (calls + replies.length) (waits + 1)
          else []

/-- The waits of chats one after the other. -/
def waitsOf : Nat → Nat → List Chat → List Wait
  | _, _, [] => []
  | calls, waits, chat :: rest =>
      let own := chatWaits settings library provider timing 2 1 calls waits
      own ++ waitsOf (calls + chat.replies.length) (waits + own.length) rest

end Waits

/-- What is asked of the provider: JSON, with a schema or without, or a text. -/
inductive Completion where
  | json (schemaGiven : Bool)
  | text
  deriving DecidableEq, Repr

/-- The chats of a completion. -/
def Completion.chats
    (settings : ProviderSettings)
    (library : Library)
    (provider : Provider) : Completion → List Chat
  | .json schemaGiven => (callLlmJson settings library provider schemaGiven).2
  | .text => (callLlmText settings library provider).2

/-- The most chats of a completion. -/
def Completion.chatLimit : Completion → Nat
  | .json _ => 9
  | .text => 3

/-! ## One wait -/

section Bounds

variable (library : Library) (timing : Timing)

/-- A duration of at least a second and at most half a minute and half a second. -/
def Bounded (duration : PyFloat) : Prop :=
  ∃ seconds, duration = .finite seconds ∧ 1 ≤ seconds ∧ seconds ≤ 61 / 2

theorem Timing.round_one : timing.round 1 = 1 := by
  have exact := timing.round_halves 2 (by decide)
  norm_num at exact
  exact exact

theorem Timing.round_most : timing.round (61 / 2) = 61 / 2 := by
  exact_mod_cast timing.round_halves 61 (by decide)

theorem Timing.bounded_round
    {seconds : ℚ}
    (least : 1 ≤ seconds)
    (most : seconds ≤ 61 / 2) :
    Bounded (.finite (timing.round seconds)) := by
  refine ⟨_, rfl, ?_, ?_⟩
  · calc
      1 = timing.round 1 := timing.round_one.symm
      _ ≤ timing.round seconds := timing.round_mono least
  · calc
      timing.round seconds ≤ timing.round (61 / 2) := timing.round_mono most
      _ = 61 / 2 := timing.round_most

/-- Whatever is asked for comes between its bounds, also what is no number. -/
theorem raisedTo_cappedAt (seconds : PyFloat) :
    ∃ value, PyFloat.raisedTo (1 / 2) (.cappedAt 30 seconds) = .finite value ∧
      1 / 2 ≤ value ∧ value ≤ 30 := by
  have least : PyFloat.raisedTo (1 / 2) (.finite 30) = .finite 30 := by decide +kernel
  cases seconds with
  | nan => exact ⟨1 / 2, rfl, le_refl _, by norm_num⟩
  | infinity negative =>
      cases negative with
      | true => exact ⟨1 / 2, rfl, le_refl _, by norm_num⟩
      | false => exact ⟨30, least, by norm_num, le_refl _⟩
  | finite value =>
      by_cases large : 30 < value
      · refine ⟨30, ?_, by norm_num, le_refl _⟩
        simpa [PyFloat.cappedAt, PyFloat.moreThan, large] using least
      · by_cases some : 1 / 2 < value
        · refine ⟨value, ?_, some.le, not_lt.mp large⟩
          simp only [one_div] at some
          simp [PyFloat.cappedAt, PyFloat.raisedTo, PyFloat.moreThan, large, some]
        · refine ⟨1 / 2, ?_, le_refl _, by norm_num⟩
          simp only [one_div] at some
          simp [PyFloat.cappedAt, PyFloat.raisedTo, PyFloat.moreThan, large, some]

theorem boundRetryAfter_bounded (seconds : PyFloat) :
    Bounded (boundRetryAfter timing seconds) := by
  obtain ⟨value, same, least, most⟩ := raisedTo_cappedAt seconds
  rw [boundRetryAfter, same]
  exact timing.bounded_round (by linarith) (by linarith)

/-- A hint of half a minute or less is not cut. -/
theorem boundRetryAfter_honours
    {asked : ℚ}
    (float : timing.round asked = asked)
    (moderate : asked ≤ 30) :
    ∃ seconds, boundRetryAfter timing (.finite asked) = .finite seconds ∧ asked ≤ seconds := by
  have capped : PyFloat.cappedAt 30 (.finite asked) = .finite asked := by
    simp [PyFloat.cappedAt, PyFloat.moreThan, not_lt.mpr moderate]
  have more (value : ℚ) (larger : asked ≤ value + 1 / 2) :
      asked ≤ timing.round (value + 1 / 2) := by
    calc
      asked = timing.round asked := float.symm
      _ ≤ timing.round (value + 1 / 2) := timing.round_mono larger
  rw [boundRetryAfter, capped, PyFloat.raisedTo]
  split
  case isTrue => exact ⟨_, rfl, more asked (by linarith)⟩
  case isFalse small =>
    simp only [PyFloat.moreThan, decide_eq_true_eq, not_lt] at small
    exact ⟨_, rfl, more (1 / 2) (by linarith)⟩

/-- What is asked for comes from a text that was read as a float. -/
theorem secondsAsked_float
    {call : Nat}
    {reply : ProviderReply}
    {asked : ℚ}
    (asks : secondsAsked library timing call reply = some (.finite asked)) :
    timing.round asked = asked := by
  cases reply with
  | content text => simp [secondsAsked] at asks
  | raised error =>
      simp only [secondsAsked] at asks
      split at asks
      case h_1 seconds read =>
        cases asks
        unfold secondsOfHeader at read
        split at read
        case h_1 raw =>
          split at read
          case isTrue => simp at read
          case isFalse => exact timing.round_float _ _ read
        case h_2 => simp at read
      case h_2 =>
        obtain ⟨number, -, read⟩ := Option.bind_eq_some_iff.mp asks
        exact timing.round_float _ _ read

theorem retryAfterSeconds_eq
    (call : Nat)
    (reply : ProviderReply) :
    retryAfterSeconds library timing call reply =
      (secondsAsked library timing call reply).map (boundRetryAfter timing) := by
  cases reply with
  | content text => rfl
  | raised error =>
      simp only [retryAfterSeconds, secondsAsked, extractRetryAfterSeconds]
      cases secondsOfHeader timing (timing.header call) <;> rfl

/-- The wait of a kind of error that gives no hint, or without one. -/
theorem backoff_bounded (attempt wait : Nat) :
    Bounded (timing.add (.finite (waitExponential attempt)) (timing.jitter wait)) := by
  have least := timing.jitter_nonneg wait
  have most := timing.jitter_le wait
  have positive : 1 ≤ waitExponential attempt :=
    le_max_of_le_left (le_max_right 0 1)
  have few : waitExponential attempt ≤ 10 :=
    max_le (by norm_num) (min_le_right _ _)
  exact timing.bounded_round (by linarith) (by linarith)

/-- Every wait is bounded, whatever a provider sends. -/
theorem waitStrategy_bounded
    (error : LLMProviderError)
    (replies : List ProviderReply)
    (call attempt wait : Nat) :
    Bounded (waitStrategy timing error
      (replies.head?.bind (retryAfterSeconds library timing call)) attempt wait) := by
  unfold waitStrategy
  split
  case h_1 seconds _ hint =>
    obtain ⟨reply, -, hinted⟩ := Option.bind_eq_some_iff.mp hint
    rw [retryAfterSeconds_eq] at hinted
    obtain ⟨asked, -, rfl⟩ := Option.map_eq_some_iff.mp hinted
    exact boundRetryAfter_bounded timing asked
  case h_2 => exact backoff_bounded timing attempt wait

/-- After a rate limit that asks for half a minute or less the wait is no shorter than
that. -/
def Wait.Honours
    (wait : Wait)
    (reply : ProviderReply) : Prop :=
  ∀ error asked, readReply library reply = .error error → error.kind = .rateLimit →
    secondsAsked library timing wait.call reply = some (.finite asked) → asked ≤ 30 →
    ∃ seconds, wait.duration = .finite seconds ∧ asked ≤ seconds

theorem waitStrategy_honours
    {reply : ProviderReply}
    {error : LLMProviderError}
    (read : readReply library reply = .error error)
    (call attempt wait : Nat) :
    Wait.Honours library timing
      ⟨call, waitStrategy timing error (retryAfterSeconds library timing call reply) attempt
        wait⟩ reply := by
  intro other asked again limited asks moderate
  cases read.symm.trans again
  rw [retryAfterSeconds_eq, asks]
  simp only [waitStrategy, limited, Option.map_some]
  exact boundRetryAfter_honours timing (secondsAsked_float library timing asks) moderate

end Bounds

/-! ## The waits of a chat -/

section OneChat

variable (settings : ProviderSettings) (library : Library) (provider : Provider)
  (timing : Timing)

theorem chatWaits_bounded : ∀ further attempt calls waits,
    ∀ wait ∈ chatWaits settings library provider timing further attempt calls waits,
      Bounded wait.duration := by
  intro further
  induction further with
  | zero => intro attempt calls waits wait inside; simp [chatWaits] at inside
  | succ further hypothesis =>
      intro attempt calls waits wait inside
      rw [chatWaits] at inside
      split at inside
      case h_1 => simp at inside
      case h_2 error replies _ =>
        split at inside
        case isTrue =>
          rcases List.mem_cons.mp inside with rfl | later
          · exact waitStrategy_bounded library timing error replies calls attempt waits
          · exact hypothesis _ _ _ wait later
        case isFalse => simp at inside

theorem chatWaits_length_le : ∀ further attempt calls waits,
    (chatWaits settings library provider timing further attempt calls waits).length ≤
      further := by
  intro further
  induction further with
  | zero => intro attempt calls waits; simp [chatWaits]
  | succ further hypothesis =>
      intro attempt calls waits
      rw [chatWaits]
      split
      case h_1 => simp
      case h_2 =>
        split
        case isTrue => simpa using hypothesis _ _ _
        case isFalse => simp

/-- Each wait follows a call that is not the last one of the chat, later waits later
calls. -/
theorem chatWaits_calls (present : settings.groqApiKey ≠ "") : ∀ further attempt calls waits,
    let own := chatWaits settings library provider timing further attempt calls waits
    (own.map (·.call)).Pairwise (· < ·) ∧
      ∀ wait ∈ own, calls ≤ wait.call ∧
        wait.call + 1 <
          calls + (chatWithRetry settings library provider further calls).2.length := by
  intro further
  induction further with
  | zero => intro attempt calls waits; simp [chatWaits]
  | succ further hypothesis =>
      intro attempt calls waits
      have called := chatWithRetry_called settings library provider present further (calls + 1)
      have positive := List.length_pos_iff.mpr called
      rw [chatWaits, chatWithRetry, chatOnce_configured settings library provider present]
      cases read : readReply library (provider calls) with
      | ok content => simp
      | error error =>
          simp only
          split
          case isFalse => simp
          case isTrue transient =>
            obtain ⟨rising, within⟩ := hypothesis (attempt + 1) (calls + 1) (waits + 1)
            simp only [List.map_cons, List.pairwise_cons, List.forall_mem_cons,
              List.length_append, List.length_singleton]
            refine ⟨⟨fun call later => ?_, rising⟩, ⟨le_refl _, by omega⟩,
              fun wait later => ?_⟩
            · obtain ⟨wait, inside, rfl⟩ := List.mem_map.mp later
              have bounds := within wait inside
              omega
            · have bounds := within wait later
              omega

/-- Between two calls of a chat there is a wait, which honours the hint of the first. -/
theorem chatWaits_between : ∀ further attempt calls waits,
    ∀ firsts reply next rest,
      (chatWithRetry settings library provider further calls).2 =
        firsts ++ reply :: next :: rest →
      ∃ wait ∈ chatWaits settings library provider timing further attempt calls waits,
        wait.call = calls + firsts.length ∧ wait.Honours library timing reply := by
  by_cases missing : settings.groqApiKey = ""
  · intro further attempt calls waits firsts reply next rest replies
    rw [chatWithRetry_unconfigured settings library provider missing] at replies
    simp at replies
  intro further
  induction further with
  | zero =>
      intro attempt calls waits firsts reply next rest replies
      rw [chatWithRetry, chatOnce_configured settings library provider missing] at replies
      have lengths := congrArg List.length replies
      simp at lengths
      omega
  | succ further hypothesis =>
      intro attempt calls waits firsts reply next rest replies
      rw [chatWithRetry, chatOnce_configured settings library provider missing] at replies
      rw [chatWaits, chatOnce_configured settings library provider missing]
      have alone : [provider calls] ≠ firsts ++ reply :: next :: rest := by
        intro same
        have lengths := congrArg List.length same
        simp at lengths
        omega
      cases read : readReply library (provider calls) with
      | ok content =>
          rw [read] at replies
          exact absurd replies alone
      | error error =>
          rw [read] at replies
          simp only at replies ⊢
          split
          case isFalse lasting =>
            rw [if_neg lasting] at replies
            exact absurd replies alone
          case isTrue transient =>
            rw [if_pos transient] at replies
            simp only [List.singleton_append, List.length_singleton] at replies ⊢
            cases firsts with
            | nil =>
                obtain ⟨rfl, -⟩ := List.cons.inj replies
                exact ⟨_, List.mem_cons_self, rfl,
                  waitStrategy_honours library timing read calls attempt waits⟩
            | cons first firsts =>
                obtain ⟨-, later⟩ := List.cons.inj replies
                obtain ⟨wait, inside, call, honours⟩ :=
                  hypothesis (attempt + 1) (calls + 1) (waits + 1) firsts reply next rest later
                refine ⟨wait, List.mem_cons_of_mem _ inside, ?_, honours⟩
                simp only [call, List.length_cons]
                omega

end OneChat

/-! ## The chats of a completion -/

section Chats

variable (settings : ProviderSettings) (library : Library) (provider : Provider)

/-- The calls of some chats. -/
def callsOf (chats : List Chat) : Nat :=
  (chats.map fun chat => chat.replies.length).sum

/-- Each chat goes on with the calls after those before it. -/
def Consecutive (chats : List Chat) : Prop :=
  ∀ before chat after, chats = before ++ chat :: after →
    chat.replies = (chatWithRetry settings library provider 2 (callsOf before)).2

theorem consecutive_nil : Consecutive settings library provider [] := by
  intro before chat after split
  simp at split

variable {settings library provider}

/-- The next chat keeps that. -/
theorem Consecutive.record
    {routing : Routing}
    (consecutive : Consecutive settings library provider routing.chats)
    (model : String)
    (mode : ResponseMode) :
    Consecutive settings library provider
      (routing.record (nextChat settings library provider routing model mode)).chats := by
  intro before chat after split
  simp only [Routing.record] at split
  rcases List.eq_nil_or_concat after with rfl | ⟨later, last, rfl⟩
  · obtain ⟨rfl, same⟩ := List.append_inj' split rfl
    cases same
    rfl
  · rw [List.concat_eq_append, ← List.cons_append, ← List.append_assoc] at split
    exact consecutive before chat later (List.append_inj' split rfl).1

variable (settings library provider)

theorem tryModes_consecutive
    (isFallback : Bool)
    (model : String) :
    ∀ (modes : List ResponseMode) (routing : Routing),
      Consecutive settings library provider routing.chats →
      Consecutive settings library provider
        (tryModes settings library provider isFallback model modes routing).2.chats := by
  intro modes
  induction modes with
  | nil => intro routing consecutive; exact consecutive
  | cons mode rest hypothesis =>
      intro routing consecutive
      have recorded := consecutive.record model mode
      by_cases within : routing.totalAttempts < maxTotalAttempts
      · rw [tryModes_cons settings library provider isFallback model mode rest within]
        simp only
        split
        case h_1 => exact recorded
        case h_2 error _ =>
          have later := hypothesis ((routing.record
            (nextChat settings library provider routing model mode)).fail error) recorded
          split_ifs
          all_goals first | exact later | exact recorded
      · rw [tryModes, if_pos (Nat.not_lt.mp within)]
        exact consecutive

theorem tryModels_consecutive (schemaGiven : Bool) :
    ∀ (models : List String) (isFallback : Bool) (routing : Routing),
      Consecutive settings library provider routing.chats →
      Consecutive settings library provider
        (tryModels settings library provider schemaGiven isFallback models routing).2.chats := by
  intro models
  induction models with
  | nil => intro isFallback routing consecutive; exact consecutive
  | cons model rest hypothesis =>
      intro isFallback routing consecutive
      have tried := tryModes_consecutive settings library provider isFallback model
        (attemptPlan schemaGiven model) routing consecutive
      rw [tryModels]
      split
      case h_1 turn => simpa only [turn] using tried
      case h_2 turn => simpa only [turn] using tried
      case h_3 turn =>
        rw [turn] at tried
        exact hypothesis true _ tried

theorem tryTexts_consecutive :
    ∀ (models : List String) (isFallback : Bool) (routing : Routing),
      Consecutive settings library provider routing.chats →
      Consecutive settings library provider
        (tryTexts settings library provider isFallback models routing).2.chats := by
  intro models
  induction models with
  | nil => intro isFallback routing consecutive; exact consecutive
  | cons model rest hypothesis =>
      intro isFallback routing consecutive
      have recorded := consecutive.record model .lenient
      by_cases within : routing.totalAttempts < maxTotalAttempts
      · rw [tryTexts_cons settings library provider isFallback model rest within]
        simp only
        split
        case h_1 => exact recorded
        case h_2 error _ =>
          have later := hypothesis true ((routing.record
            (nextChat settings library provider routing model .lenient)).fail error) recorded
          split_ifs
          all_goals first | exact later | exact recorded
      · rw [tryTexts, if_pos (Nat.not_lt.mp within)]
        exact consecutive

theorem Completion.consecutive (completion : Completion) :
    Consecutive settings library provider (completion.chats settings library provider) := by
  cases completion with
  | json schemaGiven =>
      exact tryModels_consecutive settings library provider schemaGiven (modelsToTry settings)
        false {} (consecutive_nil settings library provider)
  | text =>
      exact tryTexts_consecutive settings library provider (modelsToTry settings) false {}
        (consecutive_nil settings library provider)

theorem Completion.chats_length_le (completion : Completion) :
    (completion.chats settings library provider).length ≤ completion.chatLimit := by
  cases completion with
  | json schemaGiven =>
      obtain ⟨left, routed, same⟩ := callLlmJson_routed settings library provider schemaGiven
      have attempts := routed.accounts.attempts
      have bounded := routed.bounded
      rw [Completion.chats, Completion.chatLimit, ← same]
      omega
  | text =>
      obtain ⟨left, routed, same⟩ := callLlmText_routed settings library provider
      obtain ⟨rest, texts⟩ := routed.texts
      have cap := texts.length_le
      rw [Completion.chats, Completion.chatLimit, ← same]
      omega

end Chats

/-! ## The waits of a completion -/

section AllChats

variable (settings : ProviderSettings) (library : Library) (provider : Provider)
  (timing : Timing)

theorem waitsOf_bounded : ∀ (chats : List Chat) (calls waits : Nat),
    ∀ wait ∈ waitsOf settings library provider timing calls waits chats,
      Bounded wait.duration := by
  intro chats
  induction chats with
  | nil => intro calls waits wait inside; simp [waitsOf] at inside
  | cons chat rest hypothesis =>
      intro calls waits wait inside
      rcases List.mem_append.mp inside with own | later
      · exact chatWaits_bounded settings library provider timing 2 1 calls waits wait own
      · exact hypothesis _ _ wait later

theorem waitsOf_length_le : ∀ (chats : List Chat) (calls waits : Nat),
    (waitsOf settings library provider timing calls waits chats).length ≤
      2 * chats.length := by
  intro chats
  induction chats with
  | nil => intro calls waits; simp [waitsOf]
  | cons chat rest hypothesis =>
      intro calls waits
      have own := chatWaits_length_le settings library provider timing 2 1 calls waits
      have later := hypothesis (calls + chat.replies.length)
        (waits + (chatWaits settings library provider timing 2 1 calls waits).length)
      rw [waitsOf]
      simp only [List.length_append, List.length_cons]
      omega

theorem callsOf_concat
    (before : List Chat)
    (chat : Chat) :
    callsOf (before ++ [chat]) = callsOf before + chat.replies.length := by
  simp [callsOf]

/-- Later waits follow later calls. -/
theorem waitsOf_calls (present : settings.groqApiKey ≠ "") :
    ∀ (chats before : List Chat) (waits : Nat),
      Consecutive settings library provider (before ++ chats) →
      let made := waitsOf settings library provider timing (callsOf before) waits chats
      (made.map (·.call)).Pairwise (· < ·) ∧ ∀ wait ∈ made, callsOf before ≤ wait.call := by
  intro chats
  induction chats with
  | nil => intro before waits _; simp [waitsOf]
  | cons chat rest hypothesis =>
      intro before waits consecutive
      have replies := consecutive before chat rest rfl
      obtain ⟨rising, within⟩ :=
        chatWaits_calls settings library provider timing present 2 1 (callsOf before) waits
      rw [← replies] at within
      have next := hypothesis (before ++ [chat])
        (waits + (chatWaits settings library provider timing 2 1 (callsOf before) waits).length)
        (by simpa using consecutive)
      rw [callsOf_concat] at next
      obtain ⟨later, after⟩ := next
      simp only [waitsOf, List.map_append, List.pairwise_append, List.mem_append]
      refine ⟨⟨rising, later, fun first own second other => ?_⟩, fun wait made => ?_⟩
      · obtain ⟨wait, inside, rfl⟩ := List.mem_map.mp own
        obtain ⟨further, beyond, rfl⟩ := List.mem_map.mp other
        have bounds := within wait inside
        have least := after further beyond
        omega
      · rcases made with own | other
        · exact (within wait own).1
        · have least := after wait other
          omega

/-- Between two calls of any of the chats there is a wait. -/
theorem waitsOf_between : ∀ (chats before : List Chat) (waits : Nat),
    Consecutive settings library provider (before ++ chats) →
    ∀ earlier chat after firsts reply next rest,
      chats = earlier ++ chat :: after →
      chat.replies = firsts ++ reply :: next :: rest →
      ∃ wait ∈ waitsOf settings library provider timing (callsOf before) waits chats,
        wait.call = callsOf (before ++ earlier) + firsts.length ∧
        wait.Honours library timing reply := by
  intro chats
  induction chats with
  | nil =>
      intro before waits _ earlier chat after firsts reply next rest split _
      simp at split
  | cons first others hypothesis =>
      intro before waits consecutive earlier chat after firsts reply next rest split replies
      rw [waitsOf]
      cases earlier with
      | nil =>
          obtain ⟨rfl, -⟩ := List.cons.inj split
          rw [consecutive before first others rfl] at replies
          obtain ⟨wait, inside, call, honours⟩ := chatWaits_between settings library provider
            timing 2 1 (callsOf before) waits firsts reply next rest replies
          exact ⟨wait, List.mem_append_left _ inside, by simpa using call, honours⟩
      | cons leading earlier =>
          obtain ⟨rfl, later⟩ := List.cons.inj split
          obtain ⟨wait, inside, call, honours⟩ := hypothesis (before ++ [first])
            (waits +
              (chatWaits settings library provider timing 2 1 (callsOf before) waits).length)
            (by simpa using consecutive) earlier chat after firsts reply next rest later replies
          rw [callsOf_concat] at inside
          exact ⟨wait, List.mem_append_right _ inside, by simpa using call, honours⟩

/-- A total of bounded waits. -/
theorem total_le
    {waits : List Wait}
    (bounded : ∀ wait ∈ waits, Bounded wait.duration) :
    (waits.map fun wait => wait.duration.number).sum ≤ waits.length * (61 / 2) := by
  induction waits with
  | nil => simp
  | cons wait waits hypothesis =>
      obtain ⟨⟨seconds, same, -, most⟩, others⟩ := List.forall_mem_cons.mp bounded
      have later := hypothesis others
      have number : wait.duration.number = seconds := by rw [same]; rfl
      simp only [List.map_cons, List.sum_cons, List.length_cons, number]
      push_cast
      linarith

end AllChats

/-- For every configuration, every sequence of outcomes of the provider and all hints in
its answers, each wait of `call_llm_json` and `call_llm_text` is at least a second and at
most half a minute and half a second, and the waits of one call make at most 61 seconds for
each chat. Between two calls of one chat there is a wait of its own, and after a rate limit
that asks for half a minute or less it is no shorter than what was asked for. -/
theorem retry_waits_bounded
    (settings : ProviderSettings)
    (library : Library)
    (provider : Provider)
    (timing : Timing)
    (completion : Completion) :
    let chats := completion.chats settings library provider
    let waits := waitsOf settings library provider timing 0 0 chats
    (∀ wait ∈ waits, Bounded wait.duration) ∧
      (waits.map fun wait => wait.duration.number).sum ≤ 61 * completion.chatLimit ∧
      (settings.groqApiKey ≠ "" → (waits.map (·.call)).Pairwise (· < ·)) ∧
      ∀ before chat after firsts reply next rest,
        chats = before ++ chat :: after →
        chat.replies = firsts ++ reply :: next :: rest →
        ∃ wait ∈ waits, wait.call = callsOf before + firsts.length ∧
          wait.Honours library timing reply := by
  intro chats waits
  have consecutive := completion.consecutive settings library provider
  have limit := completion.chats_length_le settings library provider
  have bounded := waitsOf_bounded settings library provider timing chats 0 0
  have length := waitsOf_length_le settings library provider timing chats 0 0
  refine ⟨bounded, ?_, fun present => ?_, ?_⟩
  · have total := total_le bounded
    have many : (waits.length : ℚ) ≤ 2 * completion.chatLimit := by
      exact_mod_cast length.trans (Nat.mul_le_mul_left 2 limit)
    calc
      (waits.map fun wait => wait.duration.number).sum
        ≤ waits.length * (61 / 2) := total
      _ ≤ 61 * completion.chatLimit := by linarith
  · exact (waitsOf_calls settings library provider timing present chats [] 0 consecutive).1
  · intro before chat after firsts reply next rest split replies
    exact waitsOf_between settings library provider timing chats [] 0 consecutive before chat
      after firsts reply next rest split replies

end Llm
end MailerAgent
