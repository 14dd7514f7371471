import Mathlib.Algebra.Order.BigOperators.Group.List
import MailerAgent.Llm.Reading
import MailerAgent.Llm.Routing
import MailerAgent.Native.Session

/-!
# Texts from the provider

`call_llm_text` of `llm/provider_v2.py`, which tries one chat with each model, and what it
has done when it ends, for every configuration and every sequence of outcomes.
-/

namespace MailerAgent
namespace Llm

open scoped List

/-! ## The loop -/

/-- `LLMTextResult`. -/
structure LLMTextResult where
  text : String
  modelUsed : String
  requestedModel : String
  attempts : Nat
  usedFallback : Bool
  deriving DecidableEq, Repr

section Loop

variable (settings : ProviderSettings) (library : Library) (provider : Provider)

/-- The loop of `call_llm_text` over the models; the first one of all is no fallback. It may
end with `raise last_error` where there is none. -/
def tryTexts : Bool → List String → Routing →
    Except (Option LLMProviderError) LLMTextResult × Routing
  | _, [], routing => (.error routing.lastError, routing)
  | isFallback, model :: rest, routing =>
      if maxTotalAttempts ≤ routing.totalAttempts then (.error routing.lastError, routing)
      else
        let (ended, replies) := chatWithRetry settings library provider 2 routing.calls
        let attempted :=
          routing.record ⟨model, .lenient, reasoningEffort settings model, replies⟩
        match ended with
        | .ok content =>
            (.ok
              { text := content
                modelUsed := model
                requestedModel := settings.llmModel
                attempts := attempted.totalAttempts
                usedFallback := isFallback }, attempted)
        | .error error =>
            let failed := attempted.fail error
            if error.kind = .modelUnavailable then
              if isFallback then tryTexts true rest failed else (.error (some error), failed)
            else if error.transient then tryTexts true rest failed
            else (.error (some error), attempted)

/-- `call_llm_text`: what it ends with, and its calls of `_chat_with_retry` in order. -/
def callLlmText : Except (Option LLMProviderError) LLMTextResult × List Chat :=
  let (ended, routing) := tryTexts settings library provider false (modelsToTry settings) {}
  (ended, routing.chats)

/-- What `maybe_summarize_older_messages` gets from it: the wrapper of `llm/provider.py`
turns every error of the provider into one of the two exceptions that are caught. -/
def summaryResult : Native.SummaryResult :=
  match (callLlmText settings library provider).1 with
  | .ok result => .summarized result.text
  | .error (some _) => .unavailable
  | .error none => .raised "TypeError"

/-- A turn of the loop, by how its chat ended. -/
theorem tryTexts_cons
    (isFallback : Bool)
    (model : String)
    (rest : List String)
    {routing : Routing}
    (within : routing.totalAttempts < maxTotalAttempts) :
    tryTexts settings library provider isFallback (model :: rest) routing =
      let chat := nextChat settings library provider routing model .lenient
      match chat.ended library with
      | .ok content =>
          (.ok ⟨content, model, settings.llmModel, routing.totalAttempts + 1, isFallback⟩,
            routing.record chat)
      | .error error =>
          if error.kind = .modelUnavailable then
            if isFallback then
              tryTexts settings library provider true rest ((routing.record chat).fail error)
            else (.error (some error), (routing.record chat).fail error)
          else if error.transient then
            tryTexts settings library provider true rest ((routing.record chat).fail error)
          else (.error (some error), routing.record chat) := by
  have reported := (chatWithRetry_retried settings library provider 2 routing.calls).1
  rw [tryTexts, if_neg (Nat.not_le.mpr within)]
  simp only [reported]
  rfl

end Loop

/-! ## What holds of the chats -/

section Account

variable (settings : ProviderSettings) (library : Library) (provider : Provider)

/-- An error after which another model is tried. -/
def Eligible
    (model : String)
    (error : LLMProviderError) : Prop :=
  error.transient = true ∨ error.kind = .modelUnavailable ∧ model ≠ settings.llmModel

/-- The chats made so far, with the models that are left. -/
structure Routing.Texts
    (routing : Routing)
    (rest : List String) : Prop where
  attempts : routing.totalAttempts = routing.chats.length
  planned : routing.chats.map (·.model) ++ rest = modelsToTry settings
  retried : ∀ chat ∈ routing.chats, Retried settings library 3 chat.replies
  replies : (routing.chats.flatMap fun chat => chat.replies) =
    (List.range routing.calls).map provider

/-- All chats made so far failed such that another model is tried. -/
structure Routing.Passing (routing : Routing) : Prop where
  eligible : ∀ chat ∈ routing.chats,
    ∃ error, chat.ended library = .error error ∧ Eligible settings chat.model error
  kept : ∀ chat, routing.chats.getLast? = some chat →
    ∃ error, routing.lastError = some error ∧ chat.ended library = .error error

/-- The result describes the last chat, whose content it is. -/
structure DescribesText
    (result : LLMTextResult)
    (chats : List Chat)
    (chat : Chat) :
    Prop where
  last : chats.getLast? = some chat
  text : chat.ended library = .ok result.text
  modelUsed : result.modelUsed = chat.model
  attempts : result.attempts = chats.length
  usedFallback : result.usedFallback = true ↔ chat.model ≠ settings.llmModel
  requestedModel : result.requestedModel = settings.llmModel

/-- The failure is the error of the last chat; another model would have been tried after
it, had there been one. -/
def Exhausted
    (failure : Option LLMProviderError)
    (chats : List Chat) : Prop :=
  ∃ chat error, chats.getLast? = some chat ∧ failure = some error ∧
    chat.ended library = .error error ∧
    (Eligible settings chat.model error → chats.map (·.model) = modelsToTry settings)

/-- How the loop leaves its chats. -/
structure TextsRouted
    (ended : Except (Option LLMProviderError) LLMTextResult)
    (left : Routing) : Prop where
  texts : ∃ rest, left.Texts settings library provider rest
  eligible : ∀ chat ∈ left.chats.dropLast,
    ∃ error, chat.ended library = .error error ∧ Eligible settings chat.model error
  returned : ∀ result, ended = .ok result →
    ∃ chat, DescribesText settings library result left.chats chat
  raised : ∀ failure, ended = .error failure → Exhausted settings library failure left.chats

variable {settings library provider} {routing : Routing} {model : String}
  {rest : List String}

theorem Routing.Texts.fail
    (texts : routing.Texts settings library provider rest)
    (error : LLMProviderError) :
    (routing.fail error).Texts settings library provider rest :=
  ⟨texts.attempts, texts.planned, texts.retried, texts.replies⟩

/-- A chat with the next model of the plan keeps the account. -/
theorem Routing.Texts.record
    (texts : routing.Texts settings library provider (model :: rest)) :
    (routing.record (nextChat settings library provider routing model .lenient)).Texts
      settings library provider rest where
  attempts := by simp [Routing.record, texts.attempts]
  planned := by
    rw [← texts.planned]
    simp [Routing.record, nextChat]
  retried := by
    intro chat made
    rcases List.mem_append.mp made with earlier | latest
    · exact texts.retried chat earlier
    · rw [List.mem_singleton.mp latest]
      exact (chatWithRetry_retried settings library provider 2 routing.calls).2
  replies := by
    have next := chatWithRetry_replies settings library provider 2 routing.calls
    rw [Routing.calls_record, List.range_eq_range', ← List.range'_append_1, List.map_append,
      ← List.range_eq_range', ← texts.replies, Nat.zero_add]
    simp only [Routing.record, List.flatMap_append, List.flatMap_singleton, nextChat]
    rw [← next]

/-- The plan begins with the primary model and has no model twice. -/
theorem Routing.Texts.fallback_iff
    (texts : routing.Texts settings library provider (model :: rest)) :
    routing.chats ≠ [] ↔ model ≠ settings.llmModel := by
  have nodup := modelsToTry_nodup settings
  have first := modelsToTry_head settings
  rw [← texts.planned] at nodup first
  cases made : routing.chats with
  | nil =>
      rw [made] at first
      simpa using first
  | cons chat chats =>
      rw [made] at nodup first
      simp only [List.map_cons, List.cons_append, List.head?_cons, Option.some.injEq,
        List.nodup_cons] at nodup first
      have other : model ≠ chat.model := by
        rintro rfl
        exact nodup.1 (by simp)
      rw [first] at other
      exact iff_of_true (by simp) other

/-- The chats made are within the cap of the models. -/
theorem Routing.Texts.length_le
    (texts : routing.Texts settings library provider rest) :
    routing.chats.length + rest.length ≤ 3 := by
  have cap := modelsToTry_length_le settings
  rw [← texts.planned] at cap
  simpa [maxModelsToTry] using cap

/-- A failed chat that is passed over keeps all chats so. -/
theorem Routing.Passing.record
    {chat : Chat}
    {error : LLMProviderError}
    (passing : routing.Passing settings library)
    (ended : chat.ended library = .error error)
    (eligible : Eligible settings chat.model error) :
    ((routing.record chat).fail error).Passing settings library where
  eligible := by
    intro made inside
    rcases List.mem_append.mp inside with earlier | latest
    · exact passing.eligible made earlier
    · rw [List.mem_singleton.mp latest]
      exact ⟨error, ended, eligible⟩
  kept := by
    intro last latest
    simp only [Routing.fail, Routing.record, List.getLast?_concat, Option.some.injEq] at latest
    subst latest
    exact ⟨error, rfl, ended⟩

/-- The loop ends with the chat that it has just made. -/
theorem Routing.Passing.ends
    {chat : Chat}
    {ended : Except (Option LLMProviderError) LLMTextResult}
    {left : Routing}
    (passing : routing.Passing settings library)
    (texts : left.Texts settings library provider rest)
    (chats : left.chats = routing.chats ++ [chat])
    (returned : ∀ result, ended = .ok result →
      DescribesText settings library result left.chats chat)
    (raised : ∀ failure, ended = .error failure →
      Exhausted settings library failure left.chats) :
    TextsRouted settings library provider ended left where
  texts := ⟨rest, texts⟩
  eligible := by
    rw [chats, List.dropLast_concat]
    exact passing.eligible
  returned result same := ⟨chat, returned result same⟩
  raised := raised

/-- The loop over the models, from chats that were all passed over. -/
theorem tryTexts_routed :
    ∀ (models : List String) (routing : Routing) (isFallback : Bool),
      (isFallback = true ↔ routing.chats ≠ []) →
      routing.Texts settings library provider models →
      routing.Passing settings library →
      models ≠ [] ∨ routing.chats ≠ [] →
      TextsRouted settings library provider
        (tryTexts settings library provider isFallback models routing).1
        (tryTexts settings library provider isFallback models routing).2 := by
  intro models
  induction models with
  | nil =>
      intro routing isFallback _ texts passing tried
      have made := tried.resolve_left (fun no => no rfl)
      have latest := List.getLast?_eq_some_getLast made
      obtain ⟨error, kept, ended⟩ := passing.kept _ latest
      have all := texts.planned
      rw [List.append_nil] at all
      refine ⟨⟨[], texts⟩, fun chat inside => ?_, fun result same => ?_, ?_⟩
      · exact passing.eligible chat (List.dropLast_subset _ inside)
      · simp [tryTexts] at same
      · rintro failure ⟨rfl⟩
        exact ⟨_, error, latest, kept, ended, fun _ => all⟩
  | cons model rest hypothesis =>
      intro routing isFallback fallback texts passing _
      have cap := texts.length_le
      simp only [List.length_cons] at cap
      have within : routing.totalAttempts < maxTotalAttempts := by
        rw [texts.attempts]
        simp only [maxTotalAttempts]
        omega
      have second := fallback.trans texts.fallback_iff
      have recorded := texts.record
      rw [tryTexts_cons settings library provider isFallback model rest within]
      generalize made : nextChat settings library provider routing model .lenient = chat
        at recorded
      have modelOf : chat.model = model := by rw [← made]; rfl
      have tried : (routing.record chat).chats ≠ [] := by simp [Routing.record]
      have latest : (routing.record chat).chats.getLast? = some chat := List.getLast?_concat
      have further (error : LLMProviderError)
          (ended : chat.ended library = .error error)
          (eligible : Eligible settings chat.model error) :=
        hypothesis ((routing.record chat).fail error) true (iff_of_true rfl tried)
          (recorded.fail error) (passing.record ended eligible) (.inr tried)
      simp only
      cases ended : chat.ended library with
      | ok content =>
          refine passing.ends recorded rfl ?_ (fun failure same => by simp at same)
          rintro result ⟨rfl⟩
          exact
            { last := latest
              text := ended
              modelUsed := modelOf.symm
              attempts := recorded.attempts
              usedFallback := by rw [modelOf]; exact second
              requestedModel := rfl }
      | error error =>
          have stops {left : Routing} (chats : left.chats = (routing.record chat).chats)
              (texts : left.Texts settings library provider rest)
              (lasting : ¬Eligible settings chat.model error) :
              TextsRouted settings library provider (.error (some error)) left := by
            refine passing.ends texts chats (fun result same => by simp at same) ?_
            rintro failure ⟨rfl⟩
            rw [chats]
            exact ⟨chat, error, latest, rfl, ended, fun eligible => absurd eligible lasting⟩
          simp only
          split
          case isTrue unavailable =>
            have lasting : error.transient = false := by
              simp [LLMProviderError.transient, unavailable]
            split
            case isTrue fell =>
              refine further error ended (.inr ⟨unavailable, ?_⟩)
              rw [modelOf]
              exact second.mp fell
            case isFalse primary =>
              refine stops rfl (recorded.fail error) ?_
              rintro (transient | ⟨-, other⟩)
              · exact absurd transient (by simp [lasting])
              · rw [modelOf] at other
                exact primary (second.mpr other)
          case isFalse available =>
            split
            case isTrue transient => exact further error ended (.inl transient)
            case isFalse lasting =>
              refine stops rfl recorded ?_
              rintro (transient | ⟨unavailable, -⟩)
              · exact lasting transient
              · exact available unavailable

end Account

/-! ## The call -/

/-- How `call_llm_text` leaves its chats. -/
theorem callLlmText_routed
    (settings : ProviderSettings)
    (library : Library)
    (provider : Provider) :
    ∃ left : Routing,
      TextsRouted settings library provider (callLlmText settings library provider).1 left ∧
      left.chats = (callLlmText settings library provider).2 := by
  have texts : Routing.Texts settings library provider {} (modelsToTry settings) :=
    ⟨rfl, rfl, (fun _ inside => by simp at inside), rfl⟩
  have passing : Routing.Passing settings library {} :=
    ⟨(fun _ inside => by simp at inside), (fun _ inside => by simp at inside)⟩
  have nonempty : modelsToTry settings ≠ [] := by
    intro empty
    have first := modelsToTry_head settings
    simp [empty] at first
  exact ⟨_, tryTexts_routed (modelsToTry settings) {} false (by simp) texts passing (.inl nonempty),
    rfl⟩

/-- For every configuration and every sequence of outcomes of the provider, `call_llm_text`
makes at most nine calls of it, in order, with a first part of the planned models, one chat
for each. Each chat but the last failed with an error for which another model is tried, and
a transient one was retried to the end. A result is the content of the last reply of all. A
failure is never without an error: it is the one of the last chat, and either no other
model may be tried after it or all of them were. So the summary of a conversation fails no
caller. -/
theorem call_llm_text_routing
    (settings : ProviderSettings)
    (library : Library)
    (provider : Provider) :
    let ended := (callLlmText settings library provider).1
    let chats := (callLlmText settings library provider).2
    let calls := (chats.map fun chat => chat.replies.length).sum
    calls ≤ 9 ∧
      (chats.flatMap fun chat => chat.replies) = (List.range calls).map provider ∧
      chats.map (·.model) <+: modelsToTry settings ∧
      (∀ before chat after, chats = before ++ chat :: after → after ≠ [] →
        ∃ error, chat.ended library = .error error ∧ Eligible settings chat.model error ∧
          (error.transient = true →
            chat.replies.length = 3 ∨ settings.groqApiKey = "")) ∧
      (∀ result, ended = .ok result →
        result.text ≠ "" ∧
          (∃ text, provider (calls - 1) = .content (some text) ∧
            result.text = PyText.strip text) ∧
          ∃ chat, DescribesText settings library result chats chat) ∧
      (∀ failure, ended = .error failure → Exhausted settings library failure chats) ∧
      ∀ exceptionName, summaryResult settings library provider ≠ .raised exceptionName := by
  intro ended chats calls
  obtain ⟨left, routed, same⟩ := callLlmText_routed settings library provider
  obtain ⟨rest, texts⟩ := routed.texts
  have made : left.chats = chats := same
  have counted : left.calls = calls := by rw [Routing.calls, made]
  have perChat : left.calls ≤ 3 * left.chats.length := by
    have bounded : ∀ calls ∈ left.chats.map fun chat => chat.replies.length, calls ≤ 3 := by
      intro calls made
      obtain ⟨chat, inside, rfl⟩ := List.mem_map.mp made
      exact (texts.retried chat inside).bounded
    have total := List.sum_le_card_nsmul _ 3 bounded
    simpa [Routing.calls, Nat.mul_comm] using total
  have cap := texts.length_le
  rw [← counted, ← made]
  refine ⟨by omega, texts.replies, ⟨rest, texts.planned⟩, ?_, ?_, routed.raised, ?_⟩
  · intro before chat after split more
    have inside : chat ∈ left.chats.dropLast := by
      rw [split, List.dropLast_append_of_ne_nil (by simp), List.dropLast_cons_of_ne_nil more]
      simp
    obtain ⟨error, failed, eligible⟩ := routed.eligible chat inside
    have retried := texts.retried chat (List.dropLast_subset _ inside)
    exact ⟨error, failed, eligible, retried.exhausted error failed⟩
  · intro result returned
    obtain ⟨chat, describes⟩ := routed.returned result returned
    have text := describes.text
    obtain ⟨reply, latest, read⟩ : ∃ reply, chat.replies.getLast? = some reply ∧
        readReply library reply = .ok result.text := by
      rw [Chat.ended, endedOf] at text
      cases latest : chat.replies.getLast? with
      | none => simp [latest] at text
      | some reply => exact ⟨reply, rfl, by simpa [latest] using text⟩
    obtain ⟨content, isContent, stripped, filled⟩ := readReply_ok read
    refine ⟨filled, ⟨content, ?_, stripped.symm⟩, chat, describes⟩
    have replies := congrArg List.getLast? texts.replies
    obtain ⟨before, split⟩ := List.getLast?_eq_some_iff.mp describes.last
    obtain ⟨earlier, own⟩ := List.getLast?_eq_some_iff.mp latest
    rw [split, List.flatMap_append, List.flatMap_singleton, own, ← List.append_assoc,
      List.getLast?_concat, List.getLast?_map, List.getLast?_range] at replies
    split at replies
    case isTrue nothing => simp at replies
    case isFalse called =>
      simp only [Option.map_some, Option.some.injEq] at replies
      rw [← replies, isContent]
  · intro exceptionName
    rw [summaryResult]
    split
    case h_1 => simp
    case h_2 => simp
    case h_3 failed =>
      obtain ⟨_, _, _, missing, _⟩ := routed.raised none failed
      cases missing

end Llm
end MailerAgent
