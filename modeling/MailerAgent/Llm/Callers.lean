import MailerAgent.Llm.Reading
import MailerAgent.Llm.Routing
import MailerAgent.Policy.Drafting
import MailerAgent.Policy.Fallback
import MailerAgent.Policy.Guardrails

/-!
# Planner and responder

`plan_next_action` and `draft_message` on what the provider returns, through the wrapper of
`llm/provider.py`. Which texts of the provider they can read: the values of any other text
leave them as an exception that no caller expects.
-/

namespace MailerAgent
namespace Llm

open Native Policy

/-! ## The wrapper -/

/-- The exceptions of `llm/provider.py`. -/
inductive WrapperError where
  | unavailable (message : String)
  | output (message : String)
  deriving DecidableEq, Repr

/-- `call_llm_json` of `llm/provider.py`: the errors it maps a failure to. -/
def wrapperError (error : LLMProviderError) : WrapperError :=
  match error.kind with
  | .providerUnavailable | .authentication | .modelUnavailable => .unavailable error.message
  | _ => .output error.message

/-- `is_llm_available`. -/
def isLlmAvailable (settings : ProviderSettings) : Bool :=
  settings.groqApiKey != ""

section Calls

variable (settings : ProviderSettings) (library : Library) (provider : Provider)

/-- The call of the planner and of the responder, each with its schema. -/
def callWithSchema : Except WrapperError LLMJsonResult :=
  (callLlmJson settings library provider true).1.mapError wrapperError

/-! ## The planner -/

/-- What the planner learns from its call; without a key it makes none. -/
def plannerReply : PlannerReply :=
  if isLlmAvailable settings then
    match callWithSchema settings library provider with
    | .ok result => .answered result.data
    | .error _ => .failed
  else .unconfigured

/-- `plan_next_action`, with the unresolved items of the interpretation. -/
def planWithLlm
    (functions : PyFunctions)
    (unresolvedItems : Json) : Except String NextActionProposal :=
  planNextAction functions unresolvedItems (plannerReply settings library provider)

/-! ## The responder -/

/-- `CONTEXTUAL_REPLY_ACTION_TYPES`. -/
def contextual (action : DraftAction) : Bool :=
  action == .reply || action == .closing

/-- What wrote a draft. -/
inductive DraftSource where
  | llm
  | fallback
  deriving DecidableEq, Repr

/-- `AgentDraft`. -/
structure AgentDraft extends Draft where
  reasoning : Json
  source : DraftSource
  modelUsed : Option String := none
  usedFallback : Option Bool := none
  responseMode : Option ResponseMode := none

/-- How `_draft_with_llm` fails. -/
inductive ResponderError where
  | wrapper (error : WrapperError)
  | raised (exceptionName : String)
  deriving DecidableEq, Repr

/-- How `draft_message` fails. -/
inductive DraftError where
  | contextualFallbackUnavailable (action : DraftAction) (cause : Option WrapperError)
  | raised (exceptionName : String)
  deriving DecidableEq, Repr

/-- The subject that the responder falls back to. -/
def defaultSubject
    (campaign : Campaign)
    (contact : Contact) : String :=
  campaign.senderOrg ++ " <> " ++
    orElse contact.company (orElse contact.name "quick question")

/-- The end of `_draft_with_llm`, on what the model returned. -/
def readDraft
    (campaign : Campaign)
    (contact : Contact)
    (result : LLMJsonResult) :
    Except ResponderError AgentDraft :=
  match result.data with
  | .object payload => do
      let body ← (strippedText (Json.get payload "body")).mapError .raised
      if body = "" then throw (.wrapper (.output "LLM returned an empty body"))
      let subject ← (strippedText (Json.get payload "subject")).mapError .raised
      pure
        { subject := some (if subject = "" then defaultSubject campaign contact else subject)
          body := body
          grounding := none
          reasoning := Json.getD payload "reasoning" (.string "")
          source := .llm
          modelUsed := some result.modelUsed
          usedFallback := some result.usedFallback
          responseMode := some result.responseMode }
  | _ => .error (.raised "AttributeError")

/-- `_draft_with_llm`. -/
def draftWithLlm
    (campaign : Campaign)
    (contact : Contact) :
    Except ResponderError AgentDraft :=
  match callWithSchema settings library provider with
  | .ok result => readDraft campaign contact result
  | .error error => .error (.wrapper error)

/-- The fallback as a draft. -/
def fallbackDraft
    (campaign : Campaign)
    (contact : Contact)
    (action : DraftAction) : Except DraftError AgentDraft :=
  match draftFallback campaign contact action with
  | .ok (subject, body) =>
      .ok
        { subject := subject
          body := body
          grounding := none
          reasoning := .string "LLM unavailable; deterministic fallback used."
          source := .fallback }
  | .error exceptionName => .error (.raised exceptionName)

/-- The draft before its grounding is validated. -/
def ungroundedDraft
    (campaign : Campaign)
    (contact : Contact)
    (action : DraftAction) :
    Except DraftError AgentDraft :=
  if isLlmAvailable settings then
    match draftWithLlm settings library provider campaign contact with
    | .ok draft => .ok draft
    | .error (.wrapper error) =>
        if contextual action then .error (.contextualFallbackUnavailable action (some error))
        else fallbackDraft campaign contact action
    | .error (.raised exceptionName) => .error (.raised exceptionName)
  else if contextual action then .error (.contextualFallbackUnavailable action none)
  else fallbackDraft campaign contact action

/-- `draft_message`. -/
def draftMessage
    (services : Services)
    (campaign : Campaign)
    (contact : Contact)
    (action : DraftAction)
    (contextTranscript : String) : Except DraftError AgentDraft := do
  let draft ← ungroundedDraft settings library provider campaign contact action
  pure
    { draft with
      grounding := some
        (runGrounding services (.ofRows campaign contact) (some contextTranscript) draft.body) }

end Calls

/-! ## What can be read -/

/-- A text, or a value that counts as none. -/
def Textual (value : Json) : Prop :=
  value.truth = true → ∃ text, value = .string text

/-- A text that is not blank. -/
def Worded (value : Json) : Prop :=
  ∃ text, value = .string text ∧ PyText.strip text ≠ ""

/-- A value that the planner reads: for an action that it knows, the objective is a text,
and the confidence beside it a number. -/
def PlannerReads
    (functions : PyFunctions)
    (value : Json) : Prop :=
  ∃ members, value = .object members ∧
    ((enumMember actionType (Json.get members "action_type")).isSome = true →
      Textual (Json.get members "objective") ∧
      (Worded (Json.get members "objective") →
        ∃ number, (Json.getD members "confidence" (.float (.finite (1 / 2)))).toFloat functions =
          .ok number))

/-- A value that the responder reads: the body is a text, and so is the subject beside it. -/
def ResponderReads (value : Json) : Prop :=
  ∃ members, value = .object members ∧ Textual (Json.get members "body") ∧
    (Worded (Json.get members "body") → Textual (Json.get members "subject"))

/-- Only a text is stripped, and what counts as none becomes the empty text. -/
theorem strippedText_cases (value : Json) :
    (∃ text, strippedText value = .ok text ∧ Textual value ∧ (text = "" ↔ ¬Worded value)) ∨
      strippedText value = .error "AttributeError" ∧ ¬Textual value := by
  by_cases written : ∃ text, value = .string text
  · obtain ⟨text, rfl⟩ := written
    refine .inl ⟨PyText.strip text, rfl, fun _ => ⟨text, rfl⟩, ?_⟩
    simp [Worded]
  · have other : strippedText value =
        if value.truth then .error "AttributeError" else .ok "" := by
      cases value with
      | string text => exact absurd ⟨text, rfl⟩ written
      | _ => rfl
    have unworded : ¬Worded value := fun ⟨text, same, _⟩ => written ⟨text, same⟩
    by_cases truth : value.truth = true
    · refine .inr ⟨by rw [other, if_pos truth], fun textual => ?_⟩
      exact absurd (textual truth) written
    · refine .inl ⟨"", by rw [other, if_neg truth], fun wrong => absurd wrong truth, ?_⟩
      simp [unworded]

/-- The planner returns a proposal exactly for the values that it reads. -/
theorem readProposal_ok_iff
    {functions : PyFunctions}
    {value : Json} :
    (∃ proposal, readProposal functions value = .ok proposal) ↔
      PlannerReads functions value := by
  cases value with
  | object members =>
      simp only [readProposal, PlannerReads, Json.object.injEq, exists_eq_left']
      cases enumMember actionType (Json.get members "action_type") with
      | none => simp
      | some action =>
          simp only [Option.isSome_some, forall_const]
          rcases strippedText_cases (Json.get members "objective") with
            ⟨text, stripped, textual, empty⟩ | ⟨raised, untextual⟩
          · simp only [stripped, bind, Except.bind]
            by_cases blank : text = ""
            · have unworded := empty.mp blank
              simp [blank, textual, unworded, pure, Except.pure]
            · have worded : Worded (Json.get members "objective") := by
                by_contra unworded
                exact blank (empty.mpr unworded)
              simp only [if_neg blank, textual, worded, forall_const, true_and]
              cases (Json.getD members "confidence"
                (.float (.finite (1 / 2)))).toFloat functions with
              | ok number => simp [pure, Except.pure]
              | error name => simp
          · simp [raised, untextual, bind, Except.bind]
  | _ => simp [readProposal, PlannerReads]

/-- The end of a draft: nothing but an error of the provider is expected. -/
def Expected (ended : Except ResponderError AgentDraft) : Prop :=
  (∃ draft, ended = .ok draft) ∨ ∃ error, ended = .error (.wrapper error)

/-- The responder ends as expected exactly for the values that it reads. -/
theorem readDraft_expected_iff
    (campaign : Campaign)
    (contact : Contact)
    (result : LLMJsonResult) :
    Expected (readDraft campaign contact result) ↔ ResponderReads result.data := by
  unfold readDraft ResponderReads Expected
  cases result.data with
  | object members =>
      simp only [Json.object.injEq, exists_eq_left']
      rcases strippedText_cases (Json.get members "body") with
        ⟨body, stripped, textual, empty⟩ | ⟨raised, untextual⟩
      · simp only [stripped, bind, Except.bind, Except.mapError]
        by_cases blank : body = ""
        · have unworded := empty.mp blank
          simp [blank, textual, unworded, throw, throwThe, MonadExceptOf.throw]
        · have worded : Worded (Json.get members "body") := by
            by_contra unworded
            exact blank (empty.mpr unworded)
          simp only [if_neg blank, textual, worded, forall_const, true_and, pure, Except.pure]
          rcases strippedText_cases (Json.get members "subject") with
            ⟨subject, stripped, textual, -⟩ | ⟨raised, untextual⟩
          · simp [stripped, textual]
          · simp [raised, untextual]
      · simp [raised, untextual, bind, Except.bind, Except.mapError]
  | _ => simp

/-! ## What the provider returned -/

section Contract

variable {settings : ProviderSettings} {library : Library} {provider : Provider}
variable {schemaGiven : Bool}

/-- The data of a result is read from a text that the provider returned. -/
theorem callLlmJson_data_read
    {result : LLMJsonResult}
    (returned : (callLlmJson settings library provider schemaGiven).1 = .ok result) :
    ∃ call text, provider call = .content (some text) ∧ Reads library text result.data := by
  obtain ⟨left, routed, -⟩ := callLlmJson_routed settings library provider schemaGiven
  obtain ⟨chat, describes⟩ := routed.returned result returned
  have made : chat ∈ left.chats := List.mem_of_getLast? describes.last
  have outcome := describes.data
  unfold Chat.outcome at outcome
  cases ended : chat.ended library with
  | error error =>
      rw [ended] at outcome
      exact nomatch outcome
  | ok content =>
      rw [ended] at outcome
      unfold Chat.ended endedOf at ended
      split at ended
      case h_2 => exact nomatch ended
      case h_1 reply last =>
        obtain ⟨text, same, stripped, worded⟩ := readReply_ok ended
        have replied : reply ∈ left.chats.flatMap fun chat => chat.replies :=
          List.mem_flatMap.mpr ⟨chat, made, List.mem_of_getLast? last⟩
        rw [routed.accounts.replies] at replied
        obtain ⟨call, -, called⟩ := List.mem_map.mp replied
        subst stripped
        exact ⟨call, text, called.trans same, reads_iff.mpr ⟨worded, outcome⟩⟩

/-- The first chat ends with the value of the first text. -/
theorem nextChat_outcome_of_first
    {text : String}
    {value : Json}
    {model : String}
    {mode : ResponseMode}
    (present : settings.groqApiKey ≠ "")
    (first : provider 0 = .content (some text))
    (reads : Reads library text value) :
    (nextChat settings library provider {} model mode).outcome library = .ok value := by
  obtain ⟨worded, parsed⟩ := reads_iff.mp reads
  have read : readReply library (provider 0) = .ok (PyText.strip text) := by
    simp [first, readReply, worded]
  have chatted : chatWithRetry settings library provider 2 0 =
      (.ok (PyText.strip text), [provider 0]) := by
    rw [chatWithRetry, chatOnce_configured settings library provider present, read]
  have called : (nextChat settings library provider {} model mode).replies = [provider 0] :=
    congrArg Prod.snd chatted
  have ended : endedOf library [provider 0] = readReply library (provider 0) := rfl
  rw [Chat.outcome, Chat.ended, called, ended, read]
  exact parsed

end Contract

/-- A configuration with a key. -/
def configured : ProviderSettings where
  groqApiKey := "key"

/-- A provider that always returns one text. -/
def constantly (text : String) : Provider :=
  fun _ => .content (some text)

/-- A value that is read from the first text is the data of the result. -/
theorem callLlmJson_constantly
    {library : Library}
    {text : String}
    {value : Json}
    (schemaGiven : Bool)
    (reads : Reads library text value) :
    ∃ result, (callLlmJson configured library (constantly text) schemaGiven).1 = .ok result ∧
      result.data = value := by
  obtain ⟨models, listed⟩ := List.head?_eq_some_iff.mp (modelsToTry_head configured)
  obtain ⟨mode, modes, planned⟩ :=
    List.exists_cons_of_ne_nil (attemptPlan_ne_nil schemaGiven configured.llmModel)
  have within : ({} : Routing).totalAttempts < maxTotalAttempts := by decide
  rw [callLlmJson, listed, tryModels, planned, tryModes_cons _ _ _ _ _ _ _ within]
  have first : constantly text 0 = .content (some text) := rfl
  have present : configured.groqApiKey ≠ "" := by decide
  simp only [nextChat_outcome_of_first present first reads]
  exact ⟨_, rfl, rfl⟩

/-! ## The contract -/

/-- The provider returns no other texts than these; it may fail in any way. -/
def Answers
    (texts : Set String)
    (provider : Provider) : Prop :=
  ∀ call text, provider call = .content (some text) → text ∈ texts

theorem answers_constantly
    {texts : Set String}
    {text : String}
    (inside : text ∈ texts) :
    Answers texts (constantly text) := by
  rintro call other ⟨rfl⟩
  exact inside

theorem answers_raising
    (texts : Set String)
    (error : RawError) :
    Answers texts fun _ => .raised error :=
  fun _ _ wrong => nomatch wrong

section Callers

variable {settings : ProviderSettings} {library : Library} {provider : Provider}

/-- What the planner does, by the result of its call. -/
theorem planWithLlm_ok_iff
    {functions : PyFunctions}
    {unresolvedItems : Json} :
    (∃ proposal, planWithLlm settings library provider functions unresolvedItems =
        .ok proposal) ↔
      (isLlmAvailable settings = true → Joins unresolvedItems ∧
        ∀ result, (callLlmJson settings library provider true).1 = .ok result →
          PlannerReads functions result.data) := by
  unfold planWithLlm plannerReply
  rw [planNextAction_ok_iff]
  by_cases available : isLlmAvailable settings = true
  · simp only [available, if_true, forall_const, callWithSchema]
    cases (callLlmJson settings library provider true).1 with
    | ok result => simp [Except.mapError, readProposal_ok_iff]
    | error error => simp [Except.mapError]
  · simp [available]

/-- A draft, or the exception that the callers expect. -/
def Drafted
    (action : DraftAction)
    (ended : Except DraftError AgentDraft) : Prop :=
  (∃ draft, ended = .ok draft) ∨
    ∃ cause, ended = .error (.contextualFallbackUnavailable action cause)

/-- Every action that is not contextual has a fallback. -/
theorem fallbackDraft_ok
    (campaign : Campaign)
    (contact : Contact)
    {action : DraftAction}
    (initiated : contextual action = false) :
    ∃ draft, fallbackDraft campaign contact action = .ok draft := by
  cases action with
  | initialOutreach => exact ⟨_, rfl⟩
  | followUp => exact ⟨_, rfl⟩
  | reply => exact nomatch initiated
  | closing => exact nomatch initiated

/-- The grounding changes nothing about how a draft ends. -/
theorem drafted_draftMessage_iff
    {services : Services}
    {campaign : Campaign}
    {contact : Contact}
    {action : DraftAction}
    {contextTranscript : String} :
    Drafted action (draftMessage settings library provider services campaign contact action
        contextTranscript) ↔
      Drafted action (ungroundedDraft settings library provider campaign contact action) := by
  unfold draftMessage
  cases ungroundedDraft settings library provider campaign contact action with
  | ok draft => simp [Drafted, bind, Except.bind, pure, Except.pure]
  | error error => simp [Drafted, bind, Except.bind]

/-- With a message that has to be written, `_draft_with_llm` decides. -/
theorem draftWithLlm_expected_iff
    {campaign : Campaign}
    {contact : Contact} :
    Expected (draftWithLlm settings library provider campaign contact) ↔
      ∀ result, (callLlmJson settings library provider true).1 = .ok result →
        ResponderReads result.data := by
  unfold draftWithLlm callWithSchema
  cases (callLlmJson settings library provider true).1 with
  | ok result => simpa [Except.mapError] using readDraft_expected_iff campaign contact result
  | error error => simp [Except.mapError, Expected]

/-- What the responder does, by the result of its call. -/
theorem ungroundedDraft_drafted_iff
    {campaign : Campaign}
    {contact : Contact}
    {action : DraftAction} :
    Drafted action (ungroundedDraft settings library provider campaign contact action) ↔
      (isLlmAvailable settings = true →
        ∀ result, (callLlmJson settings library provider true).1 = .ok result →
          ResponderReads result.data) := by
  have decides : Expected (draftWithLlm settings library provider campaign contact) ↔ _ :=
    draftWithLlm_expected_iff
  rw [← decides]
  have fallback (cause : Option WrapperError) :
      Drafted action (if contextual action = true then
          .error (.contextualFallbackUnavailable action cause)
        else fallbackDraft campaign contact action) := by
    split
    · exact .inr ⟨cause, rfl⟩
    · exact .inl (fallbackDraft_ok campaign contact (by simpa using ‹¬contextual action = true›))
  unfold ungroundedDraft
  by_cases available : isLlmAvailable settings = true
  · rw [if_pos available]
    simp only [available, forall_const]
    rcases draftWithLlm settings library provider campaign contact with (error | name) | draft
    · exact iff_of_true (fallback (some error)) (.inr ⟨error, rfl⟩)
    · simp [Drafted, Expected]
    · exact iff_of_true (.inl ⟨draft, rfl⟩) (.inl ⟨draft, rfl⟩)
  · rw [if_neg available]
    exact iff_of_true (fallback none) fun wrong => absurd wrong available

end Callers

/-- What the provider may return, for every set of texts that it returns: `call_llm_json`
returns objects exactly when the values read from the texts are objects, the planner returns
a proposal exactly when it reads them, and the responder ends in a draft or in
`ContextualFallbackUnavailable` exactly when it reads them. -/
theorem model_output_contract_iff
    (library : Library)
    (functions : PyFunctions)
    (services : Services)
    (campaign : Campaign)
    (contact : Contact)
    (action : DraftAction)
    (contextTranscript : String)
    (unresolvedItems : Json)
    (texts : Set String) :
    ((∀ settings provider schemaGiven, Answers texts provider →
        ∀ result, (callLlmJson settings library provider schemaGiven).1 = .ok result →
          ∃ members, result.data = .object members) ↔
      ∀ text ∈ texts, ∀ value, Reads library text value →
        ∃ members, value = .object members) ∧
    ((∀ settings provider, Answers texts provider →
        ∃ proposal, planWithLlm settings library provider functions unresolvedItems =
          .ok proposal) ↔
      Joins unresolvedItems ∧
        ∀ text ∈ texts, ∀ value, Reads library text value → PlannerReads functions value) ∧
    ((∀ settings provider, Answers texts provider →
        Drafted action (draftMessage settings library provider services campaign contact action
          contextTranscript)) ↔
      ∀ text ∈ texts, ∀ value, Reads library text value → ResponderReads value) := by
  have available : isLlmAvailable configured = true := by decide
  refine ⟨⟨?_, ?_⟩, ⟨?_, ?_⟩, ⟨?_, ?_⟩⟩
  · intro contract text inside value reads
    obtain ⟨result, returned, rfl⟩ := callLlmJson_constantly true reads
    exact contract _ _ _ (answers_constantly inside) result returned
  · intro objects settings provider schemaGiven answers result returned
    obtain ⟨call, text, called, reads⟩ := callLlmJson_data_read returned
    exact objects text (answers call text called) _ reads
  · intro contract
    refine ⟨?_, fun text inside value reads => ?_⟩
    · have planned := contract configured _ (answers_raising texts ⟨"", none⟩)
      exact (planWithLlm_ok_iff.mp planned available).1
    · obtain ⟨result, returned, rfl⟩ := callLlmJson_constantly true reads
      have planned := contract configured _ (answers_constantly inside)
      exact (planWithLlm_ok_iff.mp planned available).2 result returned
  · rintro ⟨joins, readable⟩ settings provider answers
    refine planWithLlm_ok_iff.mpr fun _ => ⟨joins, fun result returned => ?_⟩
    obtain ⟨call, text, called, reads⟩ := callLlmJson_data_read returned
    exact readable text (answers call text called) _ reads
  · intro contract text inside value reads
    obtain ⟨result, returned, rfl⟩ := callLlmJson_constantly true reads
    have drafted := contract configured _ (answers_constantly inside)
    rw [drafted_draftMessage_iff] at drafted
    exact ungroundedDraft_drafted_iff.mp drafted available result returned
  · intro readable settings provider answers
    rw [drafted_draftMessage_iff]
    refine ungroundedDraft_drafted_iff.mpr fun _ result returned => ?_
    obtain ⟨call, text, called, reads⟩ := callLlmJson_data_read returned
    exact readable text (answers call text called) _ reads

namespace Sample

/-- A library that reads the empty list. -/
def library : Library where
  loads text := if text = "[]" then .ok (.array []) else .error "Expecting value"
  lower text := text
  isAlnum character := character.isAlphanum

/-- The text has neither whitespace nor a fence. -/
theorem library_reads : Reads library "[]" (.array []) := by
  refine ⟨['[', ']'], ['[', ']'], ⟨⟨[], [], rfl, by simp, by simp⟩, ?_, ?_⟩, by simp,
    .bare (by decide), .inl rfl⟩
  · simp [PyText.isSpace]
  · simp [PyText.isSpace]

end Sample

/-- A list is returned as the data, and leaves the planner and the responder as another
exception. -/
theorem model_output_escapes :
    (∃ result, (callLlmJson configured Sample.library (constantly "[]") true).1 = .ok result ∧
        ¬∃ members, result.data = .object members) ∧
      (∀ functions, ¬∃ proposal,
        planWithLlm configured Sample.library (constantly "[]") functions (.array []) =
          .ok proposal) ∧
      ∀ services campaign contact contextTranscript,
        ¬Drafted .reply (draftMessage configured Sample.library (constantly "[]") services
          campaign contact .reply contextTranscript) := by
  obtain ⟨result, returned, data⟩ := callLlmJson_constantly true Sample.library_reads
  have available : isLlmAvailable configured = true := by decide
  refine ⟨⟨result, returned, by simp [data]⟩, ?_, ?_⟩
  · intro functions planned
    obtain ⟨members, same, -⟩ := (planWithLlm_ok_iff.mp planned available).2 result returned
    exact nomatch data.symm.trans same
  · intro services campaign contact contextTranscript drafted
    rw [drafted_draftMessage_iff] at drafted
    obtain ⟨members, same, -⟩ :=
      ungroundedDraft_drafted_iff.mp drafted available result returned
    exact nomatch data.symm.trans same

end Llm
end MailerAgent
