import Mathlib.Algebra.Order.BigOperators.Group.List
import Mathlib.Algebra.Order.Ring.Nat
import Mathlib.Data.List.Nodup
import MailerAgent.Llm.Provider

/-!
# Routing over models and response modes

What `call_llm_json` has done when it ends, for every configuration and every sequence of
outcomes: an invariant of its two loops says which chats may stand before the next one.
-/

namespace MailerAgent
namespace Llm

open scoped List

/-! ## One chat -/

/-- How a chat ended, from its replies: by the last one. -/
def endedOf
    (library : Library)
    (replies : List ProviderReply) :
    Except LLMProviderError String :=
  match replies.getLast? with
  | some reply => readReply library reply
  | none => .error notConfigured

/-- What a chat has ended with. -/
def Chat.ended
    (library : Library)
    (chat : Chat) : Except LLMProviderError String :=
  endedOf library chat.replies

/-- What a chat has led to: the data read from its content, or an error. -/
def Chat.outcome
    (library : Library)
    (chat : Chat) : Except LLMProviderError Json :=
  (chat.ended library).bind (parseJson library)

/-- Replies of a chat that made at most `attempts` calls: only a transient error is
followed by another call, and a chat ends in one only when its calls are used up. -/
structure Retried
    (settings : ProviderSettings)
    (library : Library)
    (attempts : Nat)
    (replies : List ProviderReply) : Prop where
  bounded : replies.length ≤ attempts
  repeated : ∀ reply ∈ replies.dropLast,
    ∃ error, readReply library reply = .error error ∧ error.transient = true
  exhausted : ∀ error, endedOf library replies = .error error → error.transient = true →
    replies.length = attempts ∨ settings.groqApiKey = ""

section Retry

variable (settings : ProviderSettings) (library : Library) (provider : Provider)

/-- The body makes the next call of the provider, or none. -/
theorem chatOnce_replies (calls : Nat) :
    (chatOnce settings library provider calls).2 =
      (List.range' calls (chatOnce settings library provider calls).2.length).map provider := by
  unfold chatOnce
  split <;> simp

theorem endedOf_cons
    (reply : ProviderReply)
    {rest : List ProviderReply}
    (more : rest ≠ []) :
    endedOf library (reply :: rest) = endedOf library rest := by
  simp [endedOf, List.getLast?_cons, List.getLast?_eq_some_getLast more]

/-- Without a key no attempt makes a call. -/
theorem chatWithRetry_unconfigured (missing : settings.groqApiKey = "") :
    ∀ further calls,
      chatWithRetry settings library provider further calls = (.error notConfigured, []) := by
  intro further
  induction further with
  | zero => intro calls; simp [chatWithRetry, chatOnce, missing]
  | succ further hypothesis =>
      intro calls
      simp [chatWithRetry, chatOnce, missing, hypothesis]

/-- The replies of a chat are the next outcomes of the provider. -/
theorem chatWithRetry_replies : ∀ further calls,
    (chatWithRetry settings library provider further calls).2 =
      (List.range' calls
        (chatWithRetry settings library provider further calls).2.length).map provider := by
  intro further
  induction further with
  | zero => exact chatOnce_replies settings library provider
  | succ further hypothesis =>
      intro calls
      have once := chatOnce_replies settings library provider calls
      rw [chatWithRetry]
      rcases opened : chatOnce settings library provider calls with ⟨result, replies⟩
      rw [opened] at once
      cases result with
      | ok content => exact once
      | error error =>
          simp only
          split
          · have later := hypothesis (calls + replies.length)
            simp only [List.length_append, ← List.range'_append_1, List.map_append]
            rw [← once, ← later]
          · exact once

/-- With a key the first attempt is a call. -/
theorem chatOnce_configured
    (present : settings.groqApiKey ≠ "")
    (calls : Nat) :
    chatOnce settings library provider calls =
      (readReply library (provider calls), [provider calls]) := by
  simp [chatOnce, present]

theorem chatWithRetry_called
    (present : settings.groqApiKey ≠ "")
    (further calls : Nat) :
    (chatWithRetry settings library provider further calls).2 ≠ [] := by
  cases further with
  | zero => simp [chatWithRetry, chatOnce_configured settings library provider present]
  | succ further =>
      rw [chatWithRetry, chatOnce_configured settings library provider present]
      cases readReply library (provider calls) with
      | ok content => simp
      | error error => simp only; split <;> simp

/-- A chat reports its last reply, and repeats at most `further` times. -/
theorem chatWithRetry_retried : ∀ further calls,
    (chatWithRetry settings library provider further calls).1 =
        endedOf library (chatWithRetry settings library provider further calls).2 ∧
      Retried settings library (further + 1)
        (chatWithRetry settings library provider further calls).2 := by
  by_cases missing : settings.groqApiKey = ""
  · intro further calls
    rw [chatWithRetry_unconfigured settings library provider missing]
    exact ⟨rfl, by simp, by simp, fun _ _ _ => .inr missing⟩
  intro further
  induction further with
  | zero =>
      intro calls
      rw [chatWithRetry, chatOnce_configured settings library provider missing]
      exact ⟨rfl, by simp, by simp, fun _ _ _ => .inl rfl⟩
  | succ further hypothesis =>
      intro calls
      have called := chatWithRetry_called settings library provider missing further (calls + 1)
      obtain ⟨reported, retried⟩ := hypothesis (calls + 1)
      rw [chatWithRetry, chatOnce_configured settings library provider missing]
      cases read : readReply library (provider calls) with
      | ok content =>
          refine ⟨read.symm, by simp, by simp, fun error ended _ => ?_⟩
          exact nomatch read.symm.trans ended
      | error error =>
          simp only [List.length_singleton, List.singleton_append]
          split
          case isTrue transient =>
            refine ⟨?_, ?_, ?_, ?_⟩
            · rw [endedOf_cons library _ called]
              exact reported
            · simpa using retried.bounded
            · intro reply inside
              rw [List.dropLast_cons_of_ne_nil called] at inside
              rcases List.mem_cons.mp inside with rfl | inside
              · exact ⟨error, read, transient⟩
              · exact retried.repeated reply inside
            · intro other ended again
              rw [endedOf_cons library _ called] at ended
              simpa using retried.exhausted other ended again
          case isFalse lasting =>
            refine ⟨read.symm, by simp, by simp, fun other ended transient => ?_⟩
            have same : Except.error error = Except.error other := read.symm.trans ended
            cases same
            exact absurd transient lasting

end Retry

/-! ## The invariant of the loops -/

section Loops

variable (settings : ProviderSettings) (library : Library) (provider : Provider)

/-- A chat that ended such that the routing goes on. -/
def Chat.Passed (chat : Chat) : Prop :=
  ∃ error, chat.outcome library = .error error ∧
    (error.kind = .malformedOutput ∨ error.transient = true ∨
      error.kind = .modelUnavailable ∧ chat.model ≠ settings.llmModel)

/-- A chat after which there may be one with the given model. -/
def Chat.GoesOn
    (chat : Chat)
    (model : String) : Prop :=
  ∃ error, chat.outcome library = .error error ∧
    (error.kind = .malformedOutput ∨ chat.model ≠ model ∧
      (error.transient = true ∨
        error.kind = .modelUnavailable ∧ chat.model ≠ settings.llmModel))

/-- What holds of the chats made so far. -/
structure Routing.Accounts (routing : Routing) : Prop where
  attempts : routing.totalAttempts = routing.chats.length
  retried : ∀ chat ∈ routing.chats, Retried settings library 3 chat.replies
  replies : (routing.chats.flatMap fun chat => chat.replies) =
    (List.range routing.calls).map provider
  goesOn : routing.chats.Pairwise fun first second =>
    first.GoesOn settings library second.model
  rounds : ∀ model other, [model, other, model] <+ routing.chats.map (·.model) →
    other = model

/-- A chat with the model may come next. -/
structure Routing.Admits
    (routing : Routing)
    (model : String) : Prop where
  goesOn : ∀ chat ∈ routing.chats, chat.GoesOn settings library model
  round : ∀ other, [model, other] <+ routing.chats.map (·.model) → other = model

/-- The error that is kept is the one of the last chat. -/
def Routing.Failing (routing : Routing) : Prop :=
  ∀ chat, routing.chats.getLast? = some chat →
    ∃ error, routing.lastError = some error ∧ chat.outcome library = .error error

/-- A chat is counted and added. -/
def Routing.record
    (routing : Routing)
    (chat : Chat) : Routing :=
  { routing with
    totalAttempts := routing.totalAttempts + 1
    chats := routing.chats ++ [chat] }

/-- The error of an attempt is kept. -/
def Routing.fail
    (routing : Routing)
    (error : LLMProviderError) : Routing :=
  { routing with lastError := some error }

/-- The next chat with a model in a mode. -/
def nextChat
    (routing : Routing)
    (model : String)
    (mode : ResponseMode) : Chat :=
  ⟨model, mode, reasoningEffort settings model,
    (chatWithRetry settings library provider 2 routing.calls).2⟩

theorem chatWithRetry_outcome
    (routing : Routing)
    (model : String)
    (mode : ResponseMode) :
    (chatWithRetry settings library provider 2 routing.calls).1.bind (parseJson library) =
      (nextChat settings library provider routing model mode).outcome library := by
  rw [(chatWithRetry_retried settings library provider 2 routing.calls).1]
  rfl

/-- One turn of the loop over the modes, by the outcome of its chat. -/
theorem tryModes_cons
    (isFallback : Bool)
    (model : String)
    (mode : ResponseMode)
    (rest : List ResponseMode)
    {routing : Routing}
    (within : routing.totalAttempts < maxTotalAttempts) :
    tryModes settings library provider isFallback model (mode :: rest) routing =
      let chat := nextChat settings library provider routing model mode
      match chat.outcome library with
      | .ok data =>
          (.returned
            ⟨data, model, settings.llmModel, routing.totalAttempts + 1, isFallback, mode⟩,
            routing.record chat)
      | .error error =>
          let failed := (routing.record chat).fail error
          if error.kind = .malformedOutput then
            tryModes settings library provider isFallback model rest failed
          else if error.kind = .modelUnavailable then
            if isFallback then (.nextModel, failed) else (.raised error, failed)
          else if error.transient then (.nextModel, failed)
          else (.raised error, failed) := by
  rw [tryModes, if_neg (Nat.not_le.mpr within)]
  simp only [chatWithRetry_outcome settings library provider routing model mode]
  rfl

/-! ## One chat more -/

variable {settings library provider}

theorem Chat.Passed.goesOn
    {chat : Chat}
    {model : String}
    (passed : chat.Passed settings library)
    (other : chat.model ≠ model) :
    chat.GoesOn settings library model := by
  obtain ⟨error, outcome, malformed | further⟩ := passed
  · exact ⟨error, outcome, .inl malformed⟩
  · exact ⟨error, outcome, .inr ⟨other, further⟩⟩

theorem Chat.GoesOn.passed
    {chat : Chat}
    {model : String}
    (goesOn : chat.GoesOn settings library model) :
    chat.Passed settings library := by
  obtain ⟨error, outcome, malformed | ⟨-, further⟩⟩ := goesOn
  · exact ⟨error, outcome, .inl malformed⟩
  · exact ⟨error, outcome, .inr further⟩

theorem Routing.Accounts.fail
    {routing : Routing}
    (accounts : routing.Accounts settings library provider)
    (error : LLMProviderError) :
    (routing.fail error).Accounts settings library provider :=
  ⟨accounts.attempts, accounts.retried, accounts.replies, accounts.goesOn, accounts.rounds⟩

theorem Routing.calls_record
    (routing : Routing)
    (chat : Chat) :
    (routing.record chat).calls = routing.calls + chat.replies.length := by
  simp [Routing.calls, Routing.record]

/-- A sublist of a list with an element added uses that element last, or not. -/
theorem sublist_concat
    {α : Type}
    {part whole : List α}
    {last : α}
    (inside : part <+ whole ++ [last]) :
    part <+ whole ∨ ∃ start, part = start ++ [last] ∧ start <+ whole := by
  obtain ⟨start, rest, rfl, earlier, latest⟩ := List.sublist_append_iff.mp inside
  rcases List.sublist_singleton.mp latest with rfl | rfl
  · exact .inl (by simpa using earlier)
  · exact .inr ⟨start, rfl, earlier⟩

/-- A chat with an admitted model keeps the account. -/
theorem Routing.Accounts.record
    {routing : Routing}
    {model : String}
    (accounts : routing.Accounts settings library provider)
    (admits : routing.Admits settings library model)
    (mode : ResponseMode) :
    (routing.record (nextChat settings library provider routing model mode)).Accounts
      settings library provider where
  attempts := by simp [Routing.record, accounts.attempts]
  retried := by
    intro chat made
    rcases List.mem_append.mp made with earlier | latest
    · exact accounts.retried chat earlier
    · rw [List.mem_singleton.mp latest]
      exact (chatWithRetry_retried settings library provider 2 routing.calls).2
  replies := by
    have next := chatWithRetry_replies settings library provider 2 routing.calls
    rw [Routing.calls_record, List.range_eq_range', ← List.range'_append_1, List.map_append,
      ← List.range_eq_range', ← accounts.replies, Nat.zero_add]
    simp only [Routing.record, List.flatMap_append, List.flatMap_singleton, nextChat]
    rw [← next]
  goesOn := by
    refine List.pairwise_append.mpr ⟨accounts.goesOn, List.pairwise_singleton _ _, ?_⟩
    intro first earlier second latest
    rw [List.mem_singleton.mp latest]
    exact admits.goesOn first earlier
  rounds := by
    intro first other back
    simp only [Routing.record, List.map_append, List.map_singleton] at back
    rcases sublist_concat back with earlier | ⟨start, split, earlier⟩
    · exact accounts.rounds first other earlier
    · have joined : [first, other] ++ [first] = start ++ [model] := split
      obtain ⟨rfl, same⟩ := List.append_inj' joined rfl
      cases same
      exact admits.round other earlier

/-- After output that is no JSON the same model may go on. -/
theorem Routing.Admits.record
    {routing : Routing}
    {chat : Chat}
    {error : LLMProviderError}
    (admits : routing.Admits settings library chat.model)
    (outcome : chat.outcome library = .error error)
    (malformed : error.kind = .malformedOutput) :
    ((routing.record chat).fail error).Admits settings library chat.model where
  goesOn := by
    intro made inside
    rcases List.mem_append.mp inside with earlier | latest
    · exact admits.goesOn made earlier
    · rw [List.mem_singleton.mp latest]
      exact ⟨error, outcome, .inl malformed⟩
  round := by
    intro other after
    simp only [Routing.fail, Routing.record, List.map_append, List.map_singleton] at after
    rcases sublist_concat after with earlier | ⟨start, split, -⟩
    · exact admits.round other earlier
    · have joined : [chat.model] ++ [other] = start ++ [chat.model] := split
      have same := (List.append_inj' joined rfl).2
      cases same
      rfl

theorem Routing.failing_fail
    {routing : Routing}
    {chat : Chat}
    {error : LLMProviderError}
    (outcome : chat.outcome library = .error error) :
    ((routing.record chat).fail error).Failing library := by
  intro last latest
  simp only [Routing.fail, Routing.record, List.getLast?_concat, Option.some.injEq] at latest
  subst latest
  exact ⟨error, rfl, outcome⟩

/-- A model that no chat had may come next. -/
theorem Routing.admits_of_new
    {routing : Routing}
    {model : String}
    (passed : ∀ chat ∈ routing.chats, chat.Passed settings library)
    (fresh : ∀ chat ∈ routing.chats, chat.model ≠ model) :
    routing.Admits settings library model where
  goesOn chat made := (passed chat made).goesOn (fresh chat made)
  round other after := by
    have tried : model ∈ routing.chats.map (·.model) := after.subset (by simp)
    obtain ⟨chat, made, same⟩ := List.mem_map.mp tried
    exact absurd same (fresh chat made)

/-! ## The loops -/

/-- The result describes the last chat, which produced its data. -/
structure Describes
    (settings : ProviderSettings)
    (library : Library)
    (result : LLMJsonResult)
    (chats : List Chat)
    (chat : Chat) : Prop where
  last : chats.getLast? = some chat
  data : chat.outcome library = .ok result.data
  modelUsed : result.modelUsed = chat.model
  responseMode : result.responseMode = chat.mode
  attempts : result.attempts = chats.length
  usedFallback : result.usedFallback = true ↔ chat.model ≠ settings.llmModel
  requestedModel : result.requestedModel = settings.llmModel

/-- How the loop over the modes leaves the routing. -/
def Closes
    (settings : ProviderSettings)
    (library : Library)
    (left : Routing) :
    ModesEnd → Prop
  | .returned result => ∃ chat, Describes settings library result left.chats chat
  | .raised error =>
      ∃ chat, left.chats.getLast? = some chat ∧ chat.outcome library = .error error
  | .nextModel =>
      (∀ chat ∈ left.chats, chat.Passed settings library) ∧ left.Failing library

/-- The round of a model: what its chats add to the routing. -/
structure Round
    (settings : ProviderSettings)
    (library : Library)
    (provider : Provider)
    (model : String)
    (modes : List ResponseMode)
    (routing : Routing)
    (ended : ModesEnd)
    (left : Routing) : Prop where
  accounts : left.Accounts settings library provider
  bounded : left.totalAttempts ≤ routing.totalAttempts + modes.length
  tried : modes ≠ [] ∨ routing.chats ≠ [] → left.chats ≠ []
  models : ∀ chat ∈ left.chats, chat ∈ routing.chats ∨ chat.model = model
  closes : Closes settings library left ended

/-- A round that ends with its first chat. -/
theorem round_of_chat
    {model : String}
    {mode : ResponseMode}
    {rest : List ResponseMode}
    {routing : Routing}
    {ended : ModesEnd}
    {left : Routing}
    (accounts : left.Accounts settings library provider)
    (chats : left.chats =
      routing.chats ++ [nextChat settings library provider routing model mode])
    (attempts : left.totalAttempts = routing.totalAttempts + 1)
    (closes : Closes settings library left ended) :
    Round settings library provider model (mode :: rest) routing ended left where
  accounts := accounts
  bounded := by simp only [attempts, List.length_cons]; omega
  tried _ := by simp [chats]
  models := by
    intro chat made
    rw [chats] at made
    rcases List.mem_append.mp made with earlier | latest
    · exact .inl earlier
    · exact .inr (by rw [List.mem_singleton.mp latest]; rfl)
  closes := closes

/-- A round goes on after its first chat. -/
theorem Round.cons
    {mode : ResponseMode}
    {rest : List ResponseMode}
    {routing left : Routing}
    {chat : Chat}
    {error : LLMProviderError}
    {ended : ModesEnd}
    (later : Round settings library provider chat.model rest
      ((routing.record chat).fail error) ended left) :
    Round settings library provider chat.model (mode :: rest) routing ended left where
  accounts := later.accounts
  bounded := by
    have bounded := later.bounded
    simp only [Routing.fail, Routing.record, List.length_cons] at bounded ⊢
    omega
  tried _ := later.tried (.inr (by simp [Routing.fail, Routing.record]))
  models := by
    intro made inside
    rcases later.models made inside with earlier | same
    · rcases List.mem_append.mp earlier with before | first
      · exact .inl before
      · exact .inr (by rw [List.mem_singleton.mp first])
    · exact .inr same
  closes := later.closes

/-- A failed chat that is passed over leads to the next model. -/
theorem Routing.Admits.closes_nextModel
    {routing : Routing}
    {model : String}
    {chat : Chat}
    {error : LLMProviderError}
    (admits : routing.Admits settings library model)
    (outcome : chat.outcome library = .error error)
    (passed : error.kind = .malformedOutput ∨ error.transient = true ∨
      error.kind = .modelUnavailable ∧ chat.model ≠ settings.llmModel) :
    Closes settings library ((routing.record chat).fail error) .nextModel := by
  refine ⟨?_, Routing.failing_fail outcome⟩
  intro made inside
  rcases List.mem_append.mp inside with earlier | latest
  · exact (admits.goesOn made earlier).passed
  · rw [List.mem_singleton.mp latest]
    exact ⟨error, outcome, passed⟩

/-- The loop over the modes, from a routing that admits its model. -/
theorem tryModes_round
    {isFallback : Bool}
    {model : String}
    (fallback : isFallback = true ↔ model ≠ settings.llmModel) :
    ∀ (modes : List ResponseMode) (routing : Routing),
      routing.Accounts settings library provider →
      routing.Admits settings library model →
      routing.Failing library →
      routing.totalAttempts + modes.length ≤ maxTotalAttempts →
      Round settings library provider model modes routing
        (tryModes settings library provider isFallback model modes routing).1
        (tryModes settings library provider isFallback model modes routing).2 := by
  intro modes
  induction modes with
  | nil =>
      intro routing accounts admits failing _
      exact ⟨accounts, Nat.le_add_right _ _, fun present => present.resolve_left (fun no => no rfl),
        fun chat made => .inl made, fun chat made => (admits.goesOn chat made).passed, failing⟩
  | cons mode rest hypothesis =>
      intro routing accounts admits failing budget
      simp only [List.length_cons] at budget
      have recorded := accounts.record admits mode
      rw [tryModes_cons settings library provider isFallback model mode rest (by omega)]
      generalize made : nextChat settings library provider routing model mode = chat at recorded
      have modelOf : chat.model = model := by rw [← made]; rfl
      have modeOf : chat.mode = mode := by rw [← made]; rfl
      simp only
      cases outcome : chat.outcome library with
      | ok data =>
          refine round_of_chat recorded (by rw [made]; rfl) rfl ⟨chat, ?_⟩
          exact
            { last := List.getLast?_concat
              data := outcome
              modelUsed := modelOf.symm
              responseMode := modeOf.symm
              attempts := recorded.attempts
              usedFallback := by rw [modelOf]; exact fallback
              requestedModel := rfl }
      | error error =>
          have failed := recorded.fail error
          have latest : ((routing.record chat).fail error).chats.getLast? = some chat :=
            List.getLast?_concat
          have ends {ended : ModesEnd}
              (closes : Closes settings library ((routing.record chat).fail error) ended) :
              Round settings library provider model (mode :: rest) routing ended
                ((routing.record chat).fail error) :=
            round_of_chat failed (by rw [made]; rfl) rfl closes
          simp only
          split
          case isTrue malformed =>
            rw [← modelOf] at admits hypothesis ⊢
            exact (hypothesis _ failed (admits.record outcome malformed)
              (Routing.failing_fail outcome)
              (by simp only [Routing.fail, Routing.record]; omega)).cons
          case isFalse formed =>
            split
            case isTrue unavailable =>
              split
              case isTrue second =>
                refine ends (admits.closes_nextModel outcome (.inr (.inr ⟨unavailable, ?_⟩)))
                rw [modelOf]
                exact fallback.mp second
              case isFalse primary => exact ends ⟨chat, latest, outcome⟩
            case isFalse available =>
              split
              case isTrue transient =>
                exact ends (admits.closes_nextModel outcome (.inr (.inl transient)))
              case isFalse lasting => exact ends ⟨chat, latest, outcome⟩

theorem attemptPlan_length_le
    (schemaGiven : Bool)
    (model : String) :
    (attemptPlan schemaGiven model).length ≤ 3 := by
  unfold attemptPlan
  split <;> simp

theorem attemptPlan_ne_nil
    (schemaGiven : Bool)
    (model : String) :
    attemptPlan schemaGiven model ≠ [] := by
  unfold attemptPlan
  split <;> simp

/-- The loop over the models is about to try the given ones. -/
structure Routing.Awaits
    (settings : ProviderSettings)
    (library : Library)
    (provider : Provider)
    (routing : Routing)
    (isFallback : Bool)
    (models : List String) : Prop where
  nodup : models.Nodup
  fresh : ∀ model ∈ models, ∀ chat ∈ routing.chats, chat.model ≠ model
  first : isFallback = false → models.head? = some settings.llmModel
  second : isFallback = true → settings.llmModel ∉ models ∧ routing.chats ≠ []
  accounts : routing.Accounts settings library provider
  passed : ∀ chat ∈ routing.chats, chat.Passed settings library
  failing : routing.Failing library

/-- Only the first model of all is the primary one. -/
theorem Routing.Awaits.fallback_iff
    {routing : Routing}
    {isFallback : Bool}
    {model : String}
    {rest : List String}
    (awaits : routing.Awaits settings library provider isFallback (model :: rest)) :
    isFallback = true ↔ model ≠ settings.llmModel := by
  cases isFallback with
  | false => simpa using awaits.first rfl
  | true =>
      have other := (awaits.second rfl).1
      simp only [List.mem_cons, not_or] at other
      exact iff_of_true rfl (Ne.symm other.1)

/-- After a round the loop awaits the further models. -/
theorem Routing.Awaits.next
    {routing left : Routing}
    {isFallback : Bool}
    {model : String}
    {rest : List String}
    {modes : List ResponseMode}
    (awaits : routing.Awaits settings library provider isFallback (model :: rest))
    (nonempty : modes ≠ [])
    (round : Round settings library provider model modes routing .nextModel left) :
    left.Awaits settings library provider true rest where
  nodup := awaits.nodup.of_cons
  fresh := by
    intro other remaining chat made
    rcases round.models chat made with earlier | same
    · exact awaits.fresh other (List.mem_cons_of_mem _ remaining) chat earlier
    · rintro rfl
      rw [same] at remaining
      exact (List.nodup_cons.mp awaits.nodup).1 remaining
  first := nofun
  second := by
    refine fun _ => ⟨fun remaining => ?_, round.tried (.inl nonempty)⟩
    by_cases primary : model = settings.llmModel
    · rw [← primary] at remaining
      exact (List.nodup_cons.mp awaits.nodup).1 remaining
    · have second := awaits.second (awaits.fallback_iff.mpr primary)
      exact second.1 (List.mem_cons_of_mem _ remaining)
  accounts := round.accounts
  passed := round.closes.1
  failing := round.closes.2

/-- How the loop over the models leaves the routing. -/
structure Routed
    (settings : ProviderSettings)
    (library : Library)
    (provider : Provider)
    (attempts : Nat)
    (ended : Except LLMProviderError LLMJsonResult)
    (left : Routing) :
    Prop where
  accounts : left.Accounts settings library provider
  bounded : left.totalAttempts ≤ attempts
  returned : ∀ result, ended = .ok result →
    ∃ chat, Describes settings library result left.chats chat
  raised : ∀ error, ended = .error error →
    ∃ chat, left.chats.getLast? = some chat ∧ chat.outcome library = .error error

/-- The loop over the models. -/
theorem tryModels_routed (schemaGiven : Bool) :
    ∀ (models : List String) (isFallback : Bool) (routing : Routing) (attempts : Nat),
      routing.Awaits settings library provider isFallback models →
      routing.totalAttempts + 3 * models.length ≤ attempts →
      attempts ≤ maxTotalAttempts →
      Routed settings library provider attempts
        (tryModels settings library provider schemaGiven isFallback models routing).1
        (tryModels settings library provider schemaGiven isFallback models routing).2 := by
  intro models
  induction models with
  | nil =>
      intro isFallback routing attempts awaits bounded _
      refine ⟨awaits.accounts, bounded, (fun result ended => nomatch ended), ?_⟩
      intro error ended
      cases isFallback with
      | false => exact nomatch awaits.first rfl
      | true =>
          have latest := List.getLast?_eq_some_getLast (awaits.second rfl).2
          obtain ⟨last, kept, outcome⟩ := awaits.failing _ latest
          rw [tryModels, kept] at ended
          cases ended
          exact ⟨_, latest, outcome⟩
  | cons model rest hypothesis =>
      intro isFallback routing attempts awaits bounded budget
      have plan := attemptPlan_length_le schemaGiven model
      simp only [List.length_cons] at bounded
      have round := tryModes_round awaits.fallback_iff (attemptPlan schemaGiven model) routing
        awaits.accounts
        (Routing.admits_of_new awaits.passed (awaits.fresh model List.mem_cons_self))
        awaits.failing (by omega)
      rw [tryModels]
      generalize tryModes settings library provider isFallback model
        (attemptPlan schemaGiven model) routing = turn at round
      obtain ⟨ended, left⟩ := turn
      have within : left.totalAttempts + 3 * rest.length ≤ attempts := by
        have made := round.bounded
        simp only at made
        omega
      cases ended with
      | returned result =>
          refine ⟨round.accounts, by simp only; omega, ?_, fun error wrong => nomatch wrong⟩
          rintro _ ⟨rfl⟩
          exact round.closes
      | raised error =>
          refine ⟨round.accounts, by simp only; omega, (fun result wrong => nomatch wrong), ?_⟩
          rintro _ ⟨rfl⟩
          exact round.closes
      | nextModel =>
          have next := awaits.next (attemptPlan_ne_nil schemaGiven model) round
          exact hypothesis true left attempts next within budget

end Loops

/-! ## The models -/

theorem mem_orderedUnique {model : String} : ∀ {seen models : List String},
    model ∈ orderedUnique seen models → model ∉ seen ∧ model ∈ models
  | _, [], inside => by simp [orderedUnique] at inside
  | seen, first :: rest, inside => by
      rw [orderedUnique] at inside
      split at inside
      · have later := mem_orderedUnique inside
        exact ⟨later.1, List.mem_cons_of_mem _ later.2⟩
      · rename_i new
        rcases List.mem_cons.mp inside with rfl | inside
        · exact ⟨new, List.mem_cons_self⟩
        · have later := mem_orderedUnique inside
          exact ⟨fun known => later.1 (List.mem_cons_of_mem _ known),
            List.mem_cons_of_mem _ later.2⟩

theorem orderedUnique_nodup : ∀ seen models : List String, (orderedUnique seen models).Nodup
  | _, [] => List.nodup_nil
  | seen, first :: rest => by
      rw [orderedUnique]
      split
      · exact orderedUnique_nodup seen rest
      · refine List.nodup_cons.mpr ⟨?_, orderedUnique_nodup _ rest⟩
        intro again
        exact (mem_orderedUnique again).1 List.mem_cons_self

theorem modelsToTry_nodup (settings : ProviderSettings) : (modelsToTry settings).Nodup :=
  (orderedUnique_nodup _ _).sublist (List.take_sublist _ _)

theorem modelsToTry_length_le (settings : ProviderSettings) :
    (modelsToTry settings).length ≤ maxModelsToTry :=
  List.length_take_le _ _

/-- The primary model comes first. -/
theorem modelsToTry_head (settings : ProviderSettings) :
    (modelsToTry settings).head? = some settings.llmModel := by
  simp [modelsToTry, orderedUnique, maxModelsToTry]

/-- How `call_llm_json` leaves its chats: three models have at most nine. -/
theorem callLlmJson_routed
    (settings : ProviderSettings)
    (library : Library)
    (provider : Provider)
    (schemaGiven : Bool) :
    ∃ left : Routing,
      Routed settings library provider 9
        (callLlmJson settings library provider schemaGiven).1 left ∧
      left.chats = (callLlmJson settings library provider schemaGiven).2 := by
  have length := modelsToTry_length_le settings
  have awaits : Routing.Awaits settings library provider {} false (modelsToTry settings) :=
    { nodup := modelsToTry_nodup settings
      fresh := fun _ _ _ inside => nomatch inside
      first := fun _ => modelsToTry_head settings
      second := nofun
      accounts := ⟨rfl, (fun _ inside => nomatch inside), rfl, List.Pairwise.nil,
        fun _ _ inside => nomatch inside⟩
      passed := fun _ inside => nomatch inside
      failing := fun _ inside => nomatch inside }
  refine ⟨_, tryModels_routed schemaGiven (modelsToTry settings) false {} 9 awaits ?_ ?_, rfl⟩
  · simp only [maxModelsToTry] at length
    simp only
    omega
  · decide

/-! ## The call -/

/-- A classified error after which nothing more is called. -/
def Final
    (settings : ProviderSettings)
    (model : String)
    (error : LLMProviderError) : Prop :=
  error.kind = .authentication ∨ error.kind = .validation ∨ error.kind = .unknown ∨
    error.kind = .modelUnavailable ∧ model = settings.llmModel

theorem Final.not_transient
    {settings : ProviderSettings}
    {model : String}
    {error : LLMProviderError}
    (final : Final settings model error) :
    error.transient = false := by
  rcases final with kind | kind | kind | ⟨kind, -⟩ <;> simp [LLMProviderError.transient, kind]

theorem Final.not_malformed
    {settings : ProviderSettings}
    {model : String}
    {error : LLMProviderError}
    (final : Final settings model error) :
    error.kind ≠ .malformedOutput := by
  rcases final with kind | kind | kind | ⟨kind, -⟩ <;> simp [kind]

theorem transient_not_malformed
    {error : LLMProviderError}
    (transient : error.transient = true) :
    error.kind ≠ .malformedOutput := by
  intro kind
  simp [LLMProviderError.transient, kind] at transient

section Account

variable {settings : ProviderSettings} {library : Library} {provider : Provider}
variable {routing : Routing} {before after : List Chat} {chat : Chat}
variable {error : LLMProviderError}

theorem Chat.outcome_of_ended (ended : chat.ended library = .error error) :
    chat.outcome library = .error error := by
  rw [Chat.outcome, ended]
  rfl

/-- Each chat went on to those that follow it. -/
theorem Routing.Accounts.goesOn_later
    (accounts : routing.Accounts settings library provider)
    (split : routing.chats = before ++ chat :: after) :
    ∀ later ∈ after, chat.GoesOn settings library later.model := by
  have pairs := accounts.goesOn
  rw [split] at pairs
  exact (List.pairwise_cons.mp (List.pairwise_append.mp pairs).2.1).1

theorem Routing.Accounts.final
    {firsts rest : List ProviderReply}
    {reply : ProviderReply}
    (accounts : routing.Accounts settings library provider)
    (split : routing.chats = before ++ chat :: after)
    (replies : chat.replies = firsts ++ reply :: rest)
    (read : readReply library reply = .error error)
    (final : Final settings chat.model error) :
    rest = [] ∧ after = [] := by
  have retried := accounts.retried chat (by rw [split]; simp)
  have alone : rest = [] := by
    by_contra more
    have repeated : reply ∈ chat.replies.dropLast := by
      rw [replies, List.dropLast_append_of_ne_nil (by simp), List.dropLast_cons_of_ne_nil more]
      simp
    obtain ⟨other, again, transient⟩ := retried.repeated reply repeated
    cases read.symm.trans again
    exact absurd transient (by simp [final.not_transient])
  refine ⟨alone, List.eq_nil_iff_forall_not_mem.mpr fun later inside => ?_⟩
  have ended : chat.ended library = .error error := by
    rw [Chat.ended, endedOf, replies, alone, List.getLast?_concat]
    exact read
  obtain ⟨other, outcome, goesOn⟩ := accounts.goesOn_later split later inside
  cases (Chat.outcome_of_ended ended).symm.trans outcome
  rcases goesOn with malformed | ⟨-, transient | ⟨unavailable, second⟩⟩
  · exact final.not_malformed malformed
  · exact absurd transient (by simp [final.not_transient])
  · rcases final with kind | kind | kind | ⟨-, primary⟩
    · simp [kind] at unavailable
    · simp [kind] at unavailable
    · simp [kind] at unavailable
    · exact second primary

theorem Routing.Accounts.transient
    (accounts : routing.Accounts settings library provider)
    (split : routing.chats = before ++ chat :: after)
    (ended : chat.ended library = .error error)
    (transient : error.transient = true) :
    (chat.replies.length = 3 ∨ settings.groqApiKey = "") ∧
      ∀ later ∈ after, later.model ≠ chat.model := by
  have retried := accounts.retried chat (by rw [split]; simp)
  refine ⟨retried.exhausted error ended transient, fun later inside same => ?_⟩
  obtain ⟨other, outcome, goesOn⟩ := accounts.goesOn_later split later inside
  cases (Chat.outcome_of_ended ended).symm.trans outcome
  rcases goesOn with malformed | ⟨different, -⟩
  · exact transient_not_malformed transient malformed
  · exact different same.symm

/-- Each chat made at most three calls. -/
theorem Routing.Accounts.calls_le (accounts : routing.Accounts settings library provider) :
    routing.calls ≤ 3 * routing.chats.length := by
  have bounded : ∀ calls ∈ routing.chats.map fun chat => chat.replies.length, calls ≤ 3 := by
    intro calls made
    obtain ⟨chat, inside, rfl⟩ := List.mem_map.mp made
    exact (accounts.retried chat inside).bounded
  have total := List.sum_le_card_nsmul _ 3 bounded
  simpa [Routing.calls, Nat.mul_comm] using total

end Account

/-- For every configuration and every sequence of outcomes of the provider, a call makes at
most 27 calls of it, in order; none follows an error that is final, nor one with a model that
has ended in a transient error, and no model is come back to. A result describes the chat
that produced its data; an error is the one of the last chat. -/
theorem call_llm_json_routing
    (settings : ProviderSettings)
    (library : Library)
    (provider : Provider)
    (schemaGiven : Bool) :
    let ended := (callLlmJson settings library provider schemaGiven).1
    let chats := (callLlmJson settings library provider schemaGiven).2
    let calls := (chats.map fun chat => chat.replies.length).sum
    calls ≤ 27 ∧
      (chats.flatMap fun chat => chat.replies) = (List.range calls).map provider ∧
      (∀ before chat after firsts reply rest error,
        chats = before ++ chat :: after →
        chat.replies = firsts ++ reply :: rest →
        readReply library reply = .error error →
        Final settings chat.model error →
        rest = [] ∧ after = []) ∧
      (∀ before chat after error,
        chats = before ++ chat :: after →
        chat.ended library = .error error →
        error.transient = true →
        (chat.replies.length = 3 ∨ settings.groqApiKey = "") ∧
          ∀ later ∈ after, later.model ≠ chat.model) ∧
      (∀ model other, [model, other, model] <+ chats.map (·.model) → other = model) ∧
      (∀ result, ended = .ok result →
        ∃ chat, Describes settings library result chats chat) ∧
      ∀ error, ended = .error error →
        ∃ chat, chats.getLast? = some chat ∧ chat.outcome library = .error error := by
  intro ended chats calls
  obtain ⟨left, routed, same⟩ := callLlmJson_routed settings library provider schemaGiven
  have accounts := routed.accounts
  have made : left.chats = chats := same
  have counted : left.calls = calls := by rw [Routing.calls, made]
  have attempts := accounts.attempts
  have bounded := routed.bounded
  have perChat := accounts.calls_le
  rw [← counted, ← made]
  refine ⟨by omega, accounts.replies, ?_, ?_, accounts.rounds, routed.returned, routed.raised⟩
  · intro before chat after firsts reply rest error split replies read final
    exact accounts.final split replies read final
  · intro before chat after error split failed transient
    exact accounts.transient split failed transient

end Llm
end MailerAgent
