import MailerAgent.Foundation.PyText
import MailerAgent.Native.Outreach
import Mathlib.Data.List.Induction
import Mathlib.Data.List.Sigma

/-!
# The bounded conversation context

`build_conversation_context` of `memory/store.py` shows the last messages of a contact as
they are and the summary of what `maybe_summarize_older_messages` has folded in. A thread
grows message by message, with a call of the latter after each one. Only a thread that
fits the verbatim window is covered at every moment: a summary is written when the thread
has outgrown a second, larger bound.
-/

namespace MailerAgent
namespace Memory

open Native Program

/-- A message that `_conversational_evidence` keeps. -/
def isEvidence (message : Message) : Bool :=
  message.direction == .inbound || message.status == .sent

/-- `messages[-RECENT_MESSAGES_VERBATIM:]` of the evidence. -/
def recentMessages (messages : List Message) : List Message :=
  let evidence := conversationalEvidence messages
  evidence.drop (evidence.length - recentMessagesVerbatim)

/-- The entry of a message. -/
def transcriptEntry
    (dateText : Instant → String)
    (message : Message) : String :=
  let who := if message.direction == .outbound then "US (sent)" else "THEM (received)"
  let subject :=
    match message.subject with
    | some subject => if subject.isEmpty then "" else " | Subject: " ++ subject
    | none => ""
  "[" ++ dateText message.createdAt ++ "] " ++ who ++ subject ++ "\n" ++
    PyText.strip message.body

/-- The entry of the summary, if there is one. -/
def summaryEntry (memorySummary : Option String) : List String :=
  match memorySummary with
  | some summary =>
      if summary.isEmpty then [] else ["[Summary of earlier conversation]: " ++ summary]
  | none => []

/-- `build_conversation_context`. -/
def buildConversationContext
    (dateText : Instant → String)
    (contact : Contact)
    (messages : List Message) : String :=
  if (conversationalEvidence messages).isEmpty then
    "(no messages sent yet -- this is the first contact)"
  else
    String.intercalate "\n\n---\n\n"
      (summaryEntry contact.memorySummary ++
        (recentMessages messages).map (transcriptEntry dateText))

/-- The messages that are given to the summarization, if there is a call. -/
def toSummarize (messages : List Message) : Option (List Message) :=
  let evidence := conversationalEvidence messages
  if evidence.length ≤ summarizeThreshold then none
  else some (evidence.take (evidence.length - recentMessagesVerbatim))

theorem maybeSummarizeOlderMessages_eq
    (key : Nat)
    (contact : Contact)
    (messages : List Message) :
    maybeSummarizeOlderMessages key contact messages =
      (match toSummarize messages with
      | none => pure ()
      | some older => do
          match ← ask (.summarize key older) with
          | .summarized text =>
              let _ ← assign key contact { memorySummary := some text }
              flush
          | .unavailable => pure ()
          | .raised name => raise (.raised name)) := by
  by_cases short : (conversationalEvidence messages).length ≤ summarizeThreshold
  · have nothing : toSummarize messages = none := if_pos short
    rw [nothing]
    exact if_pos short
  · have older : toSummarize messages = some _ := if_neg short
    rw [older]
    exact if_neg short

/-! ## A thread that grows -/

/-- The messages of a contact in order, its summary, and the positions of the messages
that were given to the call whose result the summary is. -/
structure Thread where
  messages : List Message := []
  memorySummary : Option String := none
  folded : List Nat := []

/-- The evidence with its positions. -/
def evidenceRows (messages : List Message) : List (Message × Nat) :=
  messages.zipIdx.filter fun row => isEvidence row.1

/-- The evidence of the verbatim part with its positions. -/
def recentRows (messages : List Message) : List (Message × Nat) :=
  (evidenceRows messages).drop ((evidenceRows messages).length - recentMessagesVerbatim)

/-- `maybe_summarize_older_messages`, where the call yields a text or fails. -/
def Thread.summarize
    (thread : Thread)
    (result : Option String) : Thread :=
  match toSummarize thread.messages, result with
  | some older, some text =>
      { thread with
        memorySummary := some text
        folded := ((evidenceRows thread.messages).take older.length).map Prod.snd }
  | _, _ => thread

/-- What happens to a thread: a message is logged, and the summarization is called; or a
message that is no evidence yet gets another status. -/
inductive ThreadEvent where
  | logged (message : Message) (result : Option String)
  | settled (position : Nat) (status : MessageStatus)

/-- A message with another status, unless it is evidence already. -/
def settleMessage
    (status : MessageStatus)
    (message : Message) : Message :=
  if isEvidence message then message else { message with status := status }

/-- The thread after an event. -/
def Thread.step (thread : Thread) : ThreadEvent → Thread
  | .logged message result =>
      { thread with messages := thread.messages ++ [message] }.summarize result
  | .settled position status =>
      { thread with messages := thread.messages.modify position (settleMessage status) }

/-- The thread after a sequence of events. -/
def Thread.after (events : List ThreadEvent) : Thread :=
  events.foldl Thread.step {}

/-- Every message of the evidence is shown as it is, or was given to the call whose result
the summary is. -/
def Thread.Covered (thread : Thread) : Prop :=
  ∀ row ∈ evidenceRows thread.messages,
    row ∈ recentRows thread.messages ∨ row.2 ∈ thread.folded

/-- No evidence is lost at any moment of a history. -/
def NothingLost (events : List ThreadEvent) : Prop :=
  ∀ moment, moment <+: events → (Thread.after moment).Covered

/-! ## The evidence -/

theorem conversationalEvidence_eq (messages : List Message) :
    conversationalEvidence messages = messages.filter isEvidence :=
  rfl

theorem evidenceRows_map (messages : List Message) :
    (evidenceRows messages).map Prod.fst = conversationalEvidence messages := by
  rw [conversationalEvidence_eq]
  conv => rhs; rw [← List.zipIdx_map_fst 0 messages, List.filter_map]
  rfl

theorem length_evidenceRows (messages : List Message) :
    (evidenceRows messages).length = (conversationalEvidence messages).length := by
  rw [← evidenceRows_map, List.length_map]

/-- The verbatim part, without the positions. -/
theorem recentRows_map (messages : List Message) :
    (recentRows messages).map Prod.fst = recentMessages messages := by
  unfold recentRows recentMessages
  rw [List.map_drop, evidenceRows_map, length_evidenceRows]

theorem nodup_evidenceRows (messages : List Message) : (evidenceRows messages).Nodup :=
  ((List.nodup_zipIdx_map_snd messages).of_map Prod.snd).filter _

/-- A status that is settled adds at most one message to the evidence. -/
theorem length_evidence_modify
    (messages : List Message)
    (position : Nat)
    (status : MessageStatus) :
    (conversationalEvidence messages).length ≤
        (conversationalEvidence (messages.modify position (settleMessage status))).length ∧
      (conversationalEvidence (messages.modify position (settleMessage status))).length ≤
        (conversationalEvidence messages).length + 1 := by
  simp only [conversationalEvidence_eq, ← List.countP_eq_length_filter]
  induction messages generalizing position with
  | nil => simp
  | cons message messages inductionHypothesis =>
      cases position with
      | zero =>
          rw [List.modify_zero_cons, List.countP_cons, List.countP_cons]
          by_cases evidence : isEvidence message = true
          · simp [settleMessage, evidence]
          · simp only [evidence, Bool.false_eq_true, if_false]
            split <;> omega
      | succ position =>
          rw [List.modify_succ_cons, List.countP_cons, List.countP_cons]
          have rest := inductionHypothesis position
          omega

@[simp] theorem messages_summarize
    (thread : Thread)
    (result : Option String) :
    (thread.summarize result).messages = thread.messages := by
  unfold Thread.summarize
  split <;> rfl

/-- How much evidence a thread holds. -/
def Thread.evidence (thread : Thread) : Nat :=
  (conversationalEvidence thread.messages).length

/-- An event adds at most one message to the evidence and takes none away. -/
theorem Thread.evidence_step
    (thread : Thread)
    (event : ThreadEvent) :
    thread.evidence ≤ (thread.step event).evidence ∧
      (thread.step event).evidence ≤ thread.evidence + 1 := by
  cases event with
  | logged message result =>
      unfold Thread.evidence Thread.step
      rw [messages_summarize, conversationalEvidence_eq, conversationalEvidence_eq,
        List.filter_append, List.length_append]
      have single := List.length_filter_le isEvidence [message]
      rw [List.length_singleton] at single
      omega
  | settled position status =>
      exact length_evidence_modify thread.messages position status

@[simp] theorem Thread.after_concat
    (events : List ThreadEvent)
    (last : ThreadEvent) :
    Thread.after (events ++ [last]) = (Thread.after events).step last := by
  unfold Thread.after
  rw [List.foldl_append]
  rfl

theorem Thread.evidence_mono
    {moment events : List ThreadEvent}
    (earlier : moment <+: events) :
    (Thread.after moment).evidence ≤ (Thread.after events).evidence := by
  obtain ⟨later, rfl⟩ := earlier
  induction later using List.reverseRecOn with
  | nil => rw [List.append_nil]
  | append_singleton later last inductionHypothesis =>
      rw [← List.append_assoc, Thread.after_concat]
      exact inductionHypothesis.trans ((Thread.after (moment ++ later)).evidence_step last).1

/-! ## Coverage -/

/-- Nothing is folded before the evidence has passed the threshold. -/
theorem Thread.folded_nil
    (events : List ThreadEvent)
    (short : (Thread.after events).evidence ≤ summarizeThreshold) :
    (Thread.after events).folded = [] := by
  induction events using List.reverseRecOn with
  | nil => rfl
  | append_singleton events last inductionHypothesis =>
      rw [Thread.after_concat] at short ⊢
      have earlier := inductionHypothesis
        (((Thread.after events).evidence_step last).1.trans short)
      cases last with
      | settled position status => exact earlier
      | logged message result =>
          have uncalled : toSummarize ((Thread.after events).messages ++ [message]) = none := by
            have bound := short
            unfold Thread.evidence Thread.step at bound
            rw [messages_summarize] at bound
            exact if_pos bound
          simp only [Thread.step, Thread.summarize, uncalled]
          exact earlier

/-- A thread that fits the window is covered. -/
theorem Thread.covered_of_short
    {thread : Thread}
    (short : thread.evidence ≤ recentMessagesVerbatim) :
    thread.Covered := by
  intro row member
  have fits : (evidenceRows thread.messages).length - recentMessagesVerbatim = 0 := by
    rw [length_evidenceRows]
    exact Nat.sub_eq_zero_of_le short
  left
  unfold recentRows
  rw [fits]
  exact member

/-- One message more than the window holds is neither shown nor summarized. -/
theorem Thread.not_covered_of_seventh
    {events : List ThreadEvent}
    (seventh : (Thread.after events).evidence = recentMessagesVerbatim + 1) :
    ¬(Thread.after events).Covered := by
  intro covered
  have unfolded := Thread.folded_nil events (seventh.trans_le (by decide))
  have length : (evidenceRows (Thread.after events).messages).length =
      recentMessagesVerbatim + 1 := by
    rw [length_evidenceRows]
    exact seventh
  have unique := nodup_evidenceRows (Thread.after events).messages
  cases rows : evidenceRows (Thread.after events).messages with
  | nil =>
      rw [rows] at length
      exact absurd length (by decide)
  | cons first others =>
      rw [rows] at length unique
      rcases covered first (rows ▸ List.mem_cons_self) with shown | summarized
      · unfold recentRows at shown
        rw [rows, length, Nat.add_sub_cancel_left] at shown
        exact (List.nodup_cons.mp unique).1 shown
      · rw [unfolded] at summarized
        exact List.not_mem_nil summarized

/-- A thread that outgrows the window holds one message too many at some moment. -/
theorem Thread.exists_seventh
    {events : List ThreadEvent}
    (outgrown : recentMessagesVerbatim < (Thread.after events).evidence) :
    ∃ moment, moment <+: events ∧
      (Thread.after moment).evidence = recentMessagesVerbatim + 1 := by
  induction events using List.reverseRecOn with
  | nil => exact absurd outgrown (by decide)
  | append_singleton events last inductionHypothesis =>
      by_cases before : recentMessagesVerbatim < (Thread.after events).evidence
      · obtain ⟨moment, earlier, seventh⟩ := inductionHypothesis before
        exact ⟨moment, earlier.trans (List.prefix_append _ _), seventh⟩
      · refine ⟨events ++ [last], List.prefix_refl _, ?_⟩
        rw [Thread.after_concat] at outgrown ⊢
        have grows := ((Thread.after events).evidence_step last).2
        omega

/-- A summary that is written covers the thread. -/
theorem Thread.covered_of_summarized
    {thread : Thread}
    (text : String)
    (outgrown : summarizeThreshold < thread.evidence) :
    (thread.summarize (some text)).Covered := by
  have called : toSummarize thread.messages =
      some ((conversationalEvidence thread.messages).take
        ((conversationalEvidence thread.messages).length - recentMessagesVerbatim)) :=
    if_neg (Nat.not_le.mpr outgrown)
  intro row member
  rw [messages_summarize] at member ⊢
  simp only [Thread.summarize, called]
  rw [← List.take_append_drop
    ((evidenceRows thread.messages).length - recentMessagesVerbatim)
    (evidenceRows thread.messages)] at member
  rcases List.mem_append.mp member with older | recent
  · right
    refine List.mem_map_of_mem ?_
    rw [List.length_take, Nat.min_eq_left (Nat.sub_le _ _), ← length_evidenceRows]
    exact older
  · exact .inl recent

/-- No evidence is lost exactly in the histories whose evidence fits the window. -/
theorem evidence_covered_iff (events : List ThreadEvent) :
    NothingLost events ↔
      (conversationalEvidence (Thread.after events).messages).length ≤
        recentMessagesVerbatim := by
  constructor
  · intro covered
    by_contra outgrown
    obtain ⟨moment, earlier, seventh⟩ := Thread.exists_seventh (Nat.not_le.mp outgrown)
    exact Thread.not_covered_of_seventh seventh (covered moment earlier)
  · intro short moment earlier
    exact Thread.covered_of_short ((Thread.evidence_mono earlier).trans short)

namespace Sample

/-- Seven received messages, with a summarization that always succeeds. -/
def longThread : List ThreadEvent :=
  List.replicate 7
    (.logged { contactId := 0, direction := .inbound, body := "", status := .received }
      (some "summary"))

end Sample

/-- The first of seven messages is neither shown nor summarized. -/
theorem evidence_lost : ¬∀ events, NothingLost events := by
  intro covered
  have seventh : (Thread.after Sample.longThread).evidence = recentMessagesVerbatim + 1 := by
    decide
  exact Thread.not_covered_of_seventh seventh
    (covered Sample.longThread Sample.longThread (List.prefix_refl _))

end Memory
end MailerAgent
