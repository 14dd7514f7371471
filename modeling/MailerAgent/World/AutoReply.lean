import MailerAgent.Policy.Drafting
import MailerAgent.Policy.Guardrails
import MailerAgent.Semantic.Response
import MailerAgent.World.Schedule

/-!
# Automatic replies

The decision to send a reply without a human, from the JSON of the classifier and of the
planner to the call of the sender. The guardrails test that a confidence is not too
small, so they let through a confidence that is not a number.
-/

namespace MailerAgent

open Concurrent Relational Mail Native Program Policy

/-- The notes of `reconcile_known_facts`, from the `contradicted_facts` of the classified
inbound messages; a value that is no collection cannot extend them. -/
def contradictedNotes : List Json → Except String (List Json)
  | [] => .ok []
  | facts :: rest => do
      let noted ← facts.iterateOrEmpty
      let others ← contradictedNotes rest
      pure (noted ++ others)

/-- Contradictions that can be noted: those that do not count as none are a list, a text or
an object. -/
def Noted (contradictedFacts : List Json) : Prop :=
  ∀ facts ∈ contradictedFacts, facts.truth = true → Semantic.Iterable facts

theorem contradictedNotes_ok_iff {contradictedFacts : List Json} :
    (∃ notes, contradictedNotes contradictedFacts = .ok notes) ↔ Noted contradictedFacts := by
  unfold Noted
  induction contradictedFacts with
  | nil => simp [contradictedNotes]
  | cons facts rest inductionHypothesis =>
      rw [List.forall_mem_cons, ← inductionHypothesis, ← Semantic.iterateOrEmpty_ok_iff]
      cases iterated : facts.iterateOrEmpty with
      | error name => simp [contradictedNotes, iterated, bind, Except.bind]
      | ok noted =>
          cases others : contradictedNotes rest with
          | error name => simp [contradictedNotes, iterated, others, bind, Except.bind]
          | ok notes =>
              simp [contradictedNotes, iterated, others, bind, Except.bind, pure, Except.pure]

/-- What the planner and the guardrails decide about a reply, when the known facts for the
planner can be told. -/
def plannedReply
    (functions : PyFunctions)
    (intent : ParsedIntent)
    (autoReplyEnabled : Bool)
    (contradictedFacts : List Json)
    (answer : PlannerReply) : Except String ReplyPlan := do
  let _ ← contradictedNotes contradictedFacts
  let proposal ← planNextAction functions intent.unresolvedItems answer
  let authorized ← authorizeAction functions proposal intent autoReplyEnabled
  pure { eligible := authorized.canAutoSend, closing := authorized.closing }

/-- `draft_message` for a reply to a contact of a campaign. -/
def draftedReply
    (services : Services)
    (campaign : Campaign)
    (contact : Contact)
    (transcript : String) : Written → DraftResult
  | .text subject body =>
      .drafted (groundedDraft services (.ofRows campaign contact) (some transcript) subject
        body)
  | .contextualFallbackUnavailable => .contextualFallbackUnavailable
  | .raised name => .raised name

/-- Surroundings in which the planner and the responder answer as the program reads what
the language model returned. -/
def answering
    (plan : Except String ReplyPlan)
    (draft : DraftResult)
    (surroundings : Surroundings) : Surroundings :=
  { surroundings with
    answer := fun position signal prompt =>
      match signal with
      | .planReply _ _ => plan
      | .draftMessage _ _ => draft
      | other => surroundings.answer position other prompt }

/-- The reply that is due: the contact with its campaign and the message that it answers, the
`contradicted_facts` that the classified messages of the contact are stored with, and what
the language model returned about it. -/
structure DueReply where
  key : Nat
  contact : Contact
  campaign : Campaign
  email : InboundEmail
  transcript : String
  classification : List (String × Json)
  contradictedFacts : List Json
  planned : PlannerReply
  written : Written

namespace DueReply

variable (deployment : Deployment) (functions : PyFunctions) (reply : DueReply)

/-- `_draft_and_maybe_send_reply` for an interpretation, on a state of the database. -/
def run
    (intent : ParsedIntent)
    (surroundings : Surroundings)
    (pending : List Change)
    (database : Database) :
    Outcome Database Change Signal (Except Failure InboundAction × List Change) :=
  Process.alone Change.apply Signal.prompt
    (answering
      (plannedReply functions intent deployment.settings.autoReplyEnabled
        reply.contradictedFacts reply.planned)
      (draftedReply deployment.services reply.campaign reply.contact reply.transcript
        reply.written) surroundings)
    (draftAndMaybeSendReply deployment reply.key reply.contact reply.campaign reply.email
      intent.toSemanticIntent pending) 0 database {}

/-- `send_email` is called. -/
def Sends
    (intent : ParsedIntent)
    (surroundings : Surroundings)
    (pending : List Change)
    (database : Database) : Prop :=
  ∃ origin contactId arguments, .sendEmail origin contactId arguments ∈
    (reply.run deployment functions intent surroundings pending database).trace

/-- A text was drafted whose grounding is safe to send, and the address is not
suppressed. -/
structure Clear (database : Database) : Prop where
  grounded : ∃ subject body, reply.written = .text subject body ∧
    (runGrounding deployment.services (.ofRows reply.campaign reply.contact)
      (some reply.transcript) body).isSafeToSend = true
  unsuppressed :
    database.isEmailSuppressed reply.contact.email reply.campaign.organizationId = false

end DueReply

/-! ## The call of the sender -/

section Sending

variable {deployment : Deployment} {functions : PyFunctions} {reply : DueReply}
variable {intent : ParsedIntent} {surroundings : Surroundings} {pending : List Change}
variable {database : Database}

/-- The plan of a reply that the guardrails let through. -/
theorem plannedReply_of_letThrough
    {proposal : NextActionProposal}
    {enabled : Bool}
    (noted : Noted reply.contradictedFacts)
    (planned : planNextAction functions intent.unresolvedItems reply.planned = .ok proposal)
    (through : LetThrough proposal intent enabled) :
    plannedReply functions intent enabled reply.contradictedFacts reply.planned =
      .ok { eligible := true, closing := proposal.actionType == .proposeNextStep } := by
  obtain ⟨notes, told⟩ := contradictedNotes_ok_iff.mpr noted
  unfold plannedReply
  rw [told, planned]
  change (authorizeAction functions proposal intent enabled).bind _ = _
  rw [authorizeAction_of_letThrough through]
  rfl

theorem letThrough_of_eligible
    {plan : ReplyPlan}
    {enabled : Bool}
    (planned : plannedReply functions intent enabled reply.contradictedFacts reply.planned =
      .ok plan)
    (eligible : plan.eligible = true) :
    Noted reply.contradictedFacts ∧
      ∃ proposal, planNextAction functions intent.unresolvedItems reply.planned =
          .ok proposal ∧
        LetThrough proposal intent enabled := by
  unfold plannedReply at planned
  cases told : contradictedNotes reply.contradictedFacts with
  | error failure =>
      rw [told] at planned
      cases planned
  | ok notes =>
      refine ⟨contradictedNotes_ok_iff.mp ⟨notes, told⟩, ?_⟩
      rw [told] at planned
      change (planNextAction functions intent.unresolvedItems reply.planned).bind _ = _
        at planned
      cases proposed : planNextAction functions intent.unresolvedItems reply.planned with
      | error failure =>
          rw [proposed] at planned
          cases planned
      | ok proposal =>
          rw [proposed] at planned
          change (authorizeAction functions proposal intent enabled).bind _ = _ at planned
          cases decided : authorizeAction functions proposal intent enabled with
          | error failure =>
              rw [decided] at planned
              cases planned
          | ok authorized =>
              rw [decided] at planned
              cases planned
              exact ⟨proposal, rfl, letThrough_of_canAutoSend decided eligible⟩

/-- A query that runs alone in a fresh transaction. -/
theorem alone_query_bind
    {Value Result : Type}
    {read : Database → Value}
    {rest : Value → Program Result}
    {position : Nat}
    (ran : surroundings.fault position = false) :
    Process.alone Change.apply Signal.prompt surroundings
        ((Program.query read >>= rest) pending) position database {} =
      Process.alone Change.apply Signal.prompt surroundings (rest (read database) pending)
        (position + 1) database {} := by
  change Process.alone _ _ _ (.statement _ _) _ _ _ = _
  simp only [Process.alone, runStatement, ran]
  rfl

theorem alone_query_bind_of_fault
    {Value Result : Type}
    {read : Database → Value}
    {rest : Value → Program Result}
    {position : Nat}
    (failed : surroundings.fault position = true) :
    (Process.alone Change.apply Signal.prompt surroundings
        ((Program.query read >>= rest) pending) position database {}).trace = [] := by
  change (Process.alone _ _ _ (.statement _ _) _ _ _).trace = _
  simp only [Process.alone, runStatement, failed]
  rfl

/-- The message is sent exactly if the check of the suppressions returns and all gates
are open. -/
theorem sends_sendOrHoldReply_iff
    {key : Nat}
    {contact : Contact}
    {campaign : Campaign}
    {email : InboundEmail}
    {plan : ReplyPlan}
    {draft : Draft}
    {position : Nat} :
    (∃ origin contactId arguments, .sendEmail origin contactId arguments ∈
      (Process.alone Change.apply Signal.prompt surroundings
        (sendOrHoldReply deployment key contact campaign email plan draft pending)
        position database {}).trace) ↔
      surroundings.fault position = false ∧
        (deployment.settings.autoReplyEnabled && plan.eligible && !groundingBlocked draft &&
          !database.isEmailSuppressed contact.email campaign.organizationId) = true := by
  unfold sendOrHoldReply
  cases fault : surroundings.fault position with
  | true =>
      rw [alone_query_bind_of_fault fault]
      exact ⟨fun ⟨_, _, _, member⟩ => (List.not_mem_nil member).elim, fun both => nomatch both.1⟩
  | false =>
      rw [alone_query_bind fault]
      split
      · next gates => exact ⟨fun _ => ⟨rfl, gates⟩, fun _ => ⟨_, _, _, List.mem_cons_self⟩⟩
      · next gates =>
          refine ⟨?_, fun both => (gates both.2).elim⟩
          rintro ⟨origin, contactId, arguments, member⟩
          -- A held reply only asks for the time and a handle.
          have held : Signal.sendEmail origin contactId arguments ∈ [.utcnow, .newReference] :=
            member
          simp at held

theorem groundingBlocked_groundedDraft
    {services : Services}
    {grounds : Grounds}
    {transcript subject : Option String}
    {body : String} :
    groundingBlocked (groundedDraft services grounds transcript subject body) = false ↔
      (runGrounding services grounds transcript body).isSafeToSend = true := by
  simp [groundingBlocked, groundedDraft]

/-- The interactions for a reply that was drafted. -/
theorem DueReply.trace_run_of_written
    {plan : ReplyPlan}
    {subject : Option String}
    {body : String}
    (planned : plannedReply functions intent deployment.settings.autoReplyEnabled
      reply.contradictedFacts reply.planned = .ok plan)
    (written : reply.written = .text subject body) :
    (reply.run deployment functions intent surroundings pending database).trace =
      .begin :: .planReply reply.key intent.toSemanticIntent ::
        .draftMessage reply.key (if plan.closing then .closing else .reply) ::
        (Process.alone Change.apply Signal.prompt
          (answering (.ok plan)
            (draftedReply deployment.services reply.campaign reply.contact reply.transcript
              (.text subject body)) surroundings)
          (sendOrHoldReply deployment reply.key reply.contact reply.campaign reply.email plan
            (groundedDraft deployment.services (.ofRows reply.campaign reply.contact)
              (some reply.transcript) subject body) pending) 3 database {}).trace := by
  unfold DueReply.run
  rw [planned, written]
  rfl

/-- What was let through and is clear, for a reply that is sent. -/
theorem letThrough_of_sends
    (sends : reply.Sends deployment functions intent surroundings pending database) :
    Noted reply.contradictedFacts ∧
      ∃ proposal, planNextAction functions intent.unresolvedItems reply.planned =
          .ok proposal ∧
        LetThrough proposal intent deployment.settings.autoReplyEnabled ∧
        reply.Clear deployment database := by
  obtain ⟨origin, contactId, arguments, member⟩ := sends
  cases planned : plannedReply functions intent deployment.settings.autoReplyEnabled
      reply.contradictedFacts reply.planned with
  | error name =>
      unfold DueReply.run at member
      rw [planned] at member
      have refused : Signal.sendEmail origin contactId arguments ∈
          [.begin, .planReply reply.key intent.toSemanticIntent] := member
      simp at refused
  | ok plan =>
      cases written : reply.written with
      | raised name =>
          unfold DueReply.run at member
          rw [planned, written] at member
          have failed : Signal.sendEmail origin contactId arguments ∈
              [.begin, .planReply reply.key intent.toSemanticIntent,
                .draftMessage reply.key (if plan.closing then .closing else .reply)] := member
          simp at failed
      | contextualFallbackUnavailable =>
          unfold DueReply.run at member
          rw [planned, written] at member
          have manual : Signal.sendEmail origin contactId arguments ∈
              Signal.begin :: .planReply reply.key intent.toSemanticIntent ::
                .draftMessage reply.key (if plan.closing then .closing else .reply) ::
                (Process.alone Change.apply Signal.prompt _
                  ((transitionContactState reply.key reply.contact .needsHuman >>=
                    fun _ => (pure .replyNeedsManualDraft : Program InboundAction)) pending)
                  3 database {}).trace := member
          simp only [List.mem_cons, reduceCtorEq, false_or] at manual
          unfold transitionContactState at manual
          split at manual
          · exact (List.not_mem_nil manual).elim
          · have asked : Signal.sendEmail origin contactId arguments ∈ [.utcnow] := manual
            simp at asked
      | text subject body =>
          rw [DueReply.trace_run_of_written planned written] at member
          simp only [List.mem_cons, reduceCtorEq, false_or] at member
          obtain ⟨-, gates⟩ :=
            sends_sendOrHoldReply_iff.mp ⟨origin, contactId, arguments, member⟩
          simp only [Bool.and_eq_true, Bool.not_eq_true'] at gates
          obtain ⟨⟨⟨-, eligible⟩, grounded⟩, unsuppressed⟩ := gates
          obtain ⟨noted, proposal, proposed, through⟩ := letThrough_of_eligible planned eligible
          exact ⟨noted, proposal, proposed, through, ⟨subject, body, written,
            groundingBlocked_groundedDraft.mp grounded⟩, unsuppressed⟩

/-- A reply that was let through and is clear is sent when the database answers. -/
theorem sends_of_letThrough
    {proposal : NextActionProposal}
    (noted : Noted reply.contradictedFacts)
    (planned : planNextAction functions intent.unresolvedItems reply.planned = .ok proposal)
    (through : LetThrough proposal intent deployment.settings.autoReplyEnabled)
    (clear : reply.Clear deployment database)
    (answered : surroundings.fault 3 = false) :
    reply.Sends deployment functions intent surroundings pending database := by
  obtain ⟨⟨subject, body, written, grounded⟩, unsuppressed⟩ := clear
  have plan := plannedReply_of_letThrough noted planned through
  have passed := (@groundingBlocked_groundedDraft _ _ _ subject _).mpr grounded
  have gates : (deployment.settings.autoReplyEnabled && true &&
      !groundingBlocked (groundedDraft deployment.services
        (.ofRows reply.campaign reply.contact) (some reply.transcript) subject body) &&
      !database.isEmailSuppressed reply.contact.email reply.campaign.organizationId) =
      true := by
    rw [through.enabled, passed, unsuppressed]
    rfl
  unfold DueReply.Sends
  rw [DueReply.trace_run_of_written plan written]
  simp only [List.mem_cons, reduceCtorEq, false_or]
  exact sends_sendOrHoldReply_iff.mpr ⟨answered, gates⟩

end Sending

/-- A reply is sent only if everything that has to be true of it is, exactly if no
confidence fails to be a number where nothing else holds the reply back: the contradictions
can be noted, the planner returns a proposal, and the guardrails and the later gates let it
through. -/
theorem automatic_reply_gate
    (deployment : Deployment)
    (functions : PyFunctions)
    (reply : DueReply)
    (pending : List Change)
    (database : Database) :
    (∀ intent surroundings,
      Semantic.parseDecisive functions reply.classification = .ok intent →
      reply.Sends deployment functions intent surroundings pending database →
      ∃ proposal, planNextAction functions intent.unresolvedItems reply.planned =
          .ok proposal ∧
        Authorized proposal intent deployment.settings.autoReplyEnabled ∧
        reply.Clear deployment database) ↔
    ∀ intent proposal,
      Semantic.parseDecisive functions reply.classification = .ok intent →
      Noted reply.contradictedFacts →
      planNextAction functions intent.unresolvedItems reply.planned = .ok proposal →
      LetThrough proposal intent deployment.settings.autoReplyEnabled →
      reply.Clear deployment database →
      intent.confidence ≠ .nan ∧ proposal.confidence ≠ .nan := by
  constructor
  · intro gated intent proposal parsed noted planned through clear
    obtain ⟨same, plannedSame, authorized, -⟩ := gated intent Sample.quietly parsed
      (sends_of_letThrough noted planned through clear rfl)
    cases planned.symm.trans plannedSame
    exact authorized.numbers
  · intro numbers intent surroundings parsed sends
    obtain ⟨noted, proposal, planned, through, clear⟩ := letThrough_of_sends sends
    obtain ⟨understood, sure⟩ := numbers intent proposal parsed noted planned through clear
    exact ⟨proposal, planned, through.authorized understood sure, clear⟩

namespace Sample

/-- Functions of Python that read no text as a number. -/
def functions : PyFunctions where
  floatOfText _ := none
  str _ := ""
  twoDecimals _ := ""
  instantOfText _ := none

/-- The small installation with automatic replies. -/
def automaticDeployment : Deployment :=
  { deployment with settings := { deployment.settings with autoReplyEnabled := true } }

/-- A reply that the planner wants to answer with a confidence that is not a number. -/
def unsureReply : DueReply where
  key := 0
  contact := { campaignId := 0, email := "p@x.test" }
  campaign :=
    { name := "c", organizationId := some "acme", senderName := "s", senderOrg := "o"
      senderEmail := "out@acme.test", valueProp := "v" }
  email := letter "p@x.test" "<m@x.test>"
  transcript := ""
  classification := [("confidence", .float (.finite 1))]
  contradictedFacts := []
  planned := .answered (.object [("action_type", .string "answer"),
    ("objective", .string "Answer the question"), ("confidence", .float .nan)])
  written := .text none "Hi"

end Sample

/-- The planner's confidence is not a number, and the reply is sent. -/
theorem unsure_reply_sent :
    ∃ intent proposal,
      Semantic.parseDecisive Sample.functions Sample.unsureReply.classification =
        .ok intent ∧
      planNextAction Sample.functions intent.unresolvedItems Sample.unsureReply.planned =
        .ok proposal ∧
      ¬proposal.confidence.AtLeast minAutoSendConfidence ∧
      Sample.unsureReply.Sends Sample.automaticDeployment Sample.functions intent
        Sample.quietly [] {} := by
  refine ⟨_, _, rfl, rfl, PyFloat.not_atLeast_nan, ?_⟩
  refine sends_of_letThrough nofun rfl ?_ ⟨⟨none, "Hi", rfl, rfl⟩, rfl⟩ rfl
  refine ⟨rfl, .inl ?_, rfl, .inr rfl, rfl, ⟨nofun, nofun⟩, nofun⟩
  change minAutoSendConfidence ≤ 1
  decide +kernel

end MailerAgent
