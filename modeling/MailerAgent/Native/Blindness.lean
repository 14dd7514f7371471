import MailerAgent.Foundation.Twin
import MailerAgent.Native.Reasoning
import MailerAgent.Native.Tenancy

/-!
# Programs that see one organization

Two runs of an inbound handler on databases that match inside a scope. `Blind` is the
judgement: the runs ask the same, write the same and return the same, everything they
write is within the scope, and the transactions still match. A prompt of the language
model contains what the code puts into it from the database: the contact, its campaign
and its conversation; whatever else it contains is the same in both runs.
-/

namespace MailerAgent
namespace Native

open Concurrent Relational Mail Program

/-- What a prompt reads from the database. -/
structure Prompt where
  contact : Option Contact := none
  campaign : Option Campaign := none
  messages : List Message := []
  deriving DecidableEq, Repr

/-- The prompt about a contact. -/
def contactPrompt
    (key : Nat)
    (view : Database) : Prompt where
  contact := view.contacts.get key
  campaign := (view.contacts.get key).bind view.campaignOf
  messages := conversation key view

/-- What an interaction reads from the database. -/
def Signal.prompt : Signal → Database → Prompt
  | draftMessage key _, view => contactPrompt key view
  | classify key _ _, view => contactPrompt key view
  | planReply key _, view => contactPrompt key view
  | summarize key _, view => contactPrompt key view
  | _, _ => {}

/-- The random tokens of an answer are in the scope. -/
def admits
    (settings : Settings)
    (scope : Scope) : (signal : Signal) → signal.Reply → Prop
  | .newReference, reference => scope.reference reference
  | .sendEmail _ _ arguments, behaviour => ∀ result identity,
      SendBehaviour.report settings arguments behaviour = .returned result →
      result.messageId = some identity → scope.identity identity
  | _, _ => True

/-- What the proofs about two runs rely on. -/
def tenancy
    (settings : Settings)
    (scope : Scope) :
    Discipline Database Change Signal Prompt Signal.Reply where
  apply := Change.apply
  prompt := Signal.prompt
  admits := admits settings scope
  own := Change.Within scope

/-- A condition on what waits for a flush and on the two transactions. -/
abbrev Condition := List Change → Twins Database Change → Prop

/-- Two runs from a condition end in a condition, and return together. -/
def Paired
    (settings : Settings)
    (scope : Scope)
    (before after : Condition)
    (program : Program Value)
    (ensures : Value → Prop) : Prop :=
  ∀ pending twins, before pending twins →
    Twin (tenancy settings scope) (program pending)
      (fun outcome twins => after outcome.2 twins ∧
        ∀ value, outcome.1 = .ok value → ensures value) twins

namespace Paired

variable {settings : Settings} {scope : Scope} {before middle after : Condition}
variable {Value Result : Type}

theorem pure
    {ensures : Value → Prop}
    (value : Value)
    (holds : ensures value) :
    Paired settings scope before before (Pure.pure value : Program Value) ensures := by
  intro pending twins start
  refine ⟨start, ?_⟩
  rintro _ ⟨⟩
  exact holds

theorem raise
    {ensures : Value → Prop}
    (failure : Failure) :
    Paired settings scope before before (Program.raise failure) ensures :=
  fun _ _ start => ⟨start, nofun⟩

theorem mono
    {program : Program Value}
    {ensures weaker : Value → Prop}
    (paired : Paired settings scope before after program ensures)
    (implies : ∀ value, ensures value → weaker value) :
    Paired settings scope before after program weaker := by
  intro pending twins start
  refine Twin.mono (paired pending twins start) ?_
  rintro outcome twins ⟨kept, holds⟩
  exact ⟨kept, fun value equal => implies value (holds value equal)⟩

/-- Sequential composition; an exception leaves the first part where it ended. -/
theorem follow
    {program : Program Value}
    {rest : Value → Program Result}
    {known : Value → Prop}
    {ensures : Result → Prop}
    (first : Paired settings scope before middle program known)
    (second : ∀ value, known value → Paired settings scope middle after (rest value) ensures)
    (passes : ∀ pending twins, middle pending twins → after pending twins) :
    Paired settings scope before after (program >>= rest) ensures := by
  intro pending twins start
  refine Twin.andThen (Twin.mono (first pending twins start) ?_)
  rintro ⟨result, waiting⟩ between ⟨kept, holds⟩
  cases result with
  | error failure => exact ⟨passes _ _ kept, nofun⟩
  | ok value => exact second value (holds value rfl) waiting between kept

/-- Two runs that are alike so far are continued with the same value. -/
theorem bind
    {program : Program Value}
    {rest : Value → Program Result}
    {known : Value → Prop}
    {ensures : Result → Prop}
    (first : Paired settings scope before before program known)
    (second : ∀ value, known value → Paired settings scope before before (rest value) ensures) :
    Paired settings scope before before (program >>= rest) ensures :=
  follow first second fun _ _ => id

/-- A failure is caught in both runs. -/
theorem attempt
    {program : Program Value}
    {ensures : Value → Prop}
    (paired : Paired settings scope before after program ensures) :
    Paired settings scope before after program.attempt
      fun result => ∀ value, result = .ok value → ensures value := by
  intro pending twins start
  refine Twin.andThen (Twin.mono (paired pending twins start) ?_)
  rintro ⟨result, waiting⟩ between ⟨kept, holds⟩
  refine ⟨kept, ?_⟩
  rintro _ ⟨⟩
  exact holds

/-- Both runs take the same branch. -/
theorem ite
    {condition : Prop}
    [Decidable condition]
    {yes no : Program Value}
    {ensures : Value → Prop}
    (whenTrue : condition → Paired settings scope before after yes ensures)
    (whenFalse : ¬condition → Paired settings scope before after no ensures) :
    Paired settings scope before after (if condition then yes else no) ensures := by
  split
  · next holds => exact whenTrue holds
  · next fails => exact whenFalse fails

/-- A computed result is the same in both runs. -/
theorem ofExcept
    (result : Except Failure Value) :
    Paired settings scope before before (Program.ofExcept result) fun _ => True := by
  cases result with
  | ok value => exact pure value trivial
  | error failure => exact raise failure

theorem required
    (value : Option Value) :
    Paired settings scope before before (Native.required value)
      fun present => value = some present := by
  cases value with
  | none => exact raise _
  | some present => exact pure present rfl

end Paired

/-! ## Transactions that match -/

section Level

variable (scope : Scope) (left right : Database)

/-- The transactions see databases that match, and what waits is within the scope. -/
structure Level
    (pending : List Change)
    (twins : Twins Database Change) : Prop where
  left : twins.left = left
  right : twins.right = right
  within : ∀ change ∈ pending, change.Within scope
  written : ∀ change ∈ twins.session.writes, change.Within scope
  views : twins.session.aborted = false → ∀ viewLeft viewRight,
    applyAll Change.apply twins.left twins.session.writes = some viewLeft →
    applyAll Change.apply twins.right twins.session.writes = some viewRight →
    Matches scope viewLeft viewRight

/-- A program that does not leave a scope. -/
abbrev Blind
    (settings : Settings)
    (program : Program Value)
    (ensures : Value → Prop) : Prop :=
  Paired settings scope (Level scope left right) (Level scope left right) program ensures

end Level

namespace Level

variable {scope : Scope} {left right : Database}
variable {pending : List Change} {twins : Twins Database Change}

/-- Both transactions are lost together. -/
theorem abort (level : Level scope left right pending twins) :
    Level scope left right pending twins.abort :=
  ⟨level.left, level.right, level.within, level.written, nofun⟩

theorem extend
    (level : Level scope left right pending twins)
    (unaborted : twins.session.aborted = false)
    {viewLeft viewRight : Database}
    (onLeft : applyAll Change.apply twins.left twins.session.writes = some viewLeft)
    (onRight : applyAll Change.apply twins.right twins.session.writes = some viewRight)
    {writes waiting : List Change}
    (within : ∀ change ∈ writes, change.Within scope)
    (remaining : ∀ change ∈ waiting, change.Within scope) :
    Level scope left right waiting (twins.extend writes) where
  left := level.left
  right := level.right
  within := remaining
  written change member := by
    rcases List.mem_append.mp member with old | new
    · exact level.written change old
    · exact within change new
  views _ nextLeft nextRight reachedLeft reachedRight := by
    have matched := (level.views unaborted viewLeft viewRight onLeft onRight).applyAll within
    simp only [Twins.extend, applyAll_append, onLeft, onRight, Option.bind_some]
      at reachedLeft reachedRight
    rw [reachedLeft, reachedRight] at matched
    cases matched with
    | some next => exact next

end Level

/-- Writes within the scope are accepted by both databases or by neither. -/
theorem accepted_of_matches
    {settings : Settings}
    {scope : Scope}
    {left right : Database}
    (matched : Matches scope left right)
    {writes : List Change}
    (within : ∀ change ∈ writes, change.Within scope) :
    (tenancy settings scope).accepted left (some writes) =
      (tenancy settings scope).accepted right (some writes) := by
  have related := matched.applyAll within
  have same : (applyAll Change.apply left writes).isSome =
      (applyAll Change.apply right writes).isSome := by
    generalize applyAll Change.apply left writes = resultLeft at related ⊢
    generalize applyAll Change.apply right writes = resultRight at related ⊢
    cases related with
    | none => rfl
    | some => rfl
  simp only [Discipline.accepted, tenancy]
  change (if (applyAll Change.apply left writes).isSome then some writes else none) =
    if (applyAll Change.apply right writes).isSome then some writes else none
  rw [same]

namespace Blind

variable {settings : Settings} {scope : Scope} {left right : Database}
variable {Value Result : Type}

/-- A statement that both transactions answer alike. -/
theorem execute
    {changes : Database → List Change}
    {read : Database → Value}
    {ensures : Value → Prop}
    (alike : ∀ viewLeft viewRight, Matches scope viewLeft viewRight →
      changes viewLeft = changes viewRight ∧ read viewLeft = read viewRight)
    (within : ∀ viewLeft viewRight, Matches scope viewLeft viewRight →
      ∀ change ∈ changes viewLeft, change.Within scope)
    (holds : ∀ viewLeft viewRight, Matches scope viewLeft viewRight →
      ensures (read viewLeft)) :
    Blind scope left right settings (Program.execute changes read) ensures := by
  intro pending twins level
  refine ⟨⟨level.abort, nofun⟩, ?_⟩
  intro unaborted viewLeft viewRight sees
  have matched := level.views unaborted viewLeft viewRight sees.left sees.right
  obtain ⟨sameChanges, sameRead⟩ := alike viewLeft viewRight matched
  have own := within viewLeft viewRight matched
  refine ⟨?_, ⟨level.abort, nofun⟩, ?_⟩
  · simp only [← sameChanges]
    exact accepted_of_matches matched own
  · intro writes accepted
    obtain ⟨equal, -⟩ := Option.filter_eq_some_iff.mp accepted
    cases equal
    refine ⟨?_, own, level.extend unaborted sees.left sees.right own level.within, ?_⟩
    · simp only [statementResult, sameRead]
    · rintro _ ⟨⟩
      exact holds viewLeft viewRight matched

/-- A query that both transactions answer alike. -/
theorem query
    {read : Database → Value}
    {ensures : Value → Prop}
    (alike : ∀ viewLeft viewRight, Matches scope viewLeft viewRight →
      read viewLeft = read viewRight)
    (holds : ∀ viewLeft viewRight, Matches scope viewLeft viewRight →
      ensures (read viewLeft)) :
    Blind scope left right settings (Program.query read) ensures :=
  execute (fun viewLeft viewRight matched => ⟨rfl, alike viewLeft viewRight matched⟩)
    (fun _ _ _ _ member => (List.not_mem_nil member).elim) holds

/-- A query whose answer is alike in both databases. -/
theorem observe
    {read : Database → Value}
    (alike : ∀ viewLeft viewRight, Matches scope viewLeft viewRight →
      read viewLeft = read viewRight) :
    Blind scope left right settings (Program.query read) fun _ => True :=
  query alike fun _ _ _ => trivial

/-- A change to rows of the organization waits in both transactions. -/
theorem stage
    {change : Change}
    (within : change.Within scope) :
    Blind scope left right settings (Program.stage change) fun _ => True := by
  intro pending twins level
  refine ⟨⟨level.left, level.right, ?_, level.written, level.views⟩, fun _ _ => trivial⟩
  intro other member
  rcases List.mem_append.mp member with old | new
  · exact level.within other old
  · rw [List.mem_singleton.mp new]
    exact within

/-- Both flushes succeed, or both are rejected. -/
theorem flush : Blind scope left right settings Program.flush fun _ => True := by
  intro pending twins level
  cases pending with
  | nil => exact ⟨level, fun _ _ => trivial⟩
  | cons first rest =>
      have own : ∀ change ∈ unitOfWork (first :: rest), change.Within scope :=
        fun change member => level.within change (mem_unitOfWork.mp member)
      refine ⟨⟨level.abort, nofun⟩, ?_⟩
      intro unaborted viewLeft viewRight sees
      have matched := level.views unaborted viewLeft viewRight sees.left sees.right
      refine ⟨accepted_of_matches matched own, ⟨level.abort, nofun⟩, ?_⟩
      intro writes accepted
      obtain ⟨equal, -⟩ := Option.filter_eq_some_iff.mp accepted
      cases equal
      exact ⟨rfl, own, level.extend unaborted sees.left sees.right own
        (fun _ member => (List.not_mem_nil member).elim), fun _ _ => trivial⟩

/-- An interaction; the prompts are the same. -/
theorem ask
    {signal : Signal}
    (prompts : ∀ viewLeft viewRight, Matches scope viewLeft viewRight →
      signal.prompt viewLeft = signal.prompt viewRight) :
    Blind scope left right settings (Program.ask signal) (admits settings scope signal) := by
  intro pending twins level
  refine ⟨?_, ?_⟩
  · intro unaborted viewLeft viewRight sees
    exact prompts viewLeft viewRight
      (level.views unaborted viewLeft viewRight sees.left sees.right)
  · intro reply admitted
    refine ⟨level, ?_⟩
    rintro _ ⟨⟩
    exact admitted

theorem utcnow : Blind scope left right settings Program.utcnow fun _ => True :=
  Paired.mono (ask fun _ _ _ => rfl) fun _ _ => trivial

end Blind

/-! ## The effects of a classified message -/

section Effects

variable {settings : Settings} {scope : Scope} {left right : Database}
variable {key : Nat} {contact : Contact}

/-- A contact object of the scope. -/
def Scope.Member
    (scope : Scope)
    (contact : Contact) : Prop :=
  scope.campaigns contact.campaignId = true

/-- A contact of the organization is written in both. -/
theorem blind_assign
    (inside : scope.contacts key = true)
    (member : scope.Member contact)
    (patch : ContactPatch) :
    Blind scope left right settings (assign key contact patch) scope.Member := by
  refine Paired.bind Blind.utcnow fun now _ => ?_
  exact Paired.bind (Blind.stage inside) fun _ _ => Paired.pure _ member

/-- A transition depends on the contact alone. -/
theorem blind_transitionContactState
    (inside : scope.contacts key = true)
    (member : scope.Member contact)
    (event : StateTransitionEvent) :
    Blind scope left right settings (transitionContactState key contact event)
      fun result => scope.Member result.1 := by
  unfold transitionContactState
  split
  · exact Paired.pure _ member
  · exact Paired.bind (blind_assign inside member _) fun _ moved => Paired.pure _ moved

/-- A message of a contact of the scope that was not received through a mailbox. -/
theorem blind_addMessage
    {message : Message}
    (inside : scope.message message = true)
    (unbound : message.mailboxId = none)
    (identity : ∀ header, message.messageIdHeader = some header → scope.identity header) :
    Blind scope left right settings (addMessage message) fun _ => True := by
  refine Paired.bind Blind.utcnow fun now _ => ?_
  refine Paired.bind (Blind.ask fun _ _ _ => rfl) fun reference fresh => ?_
  refine Blind.stage ⟨inside, ?_, ?_, ?_⟩
  · intro mailboxId bound
    rw [show message.mailboxId = some mailboxId from bound] at unbound
    cases unbound
  · intro header valued
    refine identity header ?_
    rw [Message.globalIdentity, if_pos unbound] at valued
    exact valued
  · rintro _ ⟨⟩
    exact fresh

/-- The entry is looked for under the organization. -/
theorem blind_handleUnsubscribe
    (inside : scope.contacts key = true)
    (member : scope.Member contact) :
    Blind scope left right settings (handleUnsubscribe key contact) scope.Member := by
  have owner : Blind scope left right settings
      (query fun view => view.organizationOf contact)
      fun organization => organization = some scope.organization := by
    refine Blind.query (fun viewLeft viewRight matched => ?_) fun viewLeft viewRight matched =>
      (matched.organizationOf member).1
    exact (matched.organizationOf member).1.trans (matched.organizationOf member).2.symm
  refine Paired.bind owner ?_
  rintro _ rfl
  refine Paired.bind (Blind.observe ?_) fun existing _ => ?_
  · intro viewLeft viewRight matched
    refine matched.existsSuppression fun entry holds => ?_
    rw [Bool.and_eq_true] at holds
    exact holds.2
  have rest : Blind scope left right settings (leaveCadence key contact) scope.Member :=
    Paired.bind (blind_transitionContactState inside member _) fun result moved =>
      blind_assign inside moved _
  cases existing with
  | true => exact rest
  | false => exact Paired.bind (Blind.stage rfl) fun _ _ => rest

theorem blind_promoteIfSent
    (inside : scope.contacts key = true)
    (member : scope.Member contact) :
    Blind scope left right settings (promoteIfSent key contact) scope.Member := by
  unfold promoteIfSent
  split
  · refine Paired.bind (Blind.observe ?_) fun sent _ => ?_
    · intro viewLeft viewRight matched
      refine matched.existsMessage fun message holds => ?_
      rw [Bool.and_eq_true, Bool.and_eq_true, beq_iff_eq] at holds
      rw [Scope.message, holds.1.1]
      exact inside
    split
    · exact Paired.bind (blind_transitionContactState inside member _) fun result moved =>
        Paired.pure _ moved
    · exact Paired.pure _ member
  · exact Paired.pure _ member

/-- The transitions of an integration's contact. -/
theorem blind_advanceIntegrationContact
    (inside : scope.contacts key = true)
    (member : scope.Member contact)
    (event : StateTransitionEvent) :
    Blind scope left right settings (advanceIntegrationContact key contact event)
      scope.Member := by
  refine Paired.bind (blind_promoteIfSent inside member) fun promoted isMember => ?_
  refine Paired.bind (blind_transitionContactState inside isMember event)
    fun (moved, taken) movedMember => ?_
  cases taken with
  | true => exact Paired.pure _ movedMember
  | false =>
      refine Paired.bind (blind_transitionContactState inside movedMember .replyReceived)
        fun (replied, again) repliedMember => ?_
      cases again with
      | true =>
          exact Paired.bind (blind_transitionContactState inside repliedMember event)
            fun result last => Paired.pure _ last
      | false => exact Paired.pure _ repliedMember

theorem blind_escalateUnknown
    (inside : scope.contacts key = true)
    (member : scope.Member contact) :
    Blind scope left right settings (escalateUnknown key contact) scope.Member :=
  Paired.bind (blind_transitionContactState inside member _) fun _ moved =>
    blind_assign inside moved _

theorem blind_afterAutomaticReply
    (inside : scope.contacts key = true)
    (member : scope.Member contact)
    (result : SendResult) :
    Blind scope left right settings (afterAutomaticReply key contact result)
      scope.Member := by
  unfold afterAutomaticReply
  split
  · exact Paired.bind Blind.utcnow fun _ _ => blind_assign inside member _
  · split
    · exact blind_escalateUnknown inside member
    · exact Paired.pure _ member

/-- A prompt about a contact of the scope. -/
theorem contactPrompt_eq
    (inside : scope.contacts key = true)
    {viewLeft viewRight : Database}
    (matched : Matches scope viewLeft viewRight) :
    contactPrompt key viewLeft = contactPrompt key viewRight := by
  obtain ⟨contact, onLeft, onRight, member⟩ := matched.contacts key inside
  obtain ⟨campaign, campaignLeft, campaignRight, -⟩ := matched.campaigns _ member
  unfold contactPrompt
  rw [onLeft, onRight, matched.conversation inside]
  simp only [Option.bind_some, Database.campaignOf, campaignLeft, campaignRight]

/-- The sender answers both runs alike, with a new Message-ID. -/
theorem blind_sendEmail
    (origin : SendOrigin)
    (arguments : SendEmailArguments) :
    Blind scope left right settings (sendEmail settings origin key arguments)
      fun result => ∀ identity, result.messageId = some identity → scope.identity identity := by
  refine Paired.bind (Blind.ask fun _ _ _ => rfl) fun behaviour fresh => ?_
  split
  · next result reported =>
      exact Paired.pure _ fun identity present => fresh result identity reported present
  · exact Paired.raise _

/-- Only the entries of the organization are asked for. -/
theorem blind_isEmailSuppressed
    (email : String) :
    Blind scope left right settings
      (query fun view => view.isEmailSuppressed email (some scope.organization))
      fun _ => True := by
  refine Blind.observe fun viewLeft viewRight matched => ?_
  refine matched.existsSuppression fun entry holds => ?_
  rw [Bool.and_eq_true] at holds
  exact holds.2

/-- A reply is sent in both runs, or held in both. -/
theorem blind_sendOrHoldReply
    {deployment : Deployment}
    (inside : scope.contacts key = true)
    (member : scope.Member contact)
    {campaign : Campaign}
    (owner : campaign.organizationId = some scope.organization)
    (email : InboundEmail)
    (plan : ReplyPlan)
    (draft : Draft) :
    Blind scope left right deployment.settings
      (sendOrHoldReply deployment key contact campaign email plan draft) fun _ => True := by
  unfold sendOrHoldReply
  rw [owner]
  refine Paired.bind (blind_isEmailSuppressed contact.email) fun suppressed _ => ?_
  dsimp only
  split
  · refine Paired.bind (blind_sendEmail _ _) fun result fresh => ?_
    refine Paired.bind (blind_afterAutomaticReply inside member result) fun _ _ => ?_
    exact Paired.bind (blind_addMessage inside rfl fresh) fun _ _ => Paired.pure _ trivial
  · exact Paired.bind (blind_addMessage inside rfl nofun) fun _ _ => Paired.pure _ trivial

theorem blind_draftAndMaybeSendReply
    {deployment : Deployment}
    (inside : scope.contacts key = true)
    (member : scope.Member contact)
    {campaign : Campaign}
    (owner : campaign.organizationId = some scope.organization)
    (email : InboundEmail)
    (intent : SemanticIntent) :
    Blind scope left right deployment.settings
      (draftAndMaybeSendReply deployment key contact campaign email intent)
      fun _ => True := by
  refine Paired.bind (Blind.ask fun _ _ _ => rfl) fun _ _ => ?_
  refine Paired.bind (Blind.ask fun _ _ matched => contactPrompt_eq inside matched)
    fun planned _ => ?_
  cases planned with
  | error name => exact Paired.raise _
  | ok plan =>
      refine Paired.bind (Blind.ask fun _ _ matched => contactPrompt_eq inside matched)
        fun drafted _ => ?_
      cases drafted with
      | raised name => exact Paired.raise _
      | contextualFallbackUnavailable =>
          exact Paired.bind (blind_transitionContactState inside member _) fun _ _ =>
            Paired.pure _ trivial
      | drafted draft => exact blind_sendOrHoldReply inside member owner email plan draft

/-- The campaign of the contact is the same in both databases. -/
theorem blind_continueConversation
    {deployment : Deployment}
    (inside : scope.contacts key = true)
    (member : scope.Member contact)
    {campaign : Option Campaign}
    (owner : ∀ row, campaign = some row → row.organizationId = some scope.organization)
    (email : InboundEmail)
    (intent : SemanticIntent) :
    Blind scope left right deployment.settings
      (continueConversation deployment key contact campaign email intent)
      fun _ => True := by
  refine Paired.bind (blind_transitionContactState inside member _) fun result moved => ?_
  refine Paired.bind (Paired.required campaign) fun row present => ?_
  refine Paired.bind Blind.utcnow fun now _ => ?_
  refine Paired.bind (Paired.ofExcept _) fun next _ => ?_
  refine Paired.bind (blind_assign inside moved _) fun scheduled isMember => ?_
  exact blind_draftAndMaybeSendReply inside isMember (owner row present) email intent

theorem blind_applyIntent
    {deployment : Deployment}
    (inside : scope.contacts key = true)
    (member : scope.Member contact)
    {campaign : Option Campaign}
    (owner : ∀ row, campaign = some row → row.organizationId = some scope.organization)
    (email : InboundEmail)
    (intent : SemanticIntent) :
    Blind scope left right deployment.settings
      (applyIntent deployment key contact campaign email intent) fun _ => True := by
  unfold applyIntent
  split
  · exact Paired.bind (blind_handleUnsubscribe inside member) fun _ _ => Paired.pure _ trivial
  split
  · refine Paired.bind (blind_transitionContactState inside member _) fun result moved => ?_
    exact Paired.bind (blind_assign inside moved _) fun _ _ => Paired.pure _ trivial
  split
  · exact Paired.pure _ trivial
  split
  · refine Paired.bind (blind_advanceIntegrationContact inside member _) fun advanced moved => ?_
    exact Paired.bind (blind_assign inside moved _) fun _ _ => Paired.pure _ trivial
  · exact blind_continueConversation inside member owner email intent

/-- The stored message is named by its handle. -/
theorem blind_recordClassification
    (inside : scope.contacts key = true)
    (member : scope.Member contact)
    (reference : String)
    (classified : ClassificationResult) :
    Blind scope left right settings (recordClassification key contact reference classified)
      scope.Member := by
  unfold recordClassification
  split
  · exact Paired.bind (Blind.stage inside) fun _ _ => blind_assign inside member _
  · exact Paired.bind (Blind.stage inside) fun _ _ => Paired.pure _ member

/-- Each branch on the classification is blind to other organizations. -/
theorem blind_applyClassification
    {deployment : Deployment}
    (inside : scope.contacts key = true)
    (member : scope.Member contact)
    {campaign : Option Campaign}
    (owner : ∀ row, campaign = some row → row.organizationId = some scope.organization)
    (email : InboundEmail)
    (classified : ClassificationResult) :
    Blind scope left right deployment.settings
      (applyClassification deployment key contact campaign email classified)
      fun _ => True := by
  unfold applyClassification
  split
  · refine Paired.bind (blind_transitionContactState inside member _) fun result moved => ?_
    exact Paired.bind (blind_assign inside moved _) fun _ _ => Paired.pure _ trivial
  split
  · exact Paired.bind (blind_transitionContactState inside member _) fun _ _ =>
      Paired.pure _ trivial
  · exact blind_applyIntent inside member owner email _

/-- The messages of the contact are the same in both. -/
theorem blind_maybeSummarizeOlderMessages
    (inside : scope.contacts key = true)
    (member : scope.Member contact)
    (messages : List Message) :
    Blind scope left right settings (maybeSummarizeOlderMessages key contact messages)
      fun _ => True := by
  unfold maybeSummarizeOlderMessages
  dsimp only
  split
  · exact Paired.pure _ trivial
  · refine Paired.bind (Blind.ask fun _ _ matched => contactPrompt_eq inside matched)
      fun summary _ => ?_
    cases summary with
    | summarized text =>
        exact Paired.bind (blind_assign inside member _) fun _ _ => Blind.flush
    | unavailable => exact Paired.pure _ trivial
    | raised name => exact Paired.raise _

theorem blind_classifyAndApplyInbound
    {deployment : Deployment}
    (inside : scope.contacts key = true)
    (member : scope.Member contact)
    {campaign : Option Campaign}
    (owner : ∀ row, campaign = some row → row.organizationId = some scope.organization)
    (email : InboundEmail)
    (reference : String) :
    Blind scope left right deployment.settings
      (classifyAndApplyInbound deployment key contact campaign email reference)
      fun _ => True := by
  refine Paired.bind Blind.utcnow fun repliedAt _ => ?_
  refine Paired.bind (blind_assign inside member _) fun replied isMember => ?_
  refine Paired.bind (Blind.observe fun _ _ matched => matched.conversation inside)
    fun messages _ => ?_
  refine Paired.bind (Blind.ask fun _ _ matched => contactPrompt_eq inside matched)
    fun result _ => ?_
  cases result with
  | error name => exact Paired.raise _
  | ok classified =>
      refine Paired.bind (blind_recordClassification inside isMember reference classified)
        fun recorded stillMember => ?_
      refine Paired.bind (blind_applyClassification inside stillMember owner email classified)
        fun action _ => ?_
      refine Paired.bind Blind.flush fun _ _ => ?_
      exact Paired.bind (blind_maybeSummarizeOlderMessages inside stillMember messages)
        fun _ _ => Paired.pure _ trivial

end Effects
end Native
end MailerAgent
