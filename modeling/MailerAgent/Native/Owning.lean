import MailerAgent.Native.Api
import MailerAgent.Native.Ownership

/-!
# Requests that keep to their organization

`Minds` is the judgement about a program that runs for an organization: in every
interleaving, everything that it writes or leaves for a flush concerns rows of the
organization. What it has found out about owners stays true, since rows stay where they
belong.
-/

namespace MailerAgent
namespace Native

open Concurrent Relational Mail Program

/-- Rows stay where they belong, and each commit leaves the rows of other organizations
alone. -/
def ownership (organization : String) :
    Agreement Database Change Signal Signal.Reply Observed where
  apply := Change.apply
  rely _ _ before after := before.KeepsOwners after
  guarantee before after := ∀ other, other ≠ organization → before.AgreeOn other after
  note observed _ _ _ := observed

/-- No commit of others takes what is owned away. -/
theorem ownership_lawful {organization : String} : (ownership organization).Lawful where
  refl _ _ _ := .refl _
  trans := .trans

/-- Something about owners that a request has found out. -/
structure Finding where
  holds : Database → Prop
  lasts : ∀ {before after}, before.KeepsOwners after → holds before → holds after

namespace Finding

variable (organization : String)

/-- Nothing yet. -/
def nothing : Finding := ⟨fun _ => True, fun _ => id⟩

/-- A campaign of the organization. -/
def campaign (key : Nat) : Finding :=
  ⟨fun database => database.OwnsCampaign organization key, fun keeps => keeps.ownsCampaign⟩

/-- A contact of the organization. -/
def contact (campaignId key : Nat) : Finding :=
  ⟨fun database => database.OwnsContact organization campaignId key,
    fun keeps => keeps.ownsContact⟩

/-- Contacts of a campaign of the organization. -/
def contacts
    (campaignId : Nat)
    (keys : List Nat) : Finding :=
  ⟨fun database => ∀ key ∈ keys, database.OwnsContact organization campaignId key,
    fun keeps owns key member => keeps.ownsContact (owns key member)⟩

/-- A message of the organization. -/
def message (key : Nat) : Finding :=
  ⟨fun database => database.OwnsMessage organization key, fun keeps => keeps.ownsMessage⟩

/-- A mailbox of the organization. -/
def mailbox (key : Nat) : Finding :=
  ⟨fun database => OwnMailbox database key organization, fun keeps => keeps.ownMailbox⟩

end Finding

/-- What is written or waits for a flush is owned by the organization. -/
structure Minding
    (organization : String)
    (finding : Finding)
    (pending : List Change)
    (known : Knowing) : Prop where
  owned : ∀ change ∈ known.writes ++ pending, change.OwnedBy organization known.base
  found : finding.holds known.base

/-- A session in which something was found out, and nothing was changed. -/
structure Blank
    (finding : Finding)
    (pending : List Change)
    (known : Knowing) : Prop where
  pending : pending = []
  writes : known.writes = []
  found : finding.holds known.base

variable {organization : String} {finding : Finding} {Value Result : Type}

/-- A program for an organization, which goes on minding it and returns a value as
ensured. -/
abbrev Minds
    (organization : String)
    (finding : Finding)
    (program : Program Value)
    (ensures : Value → Prop) : Prop :=
  Abides (ownership organization) (Minding organization finding) program
    fun result pending known => Minding organization finding pending known ∧
      ∀ value, result = .ok value → ensures value

namespace Minding

variable {pending : List Change} {known : Knowing} {store : Database}

/-- What others commit keeps what the transaction has found. -/
theorem later
    (minding : Minding organization finding pending known)
    (relied : known.base.KeepsOwners store) :
    Minding organization finding pending { known with base := store } :=
  ⟨fun change member => (minding.owned change member).of_keepsOwners relied,
    finding.lasts relied minding.found⟩

/-- A transaction that is lost takes nothing back that it relied on. -/
theorem abort
    (minding : Minding organization finding pending known)
    (relied : known.base.KeepsOwners store) :
    Minding organization finding pending (known.abort store) :=
  ⟨(minding.later relied).owned, (minding.later relied).found⟩

/-- What waited was written. -/
theorem flushed
    (minding : Minding organization finding pending known)
    (relied : known.base.KeepsOwners store) :
    Minding organization finding [] (known.extend store (unitOfWork pending)) := by
  refine ⟨fun change member => (minding.later relied).owned change ?_,
    (minding.later relied).found⟩
  rw [List.append_nil] at member
  rcases List.mem_append.mp member with old | new
  · exact List.mem_append_left _ old
  · exact List.mem_append_right _ (mem_unitOfWork.mp new)

/-- The transaction ended, and nothing of it was kept. -/
theorem ended
    (minding : Minding organization finding pending known)
    (relied : known.base.KeepsOwners store)
    (aborted : Bool) :
    Minding organization finding pending (known.ended store aborted) := by
  refine ⟨fun change member => ?_, (minding.later relied).found⟩
  exact (minding.later relied).owned change (List.mem_append_right _ member)

/-- The rows seen inside the transaction. -/
theorem view
    (minding : Minding organization finding pending known)
    (relied : known.base.KeepsOwners store)
    {view : Database}
    (seen : applyAll Change.apply store known.writes = some view) :
    finding.holds view :=
  finding.lasts (keepsOwners_applyAll seen) (finding.lasts relied minding.found)

end Minding

/-! ## Rules -/

namespace Minds

variable {program : Program Value} {rest : Value → Program Result}
variable {ensures weaker : Value → Prop} {concludes : Result → Prop}

theorem weaken
    (minds : Minds organization finding program ensures)
    (implies : ∀ value, ensures value → weaker value) :
    Minds organization finding program weaker :=
  Abides.weaken minds fun _ _ _ ends =>
    ⟨ends.1, fun value returned => implies value (ends.2 value returned)⟩

theorem pure
    {value : Value}
    (holds : ensures value) :
    Minds organization finding (pure value : Program Value) ensures :=
  Abides.pure fun _ _ minding => ⟨minding, fun _ returned => Except.ok.inj returned ▸ holds⟩

/-- A value of which nothing is said. -/
theorem done {value : Value} :
    Minds organization finding (Pure.pure value : Program Value) fun _ => True :=
  pure trivial

theorem raise (failure : Failure) :
    Minds organization finding (Program.raise failure : Program Value) ensures :=
  Abides.raise fun _ _ minding => ⟨minding, nofun⟩

theorem ofExcept {result : Except Failure Value} :
    Minds organization finding (Program.ofExcept result) fun _ => True :=
  Abides.ofExcept fun _ _ minding => ⟨minding, fun _ _ => trivial⟩

theorem required {value : Option Value} :
    Minds organization finding (Native.required value) fun present => value = some present := by
  cases value with
  | some present => exact pure rfl
  | none => exact raise _

/-- The rest may rely on what the first part ensures. -/
theorem bind
    (first : Minds organization finding program ensures)
    (second : ∀ value, ensures value → Minds organization finding (rest value) concludes) :
    Minds organization finding (program >>= rest) concludes := by
  refine Abides.bind first (fun value => ?_) fun failure _ _ ends => ⟨ends.1, nofun⟩
  intro pending known ends
  exact second value (ends.2 value rfl) pending known ends.1

theorem attempt (minds : Minds organization finding program ensures) :
    Minds organization finding program.attempt
      fun result => ∀ value, result = .ok value → ensures value := by
  refine Abides.weaken (Abides.attempt minds) ?_
  intro result pending known ends
  cases result with
  | error failure => exact ends.elim
  | ok caught => exact ⟨ends.1, fun _ returned => Except.ok.inj returned ▸ ends.2⟩

/-- Each branch of a condition may use that it was taken. -/
theorem ite
    {condition : Prop}
    [Decidable condition]
    {first second : Program Value}
    (taken : condition → Minds organization finding first ensures)
    (missed : ¬condition → Minds organization finding second ensures) :
    Minds organization finding (if condition then first else second) ensures :=
  Abides.ite taken missed

theorem ask {signal : Signal} :
    Minds organization finding (Program.ask signal) fun _ => True :=
  Abides.ask fun _ _ _ _ minding relied => ⟨minding.later relied, fun _ _ => trivial⟩

/-- A query of rows of which something was found out. -/
theorem query
    {read : Database → Value}
    (reads : ∀ view, finding.holds view → ensures (read view)) :
    Minds organization finding (Program.query read) ensures := by
  refine Abides.query (fun failure pending known store minding relied =>
    ⟨minding.abort relied, nofun⟩) ?_
  intro pending known store view minding relied seen
  refine ⟨minding.later relied, fun value returned => ?_⟩
  exact Except.ok.inj returned ▸ reads view (minding.view relied seen)

theorem look {read : Database → Value} :
    Minds organization finding (Program.query read) fun _ => True :=
  query fun _ _ => trivial

/-- A change that waits for the flush belongs to the organization. -/
theorem stage
    {change : Change}
    (owned : ∀ database, finding.holds database → change.OwnedBy organization database) :
    Minds organization finding (Program.stage change) fun _ => True := by
  intro pending known minding
  refine ⟨⟨fun other member => ?_, minding.found⟩, fun _ _ => trivial⟩
  rw [← List.append_assoc] at member
  rcases List.mem_append.mp member with old | new
  · exact minding.owned other old
  · exact List.mem_singleton.mp new ▸ owned _ minding.found

theorem flush : Minds organization finding Program.flush fun _ => True :=
  Abides.flush (fun _ minding => ⟨minding, fun _ _ => trivial⟩)
    (fun _ _ _ _ minding relied => ⟨minding.abort relied, nofun⟩)
    fun _ _ _ minding relied => ⟨minding.flushed relied, fun _ _ => trivial⟩

theorem commitTransaction : Minds organization finding Program.commitTransaction fun _ => True := by
  refine Abides.commitTransaction
    (fun pending known store minding relied => ⟨minding.ended relied true, nofun⟩) ?_
  intro pending known store result minding relied applied
  have keeps := relied.trans (keepsOwners_applyAll applied)
  refine ⟨fun other different => ?_, fun _ =>
    ⟨⟨minding.ended keeps false, fun _ _ => trivial⟩, ⟨minding.ended keeps true, nofun⟩⟩⟩
  refine agreeOn_applyAll different (fun change member => ?_) applied
  exact (minding.owned change (List.mem_append_left _ member)).of_keepsOwners relied

theorem commit : Minds organization finding Program.commit fun _ => True :=
  bind flush fun _ _ => commitTransaction

/-- After a rollback the transaction begins again with what was found. -/
theorem rollback : Minds organization finding Program.rollback fun _ => True := by
  refine Abides.rollback fun pending known store minding relied => ?_
  exact ⟨⟨fun _ member => (List.not_mem_nil member).elim, (minding.later relied).found⟩,
    fun _ _ => trivial⟩

/-- A loop over items that are minded one by one. -/
theorem forEach
    {items : List Value}
    {body : Value → Program Unit}
    (each : ∀ item ∈ items, Minds organization finding (body item) fun _ => True) :
    Minds organization finding (Program.forEach items body) fun _ => True := by
  induction items with
  | nil => exact done
  | cons item rest inductionHypothesis =>
      refine bind (each item List.mem_cons_self) fun _ _ => inductionHypothesis ?_
      exact fun other member => each other (List.mem_cons_of_mem _ member)

end Minds

/-! ## Finding out -/

/-- A transaction without changes may rely on whatever the store bears out. -/
theorem Blank.finds
    {other : Finding}
    {pending : List Change}
    {known : Knowing}
    (blank : Blank finding pending known)
    (holds : other.holds known.base) :
    Blank other pending known :=
  ⟨blank.pending, blank.writes, holds⟩

theorem Blank.minding
    {pending : List Change}
    {known : Knowing}
    (blank : Blank finding pending known) :
    Minding organization finding pending known := by
  refine ⟨fun change member => ?_, blank.found⟩
  rw [blank.pending, blank.writes] at member
  exact (List.not_mem_nil member).elim

/-- A query of a session without changes reads committed rows. -/
theorem abides_firstQuery {read : Database → Value} :
    Abides (ownership organization) (Blank finding) (query read) fun result pending known =>
      Blank finding pending known ∧ ∀ value, result = .ok value → value = read known.base := by
  refine Abides.query (fun failure pending known store blank relied =>
    ⟨⟨blank.pending, blank.writes, finding.lasts relied blank.found⟩, nofun⟩) ?_
  intro pending known store view blank relied seen
  rw [blank.writes] at seen
  cases seen
  refine ⟨⟨blank.pending, blank.writes, finding.lasts relied blank.found⟩, ?_⟩
  rintro _ ⟨⟩
  rfl

/-- What was found out before anything was changed is minded from then on. -/
theorem Minds.after
    {program : Program Value}
    {rest : Value → Program Result}
    {finds : Value → Finding}
    (first : Abides (ownership organization) (Blank finding) program
      fun result pending known => Blank finding pending known ∧
        ∀ value, result = .ok value → (finds value).holds known.base)
    (second : ∀ value, Minds organization (finds value) (rest value) fun _ => True) :
    Abides (ownership organization) (Blank finding) (program >>= rest) fun _ _ _ => True := by
  refine Abides.bind first (fun value => ?_) fun _ _ _ _ => trivial
  refine Abides.strengthen (Abides.weaken (second value) fun _ _ _ _ => trivial) ?_
  exact fun pending known ends => (ends.1.finds (ends.2 value rfl)).minding

/-- A program that needs to find out nothing. -/
theorem Minds.blank
    {program : Program Value}
    (minds : Minds organization finding program fun _ => True) :
    Abides (ownership organization) (Blank finding) program fun _ _ _ => True :=
  Abides.strengthen (Abides.weaken minds fun _ _ _ _ => trivial) fun _ _ => Blank.minding

/-- A session is closed at its end. -/
theorem abides_session
    {program : Program Value}
    (body : Abides (ownership organization) (Blank finding) program fun _ _ _ => True) :
    Abides (ownership organization) (Blank finding) (session program) fun _ _ _ => True :=
  Abides.session body fun _ _ _ _ _ _ => trivial

/-! ## A contact of the organization -/

section Contacts

variable {campaignId key : Nat} {contact : Contact} {deployment : Deployment}

/-- What concerns a contact that was found to be one of the organization. -/
abbrev Cares
    (organization : String)
    (campaignId key : Nat)
    (program : Program Value)
    (ensures : Value → Prop) : Prop :=
  Minds organization (.contact organization campaignId key) program ensures

/-- An owned contact is written in the name of its organization. -/
theorem minds_assignOwned
    {patch : ContactPatch}
    (owned : ∀ database, finding.holds database →
      database.OwnsContact organization campaignId key) :
    Minds organization finding (assign key contact patch) fun assigned =>
      assigned.campaignId = contact.campaignId := by
  refine Minds.bind Minds.ask fun now _ => ?_
  refine Minds.bind (Minds.stage fun database holds => ?_) fun _ _ => Minds.pure rfl
  exact ⟨campaignId, owned database holds⟩

theorem minds_assign {patch : ContactPatch} :
    Cares organization campaignId key (assign key contact patch) fun assigned =>
      assigned.campaignId = contact.campaignId :=
  minds_assignOwned fun _ => id

theorem minds_transitionContactState {event : StateTransitionEvent} :
    Cares organization campaignId key (transitionContactState key contact event) fun moved =>
      moved.1.campaignId = contact.campaignId := by
  unfold transitionContactState
  split
  · exact Minds.pure rfl
  · exact Minds.bind minds_assign fun assigned same => Minds.pure same

/-- A message of an owned contact is owned. -/
theorem minds_addMessage
    {message : Message}
    (belongs : message.contactId = key) :
    Cares organization campaignId key (addMessage message) fun _ => True := by
  refine Minds.bind Minds.ask fun now _ => Minds.bind Minds.ask fun reference _ => ?_
  refine Minds.stage fun database owns => ⟨campaignId, ?_⟩
  rw [show Message.contactId _ = key from belongs]
  exact owns

theorem minds_sendEmail
    {origin : SendOrigin}
    {arguments : SendEmailArguments} :
    Minds organization finding
      (sendEmail deployment.settings origin key arguments) fun _ => True := by
  refine Minds.bind Minds.ask fun behaviour _ => ?_
  split
  · exact Minds.done
  · exact Minds.raise _

theorem minds_draftMessage {action : DraftAction} :
    Minds organization finding (draftMessage key action) fun _ => True := by
  refine Minds.bind Minds.ask fun reply _ => ?_
  cases reply with
  | drafted draft => exact Minds.done
  | contextualFallbackUnavailable | raised name => exact Minds.raise _

/-- The summary is written on the same contact. -/
theorem minds_maybeSummarizeOlderMessages {messages : List Message} :
    Cares organization campaignId key (maybeSummarizeOlderMessages key contact messages)
      fun _ => True := by
  refine Minds.ite (fun _ => Minds.done) fun _ => Minds.bind Minds.ask fun reply _ => ?_
  cases reply with
  | summarized text => exact Minds.bind minds_assign fun _ _ => Minds.flush
  | unavailable => exact Minds.done
  | raised name => exact Minds.raise _

theorem minds_parkForGroundingReview :
    Cares organization campaignId key (parkForGroundingReview key contact) fun _ => True :=
  Minds.bind minds_transitionContactState fun _ _ => minds_assign.weaken fun _ _ => trivial

theorem minds_escalateUnknown :
    Cares organization campaignId key (escalateUnknown key contact) fun _ => True :=
  Minds.bind minds_transitionContactState fun _ _ => minds_assign.weaken fun _ _ => trivial

/-! ### Follow-ups -/

variable {campaign : Campaign} {result : SendResult}

theorem minds_exhaustSequence {next : Option Instant} :
    Cares organization campaignId key (exhaustSequence key contact next) fun _ => True :=
  Minds.ite (fun _ => Minds.bind minds_transitionContactState fun _ _ => Minds.done)
    fun _ => Minds.done

theorem minds_afterFollowup :
    Cares organization campaignId key (afterFollowup key contact campaign result)
      fun _ => True := by
  refine Minds.ite (fun _ => ?_) fun _ => Minds.ite (fun _ => minds_escalateUnknown)
    fun _ => Minds.done
  refine Minds.bind minds_transitionContactState fun ⟨moved, _⟩ _ => ?_
  refine Minds.bind Minds.ask fun sentAt _ => ?_
  refine Minds.bind minds_assign fun counted _ => ?_
  refine Minds.bind Minds.ask fun now _ => ?_
  refine Minds.bind Minds.ofExcept fun next _ => ?_
  exact Minds.bind minds_exhaustSequence fun ended _ => minds_assign.weaken fun _ _ => trivial

theorem minds_sendFollowupIfDue {origin : Nat → SendOrigin} :
    Cares organization campaignId key (sendFollowupIfDue deployment origin key contact)
      fun _ => True := by
  refine Minds.bind Minds.ask fun _ _ => ?_
  refine Minds.bind Minds.look fun loaded _ => ?_
  refine Minds.ite (fun _ => Minds.done) fun _ => ?_
  refine Minds.bind Minds.ask fun checkedAt _ => ?_
  refine Minds.bind Minds.ofExcept fun due _ => ?_
  refine Minds.ite (fun _ => Minds.done) fun _ => ?_
  refine Minds.bind Minds.ask fun confirmedAt _ => ?_
  refine Minds.bind Minds.ofExcept fun confirmed _ => ?_
  refine Minds.ite (fun _ => Minds.done) fun _ => ?_
  refine Minds.bind Minds.look fun suppressed _ => ?_
  refine Minds.ite (fun _ => ?_) fun _ => ?_
  · refine Minds.bind minds_transitionContactState fun ⟨moved, _⟩ _ => ?_
    exact Minds.bind minds_assign fun _ _ => Minds.bind Minds.flush fun _ _ => Minds.done
  refine Minds.bind Minds.required fun campaign _ => ?_
  refine Minds.bind Minds.ask fun hintedAt _ => ?_
  refine Minds.bind Minds.ofExcept fun _ _ => ?_
  refine Minds.bind Minds.look fun messages _ => ?_
  refine Minds.bind minds_draftMessage fun draft _ => ?_
  refine Minds.ite (fun _ => ?_) fun _ => ?_
  · refine Minds.bind (minds_addMessage rfl) fun _ _ => ?_
    exact Minds.bind minds_parkForGroundingReview fun _ _ =>
      Minds.bind Minds.flush fun _ _ => Minds.done
  refine Minds.bind minds_sendEmail fun result _ => ?_
  refine Minds.bind (minds_addMessage rfl) fun _ _ => ?_
  refine Minds.bind minds_afterFollowup fun current _ => ?_
  refine Minds.bind Minds.flush fun _ _ => ?_
  exact Minds.bind minds_maybeSummarizeOlderMessages fun _ _ => Minds.done

/-! ### Replies -/

variable {loaded : Option Campaign} {email : InboundEmail} {intent : SemanticIntent}
variable {classified : ClassificationResult}

/-- The address of the contact is suppressed for the organization that owns it. -/
theorem minds_handleUnsubscribe (belongs : contact.campaignId = campaignId) :
    Cares organization campaignId key (handleUnsubscribe key contact) fun _ => True := by
  have owner : Cares organization campaignId key
      (query fun view => view.organizationOf contact) fun owner => owner = some organization := by
    refine Minds.query fun view owns => ?_
    obtain ⟨⟨campaign, found, owned⟩, -⟩ := owns
    simp [Database.organizationOf, Database.campaignOf, belongs, found, owned]
  refine Minds.bind owner fun owner same => ?_
  refine Minds.bind Minds.look fun existing _ => ?_
  have leaves : Cares organization campaignId key (leaveCadence key contact) fun _ => True :=
    Minds.bind minds_transitionContactState fun _ _ => minds_assign.weaken fun _ _ => trivial
  refine Minds.ite (fun _ => ?_) fun _ => leaves
  exact Minds.bind (Minds.stage fun _ _ => same) fun _ _ => leaves

theorem minds_promoteIfSent :
    Cares organization campaignId key (promoteIfSent key contact) fun _ => True := by
  refine Minds.ite (fun _ => ?_) fun _ => Minds.done
  refine Minds.bind Minds.look fun sent _ => ?_
  refine Minds.ite (fun _ => ?_) fun _ => Minds.done
  exact Minds.bind minds_transitionContactState fun _ _ => Minds.done

theorem minds_advanceIntegrationContact {event : StateTransitionEvent} :
    Cares organization campaignId key (advanceIntegrationContact key contact event)
      fun _ => True := by
  refine Minds.bind minds_promoteIfSent fun promoted _ => ?_
  refine Minds.bind minds_transitionContactState fun ⟨moved, success⟩ _ => ?_
  refine Minds.ite (fun _ => Minds.done) fun _ => ?_
  refine Minds.bind minds_transitionContactState fun ⟨replied, again⟩ _ => ?_
  refine Minds.ite (fun _ => ?_) fun _ => Minds.done
  exact Minds.bind minds_transitionContactState fun _ _ => Minds.done

theorem minds_afterAutomaticReply :
    Cares organization campaignId key (afterAutomaticReply key contact result)
      fun _ => True := by
  refine Minds.ite (fun _ => ?_) fun _ => Minds.ite (fun _ => minds_escalateUnknown)
    fun _ => Minds.done
  exact Minds.bind Minds.ask fun sentAt _ => minds_assign.weaken fun _ _ => trivial

theorem minds_sendOrHoldReply
    {plan : ReplyPlan}
    {draft : Draft} :
    Cares organization campaignId key
      (sendOrHoldReply deployment key contact campaign email plan draft) fun _ => True := by
  refine Minds.bind Minds.look fun suppressed _ => ?_
  refine Minds.ite (fun _ => ?_) fun _ => ?_
  · refine Minds.bind minds_sendEmail fun result _ => ?_
    refine Minds.bind minds_afterAutomaticReply fun _ _ => ?_
    exact Minds.bind (minds_addMessage rfl) fun _ _ => Minds.done
  · exact Minds.bind (minds_addMessage rfl) fun _ _ => Minds.done

theorem minds_draftAndMaybeSendReply :
    Cares organization campaignId key
      (draftAndMaybeSendReply deployment key contact campaign email intent)
      fun _ => True := by
  refine Minds.bind Minds.ask fun _ _ => Minds.bind Minds.ask fun planned _ => ?_
  cases planned with
  | error name => exact Minds.raise _
  | ok plan =>
      refine Minds.bind Minds.ask fun reply _ => ?_
      cases reply with
      | raised name => exact Minds.raise _
      | contextualFallbackUnavailable =>
          exact Minds.bind minds_transitionContactState fun _ _ => Minds.done
      | drafted draft => exact minds_sendOrHoldReply

theorem minds_continueConversation :
    Cares organization campaignId key
      (continueConversation deployment key contact loaded email intent) fun _ => True := by
  refine Minds.bind minds_transitionContactState fun ⟨moved, _⟩ _ => ?_
  refine Minds.bind Minds.required fun campaign _ => ?_
  refine Minds.bind Minds.ask fun now _ => ?_
  refine Minds.bind Minds.ofExcept fun next _ => ?_
  exact Minds.bind minds_assign fun scheduled _ => minds_draftAndMaybeSendReply

theorem minds_applyIntent (belongs : contact.campaignId = campaignId) :
    Cares organization campaignId key
      (applyIntent deployment key contact loaded email intent) fun _ => True := by
  refine Minds.ite (fun _ => ?_) fun _ => ?_
  · exact Minds.bind (minds_handleUnsubscribe belongs) fun _ _ => Minds.done
  refine Minds.ite (fun _ => ?_) fun _ => ?_
  · refine Minds.bind minds_transitionContactState fun ⟨moved, _⟩ _ => ?_
    exact Minds.bind minds_assign fun _ _ => Minds.done
  refine Minds.ite (fun _ => Minds.done) fun _ => ?_
  refine Minds.ite (fun _ => ?_) fun _ => minds_continueConversation
  refine Minds.bind minds_advanceIntegrationContact fun advanced _ => ?_
  exact Minds.bind minds_assign fun _ _ => Minds.done

theorem minds_applyClassification (belongs : contact.campaignId = campaignId) :
    Cares organization campaignId key
      (applyClassification deployment key contact loaded email classified) fun _ => True := by
  refine Minds.ite (fun _ => ?_) fun _ => ?_
  · refine Minds.bind minds_transitionContactState fun ⟨moved, _⟩ _ => ?_
    exact Minds.bind minds_assign fun _ _ => Minds.done
  split
  · exact Minds.bind minds_transitionContactState fun _ _ => Minds.done
  · exact minds_applyIntent belongs

theorem minds_recordClassification {reference : String} :
    Cares organization campaignId key (recordClassification key contact reference classified)
      fun recorded => recorded.campaignId = contact.campaignId := by
  unfold recordClassification
  split
  · exact Minds.bind (Minds.stage fun _ owns => ⟨campaignId, owns⟩) fun _ _ => minds_assign
  · exact Minds.bind (Minds.stage fun _ owns => ⟨campaignId, owns⟩) fun _ _ => Minds.pure rfl

theorem minds_classifyAndApplyInbound
    {reference : String}
    (belongs : contact.campaignId = campaignId) :
    Cares organization campaignId key
      (classifyAndApplyInbound deployment key contact loaded email reference)
      fun _ => True := by
  refine Minds.bind Minds.ask fun repliedAt _ => ?_
  refine Minds.bind minds_assign fun replied same => ?_
  refine Minds.bind Minds.look fun messages _ => ?_
  refine Minds.bind Minds.ask fun answer _ => ?_
  cases answer with
  | error name => exact Minds.raise _
  | ok classified =>
      refine Minds.bind minds_recordClassification fun recorded kept => ?_
      have stays := kept.trans (same.trans belongs)
      refine Minds.bind (minds_applyClassification stays) fun action _ => ?_
      refine Minds.bind Minds.flush fun _ _ => ?_
      exact Minds.bind minds_maybeSummarizeOlderMessages fun _ _ => Minds.done

/-- The contact under a key, as an object of the session. -/
theorem minds_loadContact :
    Cares organization campaignId key (loadContact key) fun loaded =>
      ∀ contact, loaded = some contact → contact.campaignId = campaignId := by
  intro pending
  refine Minds.query (fun view owns => ?_) pending
  obtain ⟨-, stored, found, belongs⟩ := owns
  intro contact present
  rw [found, Option.map_some] at present
  obtain rfl := Option.some.inj present
  exact (inSession_samePerson key stored).1.trans belongs

theorem minds_receiveCorrelated {scope : Option String} :
    Cares organization campaignId key (receiveCorrelated deployment scope email key)
      fun _ => True := by
  refine Minds.bind minds_loadContact fun loaded belongs => ?_
  refine Minds.bind Minds.required fun contact present => ?_
  refine Minds.bind Minds.look fun campaign _ => ?_
  refine Minds.bind Minds.ask fun reference _ => ?_
  refine Minds.bind Minds.ask fun createdAt _ => ?_
  refine Minds.bind (Minds.stage fun _ owns => ⟨campaignId, owns⟩) fun _ _ => ?_
  refine Minds.bind Minds.flush.attempt fun flushed _ => ?_
  cases flushed with
  | ok _ =>
      exact Minds.bind (minds_classifyAndApplyInbound (belongs contact present))
        fun _ _ => Minds.done
  | error failure =>
      cases failure with
      | integrity =>
          refine Minds.bind Minds.rollback fun _ _ => ?_
          exact Minds.bind Minds.look fun _ _ => Minds.done
      | database | http status detail | raised name => exact Minds.raise _

end Contacts

/-! ## Requests -/

/-- The organization whose key the caller of a route presented; the jobs of the service have
none. -/
def Operation.tenant : Operation → Option String
  | createCampaign organization _ | addContacts organization _ _
  | ingestLeads organization _ _ | startCampaign organization _
  | pauseContact organization _ | resumeContact organization _ | markWon organization _
  | forceFollowup organization _ | approveAndSendDraft organization _
  | suppressEmail organization _ _ | receiveInboundEmail organization _
  | createMailbox organization _ | updateMailbox organization _ _ => some organization
  | _ => none

section Requests

variable {deployment : Deployment} {services : Services} {email : InboundEmail}

/-- A row that a first query found, or its absence, which is an error. -/
theorem abides_found
    {read : Database → Option Value}
    {continuation : Option Value → Program Value}
    {failure : Failure}
    (finds : Value → Finding)
    (present : ∀ value, continuation (some value) = pure value)
    (absent : continuation none = raise failure)
    (holds : ∀ database value, read database = some value → (finds value).holds database) :
    Abides (ownership organization) (Blank finding) (query read >>= continuation)
      fun result pending known => Blank finding pending known ∧
        ∀ value, result = .ok value → (finds value).holds known.base := by
  refine Abides.bind abides_firstQuery (fun found => ?_) fun _ _ _ ends => ⟨ends.1, nofun⟩
  cases found with
  | none =>
      rw [absent]
      exact Abides.raise fun _ _ ends => ⟨ends.1, nofun⟩
  | some value =>
      rw [present]
      refine Abides.pure fun pending known ends => ⟨ends.1, ?_⟩
      rintro _ ⟨⟩
      exact holds known.base value (ends.2 _ rfl).symm

theorem abides_getCampaignOr404 {campaignId : Nat} :
    Abides (ownership organization) (Blank finding) (getCampaignOr404 organization campaignId)
      fun result pending known => Blank finding pending known ∧
        ∀ campaign, result = .ok campaign →
          (Finding.campaign organization campaignId).holds known.base := by
  refine abides_found (fun _ => .campaign organization campaignId) (fun _ => rfl) rfl ?_
  intro database campaign found
  obtain ⟨present, owner⟩ := Option.filter_eq_some_iff.mp found
  exact ⟨campaign, present, beq_iff_eq.mp owner⟩

theorem abides_getContactOr404 {contactId : Nat} :
    Abides (ownership organization) (Blank finding) (getContactOr404 organization contactId)
      fun result pending known => Blank finding pending known ∧
        ∀ contact : Contact, result = .ok contact →
          (Finding.contact organization contact.campaignId contactId).holds known.base := by
  refine abides_found (fun contact : Contact =>
    .contact organization contact.campaignId contactId) (fun _ => rfl) rfl ?_
  intro database contact found
  obtain ⟨present, owner⟩ := Option.filter_eq_some_iff.mp found
  exact Database.ownsContact_of_owns present (beq_iff_eq.mp owner)

theorem abides_getMessageOr404 {messageId : Nat} :
    Abides (ownership organization) (Blank finding) (getMessageOr404 organization messageId)
      fun result pending known => Blank finding pending known ∧
        ∀ row, result = .ok row →
          (Finding.message organization messageId).holds known.base := by
  refine abides_found (fun _ => .message organization messageId) (fun _ => rfl) rfl ?_
  intro database row found
  obtain ⟨message, stored, joined⟩ := Option.bind_eq_some_iff.mp found
  obtain ⟨contact, present, rfl⟩ := Option.map_eq_some_iff.mp joined
  obtain ⟨here, owner⟩ := Option.filter_eq_some_iff.mp present
  exact ⟨message, contact.campaignId, stored,
    Database.ownsContact_of_owns here (beq_iff_eq.mp owner)⟩

/-! ### Campaigns and contacts -/

theorem abides_createCampaign {payload : CampaignCreate} :
    Abides (ownership organization) (Blank finding) (createCampaign organization payload)
      fun _ _ _ => True :=
  abides_session (Minds.blank (Minds.bind (Minds.stage fun _ _ => rfl) fun _ _ =>
    Minds.commit))

theorem minds_addContact
    {campaignId : Nat}
    {payload : ContactCreate} :
    Minds organization (.campaign organization campaignId) (addContact campaignId payload)
      fun _ => True := by
  refine Minds.bind Minds.look fun suppressed _ => ?_
  refine Minds.ite (fun _ => Minds.done) fun _ => ?_
  refine Minds.bind Minds.look fun existing _ => ?_
  refine Minds.ite (fun _ => Minds.done) fun _ => ?_
  exact Minds.stage fun _ owns => owns

theorem abides_validateContacts {submitted : List ContactCreate} :
    Abides (ownership organization) (Blank finding) (validateContacts services submitted)
      fun _ => Blank finding := by
  induction submitted with
  | nil => exact Abides.pure fun _ _ => id
  | cons payload rest inductionHypothesis =>
      have address : Abides (ownership organization) (Blank finding)
          (validated services payload.email) fun _ => Blank finding := by
        unfold validated
        split
        · exact Abides.pure fun _ _ => id
        · exact Abides.raise fun _ _ => id
      refine Abides.bind address (fun email => ?_) fun _ _ _ => id
      refine Abides.bind inductionHypothesis (fun others => ?_) fun _ _ _ => id
      exact Abides.pure fun _ _ => id

theorem abides_addContacts
    {campaignId : Nat}
    {submitted : List ContactCreate} :
    Abides (ownership organization) (Blank finding)
      (addContacts deployment organization campaignId submitted) fun _ _ _ => True := by
  refine abides_session (Abides.bind abides_validateContacts (fun contacts => ?_)
    fun _ _ _ _ => trivial)
  refine Minds.after abides_getCampaignOr404 fun campaign => ?_
  refine Minds.bind (Minds.forEach fun payload _ => minds_addContact) fun _ _ => ?_
  refine Minds.bind Minds.flush.attempt fun flushed _ => ?_
  cases flushed with
  | ok _ => exact Minds.commit
  | error failure =>
      cases failure with
      | integrity => exact Minds.bind Minds.rollback fun _ _ => Minds.raise _
      | database | http status detail | raised name => exact Minds.raise _

theorem minds_ingestLead
    {campaignId : Nat}
    {lead : List (String × LeadValue)}
    {report : IngestReport} :
    Minds organization (.campaign organization campaignId)
      (ingestLead services campaignId lead report) fun _ => True := by
  unfold ingestLead
  split
  · exact Minds.done
  · refine Minds.bind Minds.look fun suppressed _ => ?_
    refine Minds.ite (fun _ => Minds.done) fun _ => ?_
    refine Minds.bind Minds.look fun existing _ => ?_
    cases existing with
    | some key => exact Minds.done
    | none =>
        refine Minds.bind (Minds.stage fun _ owns => owns) fun _ _ => ?_
        refine Minds.bind Minds.flush.attempt fun flushed _ => ?_
        cases flushed with
        | ok _ => exact Minds.done
        | error failure =>
            cases failure with
            | integrity => exact Minds.bind Minds.rollback fun _ _ => Minds.done
            | database | http status detail | raised name => exact Minds.raise _

theorem minds_ingestEach
    {campaignId : Nat}
    {leads : List (List (String × LeadValue))}
    {report : IngestReport} :
    Minds organization (.campaign organization campaignId)
      (ingestEach services campaignId leads report) fun _ => True := by
  induction leads generalizing report with
  | nil => exact Minds.done
  | cons lead rest inductionHypothesis =>
      exact Minds.bind minds_ingestLead fun next _ => inductionHypothesis

theorem abides_ingestLeads
    {campaignId : Nat}
    {leads : List (List (String × LeadValue))} :
    Abides (ownership organization) (Blank finding)
      (ingestLeads deployment organization campaignId leads) fun _ _ _ => True := by
  refine abides_session (Minds.after abides_getCampaignOr404 fun campaign => ?_)
  refine Minds.bind minds_ingestEach fun report _ => ?_
  exact Minds.bind Minds.commit fun _ _ => Minds.done

theorem abides_startCampaign {campaignId : Nat} :
    Abides (ownership organization) (Blank finding) (startCampaign organization campaignId)
      fun _ _ _ => True := by
  refine abides_session (Abides.bind abides_getCampaignOr404 (fun campaign => ?_)
    fun _ _ _ _ => trivial)
  refine Abides.strengthen ?_ fun pending known ends => ends.1.finds (ends.2 campaign rfl)
  refine Abides.ite (fun _ => Abides.raise fun _ _ _ => trivial) fun _ => ?_
  -- The new contacts of the campaign are those of its organization.
  refine @Minds.after organization (.campaign organization campaignId) _ _ _ _
    (fun contacts => .contacts organization campaignId (contacts.map Prod.fst))
    (Abides.weaken abides_firstQuery ?_) fun contacts => ?_
  · rintro result pending known ⟨blank, reads⟩
    refine ⟨blank, fun contacts returned key member => ?_⟩
    obtain ⟨entry, listed, rfl⟩ := List.mem_map.mp member
    rw [reads contacts returned] at listed
    obtain ⟨key, inside, joined⟩ := List.mem_filterMap.mp listed
    obtain ⟨contact, found, rfl⟩ := Option.map_eq_some_iff.mp joined
    obtain ⟨row, foundRow, holds⟩ := (Table.mem_keysWhere _ _ _).mp inside
    rw [Bool.and_eq_true, beq_iff_eq] at holds
    exact ⟨blank.found, row, foundRow, holds.1⟩
  · refine Minds.ite (fun _ => Minds.done) fun _ => ?_
    refine Minds.bind Minds.ask fun now _ => ?_
    refine Minds.bind (Minds.forEach ?_) fun _ _ => Minds.commit
    rintro ⟨key, contact⟩ member
    have owned : ∀ database, (Finding.contacts organization campaignId
        (contacts.map Prod.fst)).holds database →
        database.OwnsContact organization campaignId key :=
      fun database owns => owns key (List.mem_map_of_mem member)
    exact Minds.bind (minds_assignOwned owned) fun _ _ => Minds.done

theorem abides_moveContact
    {contactId : Nat}
    {event : StateTransitionEvent}
    {verb advice : String}
    {patch : ContactPatch} :
    Abides (ownership organization) (Blank finding)
      (moveContact organization contactId event verb advice patch) fun _ _ _ => True := by
  refine abides_session (Minds.after abides_getContactOr404 fun contact => ?_)
  refine Minds.bind minds_transitionContactState fun ⟨moved, success⟩ _ => ?_
  refine Minds.ite (fun _ => Minds.raise _) fun _ => ?_
  exact Minds.bind minds_assign fun _ _ => Minds.commit

theorem abides_forceFollowup {contactId : Nat} :
    Abides (ownership organization) (Blank finding)
      (forceFollowup deployment organization contactId) fun _ _ _ => True := by
  refine abides_session (Minds.after abides_getContactOr404 fun contact => ?_)
  refine Minds.bind Minds.look fun campaign _ => ?_
  refine Minds.ite (fun _ => Minds.raise _) fun _ => ?_
  refine Minds.bind Minds.ask fun now _ => ?_
  refine Minds.bind Minds.ofExcept fun allowed _ => ?_
  refine Minds.ite (fun _ => Minds.raise _) fun _ => ?_
  refine Minds.bind Minds.ask fun dueAt _ => ?_
  refine Minds.bind minds_assign fun _ _ => Minds.bind Minds.commit fun _ _ => ?_
  refine Minds.bind minds_loadContact fun loaded _ => ?_
  refine Minds.bind Minds.required fun current _ => ?_
  refine Minds.bind minds_sendFollowupIfDue fun action _ => ?_
  exact Minds.bind Minds.commit fun _ _ => Minds.done

/-! ### Messages and suppression -/

theorem minds_checkApprovable
    {campaign : Option Campaign}
    {messageId : Nat}
    {message : Message} :
    Minds organization finding (checkApprovable campaign messageId message) fun _ => True := by
  refine Minds.ite (fun _ => Minds.raise _) fun _ => ?_
  refine Minds.bind Minds.look fun owned _ => ?_
  refine Minds.ite (fun _ => Minds.raise _) fun _ => ?_
  exact Minds.ite (fun _ => Minds.raise _) fun _ => Minds.done

theorem minds_checkSendable
    {contact : Contact}
    {campaign : Campaign}
    {message : Message}
    {transcript : String} :
    Minds organization finding (checkSendable deployment contact campaign message transcript)
      fun _ => True :=
  Minds.ite (fun _ => Minds.raise _) fun _ =>
    Minds.ite (fun _ => Minds.raise _) fun _ => Minds.done

/-- An approved message is sent for the contact that it belongs to. -/
theorem minds_approveMessage
    {messageId : Nat}
    {message : Message}
    {contact : Contact} :
    Minds organization (.message organization messageId)
      (approveMessage deployment messageId message contact) fun _ => True := by
  refine Minds.bind Minds.look fun loaded _ => ?_
  refine Minds.bind minds_checkApprovable fun _ _ => ?_
  refine Minds.bind Minds.look fun suppressed _ => ?_
  refine Minds.ite (fun _ => Minds.raise _) fun _ => ?_
  refine Minds.bind Minds.required fun campaign _ => ?_
  refine Minds.bind Minds.look fun ⟨messages, transcript⟩ _ => ?_
  refine Minds.bind minds_checkSendable fun _ _ => ?_
  refine Minds.bind minds_sendEmail fun result _ => ?_
  exact Minds.bind (Minds.stage fun _ owns => owns) fun _ _ => Minds.commit

theorem abides_approveAndSendDraft {messageId : Nat} :
    Abides (ownership organization) (Blank finding)
      (approveAndSendDraft deployment organization messageId) fun _ _ _ => True := by
  have begins : Abides (ownership organization) (Blank finding) begin fun _ => Blank finding :=
    Abides.ask fun pending known store reply blank relied =>
      ⟨blank.pending, blank.writes, finding.lasts relied blank.found⟩
  refine abides_session (Abides.bind begins (fun _ => ?_) fun _ _ _ _ => trivial)
  exact Minds.after abides_getMessageOr404 fun ⟨message, contact⟩ => minds_approveMessage

/-- The entry carries the organization of the request. -/
theorem abides_suppressEmail
    {submitted : String}
    {reason : Option String} :
    Abides (ownership organization) (Blank finding)
      (suppressEmail deployment organization submitted reason) fun _ _ _ => True := by
  refine abides_session (Minds.blank ?_)
  have address : Minds organization finding (validated deployment.services submitted)
      fun _ => True := by
    unfold validated
    split
    · exact Minds.done
    · exact Minds.raise _
  refine Minds.bind address fun email _ => Minds.bind Minds.look fun existing _ => ?_
  refine Minds.ite (fun _ => Minds.done) fun _ => ?_
  exact Minds.bind (Minds.stage fun _ _ => rfl) fun _ _ => Minds.commit

/-! ### Mailboxes -/

theorem minds_encrypted {secret : Option String} :
    Minds organization finding (encrypted services secret) fun _ => True := by
  unfold encrypted
  split
  · exact Minds.done
  · split
    · exact Minds.done
    · exact Minds.raise _

/-- The new mailbox carries the organization of the request. -/
theorem abides_createMailbox {payload : MailboxCreate} :
    Abides (ownership organization) (Blank finding)
      (createMailbox deployment organization payload) fun _ _ _ => True := by
  refine abides_session (Minds.blank ?_)
  refine Minds.bind minds_encrypted fun smtpPassword _ => ?_
  refine Minds.bind minds_encrypted fun imapPassword _ => ?_
  refine Minds.bind Minds.look fun taken _ => ?_
  refine Minds.ite (fun _ => Minds.raise _) fun _ => ?_
  refine Minds.bind Minds.ask fun reference _ => ?_
  refine Minds.bind Minds.ask fun now _ => ?_
  refine Minds.bind (Minds.stage fun _ _ => rfl) fun _ _ => ?_
  refine Minds.bind Minds.commit.attempt fun committed _ => ?_
  cases committed with
  | ok _ => exact Minds.done
  | error failure =>
      cases failure with
      | integrity => exact Minds.bind Minds.rollback fun _ _ => Minds.raise _
      | database | http status detail | raised name => exact Minds.raise _

theorem minds_updateLoadedMailbox
    {payload : MailboxUpdate}
    {key : Nat}
    {mailbox : Mailbox} :
    Minds organization (.mailbox organization key)
      (updateLoadedMailbox deployment payload key mailbox) fun _ => True := by
  refine Minds.ite (fun _ => Minds.raise _) fun _ => ?_
  refine Minds.bind minds_encrypted fun smtpPassword _ => ?_
  refine Minds.bind minds_encrypted fun imapPassword _ => ?_
  refine Minds.bind Minds.ask fun now _ => ?_
  exact Minds.bind (Minds.stage fun _ owns => owns) fun _ _ => Minds.commit

theorem ownMailbox_of_ownedMailbox
    {database : Database}
    {publicReference : String}
    {key : Nat}
    {mailbox : Mailbox}
    (found : ownedMailbox organization publicReference database = some (key, mailbox)) :
    OwnMailbox database key organization := by
  obtain ⟨position, first, joined⟩ := Option.bind_eq_some_iff.mp found
  obtain ⟨row, stored, equal⟩ := Option.map_eq_some_iff.mp joined
  obtain ⟨rfl, rfl⟩ := Prod.mk.inj equal
  obtain ⟨same, foundSame, holds⟩ := Table.firstWhere_eq_some first
  obtain rfl : same = row := Option.some.inj (foundSame.symm.trans stored)
  rw [Bool.and_eq_true, beq_iff_eq, beq_iff_eq] at holds
  exact ⟨same, stored, holds.2⟩

/-- A mailbox is changed only after it was found under the organization. -/
theorem abides_updateMailbox
    {publicReference : String}
    {payload : MailboxUpdate} :
    Abides (ownership organization) (Blank finding)
      (updateMailbox deployment organization publicReference payload) fun _ _ _ => True := by
  refine abides_session (Abides.bind abides_firstQuery (fun found => ?_)
    fun _ _ _ _ => trivial)
  cases found with
  | none => exact Abides.raise fun _ _ _ => trivial
  | some row =>
      obtain ⟨key, mailbox⟩ := row
      refine Abides.strengthen minds_updateLoadedMailbox.blank ?_
      intro pending known ends
      exact ends.1.finds (ownMailbox_of_ownedMailbox (ends.2 _ rfl).symm)

/-! ### Inbound messages -/

theorem ownsContact_of_scope
    {database other : Database}
    {key : Nat}
    (inside : (database.scope other organization).contacts key = true) :
    ∃ campaignId, database.OwnsContact organization campaignId key := by
  obtain ⟨contact, found, owner⟩ := (Option.any_eq_true _ _).mp inside
  exact ⟨contact.campaignId, Database.ownsContact_of_owns found (beq_iff_eq.mp owner)⟩

/-- A contact that was correlated to a message is one of the organization. -/
def Correlated
    (organization : String)
    (found : Option Nat)
    (database : Database) : Prop :=
  ∀ key, found = some key → ∃ campaignId, database.OwnsContact organization campaignId key

theorem abides_correlated
    {read : Database → Option Nat}
    (inside : ∀ database key, read database = some key →
      (database.scope database organization).contacts key = true) :
    Abides (ownership organization) (Blank finding) (query read) fun result pending known =>
      Blank finding pending known ∧
        ∀ found, result = .ok found → Correlated organization found known.base := by
  refine Abides.weaken abides_firstQuery fun result pending known ends => ⟨ends.1, ?_⟩
  rintro found returned key rfl
  exact ownsContact_of_scope (inside known.base key (ends.2 _ returned).symm)

/-- A contact that is found for the organization is one of its own. -/
theorem abides_correlate :
    Abides (ownership organization) (Blank finding) (correlate (some organization) email)
      fun result pending known => Blank finding pending known ∧
        ∀ found, result = .ok found → Correlated organization found known.base := by
  have byEmail : Abides (ownership organization) (Blank finding)
      (query (findContactByEmail (some organization) email)) fun result pending known =>
        Blank finding pending known ∧
          ∀ found, result = .ok found → Correlated organization found known.base :=
    abides_correlated fun database =>
      ((Database.AgreeOn.refl organization database).findContactByEmail email).2
  have byThread : Abides (ownership organization) (Blank finding)
      (query (findContactByMessageId (some organization) email)) fun result pending known =>
        Blank finding pending known ∧
          ∀ found, result = .ok found → Correlated organization found known.base :=
    abides_correlated fun database =>
      ((Database.AgreeOn.refl organization database).findContactByMessageId email).2
  have absent : Abides (ownership organization) (Blank finding)
      (pure none : Program (Option Nat)) fun result pending known =>
        Blank finding pending known ∧
          ∀ found, result = .ok found → Correlated organization found known.base := by
    refine Abides.pure fun pending known blank => ⟨blank, ?_⟩
    rintro _ ⟨⟩ key ⟨⟩
  have falls : ∀ thread, Abides (ownership organization)
      (fun pending known => Blank finding pending known ∧
        ∀ found, (Except.ok thread : Except Failure _) = .ok found →
          Correlated organization found known.base)
      (if Option.isSome thread || !(threadReferences email).isEmpty then pure thread
        else query (findContactByEmail (some organization) email)) fun result pending known =>
        Blank finding pending known ∧
          ∀ found, result = .ok found → Correlated organization found known.base :=
    fun thread => Abides.ite (fun _ => Abides.pure fun _ _ => id) fun _ =>
      Abides.strengthen byEmail fun _ _ ends => ends.1
  refine Abides.ite (fun _ => ?_) fun _ => ?_
  · exact Abides.bind absent falls fun _ _ _ ends => ⟨ends.1, by rintro _ ⟨⟩⟩
  · exact Abides.bind byThread falls fun _ _ _ ends => ⟨ends.1, by rintro _ ⟨⟩⟩

/-- The webhook stores a message for a contact of its organization. -/
theorem abides_processInboundEmailV2 :
    Abides (ownership organization) (Blank finding)
      (processInboundEmailV2 deployment email (some organization)) fun _ pending known =>
        ∃ finding, Minding organization finding pending known := by
  have handles : ∀ existing : Option (Nat × Message),
      Abides (ownership organization) (Blank finding)
        (receiveUnlessDuplicate deployment (some organization) email.normalized existing)
        fun _ pending known => ∃ finding, Minding organization finding pending known := by
    intro existing
    cases existing with
    | some row => exact Abides.pure fun _ _ blank => ⟨_, blank.minding⟩
    | none =>
        refine Abides.bind abides_correlate (fun found => ?_)
          fun _ _ _ ends => ⟨_, ends.1.minding⟩
        cases found with
        | none => exact Abides.pure fun _ _ ends => ⟨_, ends.1.minding⟩
        | some key =>
            intro pending known ends
            obtain ⟨campaignId, owns⟩ := ends.2 (some key) rfl key rfl
            have receives : Abides (ownership organization)
                (Minding organization (.contact organization campaignId key))
                (receiveCorrelated deployment (some organization) email.normalized key)
                fun _ pending known => ∃ finding, Minding organization finding pending known :=
              Abides.weaken minds_receiveCorrelated fun _ _ _ later => ⟨_, later.1⟩
            exact receives pending known (ends.1.finds owns).minding
  refine Abides.ite (fun _ => ?_) fun _ => ?_
  · refine Abides.bind abides_firstQuery (fun existing => ?_)
      fun _ _ _ ends => ⟨_, ends.1.minding⟩
    exact Abides.strengthen (handles existing) fun _ _ ends => ends.1
  · have absent : Abides (ownership organization) (Blank finding)
        (pure none : Program (Option (Nat × Message))) fun _ => Blank finding :=
      Abides.pure fun _ _ => id
    exact Abides.bind absent (fun existing => handles existing)
      fun _ _ _ blank => ⟨_, blank.minding⟩

/-- The route of the webhook, with the organization of its key. -/
theorem abides_receiveInboundEmail {payload : InboundEmail} :
    Abides (ownership organization) (Blank finding)
      (receiveInboundEmail deployment organization payload) fun _ _ _ => True := by
  refine abides_session (Abides.bind abides_processInboundEmailV2 (fun result => ?_)
    fun _ _ _ _ => trivial)
  rintro pending known ⟨found, minding⟩
  have commits : Minds organization found (do commit; pure result) fun _ => True :=
    Minds.bind Minds.commit fun _ _ => Minds.done
  exact Abides.weaken commits (fun _ _ _ _ => trivial) pending known minding

/-- Every request keeps to the organization whose key was presented. -/
theorem abides_request
    {operation : Operation}
    (tenant : operation.tenant = some organization) :
    Abides (ownership organization) (Blank .nothing) (operation.program deployment)
      fun _ _ _ => True := by
  have silent : ∀ {Value : Type} {program : Program Value},
      Abides (ownership organization) (Blank .nothing) program (fun _ _ _ => True) →
      Abides (ownership organization) (Blank .nothing) (do let _ ← program)
        fun _ _ _ => True :=
    fun abides => Abides.bind abides (fun _ => Abides.pure fun _ _ => id) fun _ _ _ => id
  cases operation with
  | createCampaign owner payload =>
      obtain rfl := Option.some.inj tenant
      exact abides_createCampaign
  | addContacts owner campaignId contacts =>
      obtain rfl := Option.some.inj tenant
      exact abides_addContacts
  | ingestLeads owner campaignId leads =>
      obtain rfl := Option.some.inj tenant
      exact silent abides_ingestLeads
  | startCampaign owner campaignId =>
      obtain rfl := Option.some.inj tenant
      exact abides_startCampaign
  | pauseContact owner contactId | resumeContact owner contactId | markWon owner contactId =>
      obtain rfl := Option.some.inj tenant
      exact abides_moveContact
  | forceFollowup owner contactId =>
      obtain rfl := Option.some.inj tenant
      exact silent abides_forceFollowup
  | approveAndSendDraft owner messageId =>
      obtain rfl := Option.some.inj tenant
      exact abides_approveAndSendDraft
  | suppressEmail owner submitted reason =>
      obtain rfl := Option.some.inj tenant
      exact abides_suppressEmail
  | receiveInboundEmail owner payload =>
      obtain rfl := Option.some.inj tenant
      exact silent abides_receiveInboundEmail
  | createMailbox owner payload =>
      obtain rfl := Option.some.inj tenant
      exact abides_createMailbox
  | updateMailbox owner publicReference payload =>
      obtain rfl := Option.some.inj tenant
      exact abides_updateMailbox
  | dispatchNewContactsJob | dispatchFollowupsJob | pollRepliesJob | pollMailboxInboxesJob
  | releaseAllClaims => cases tenant

end Requests

end Native
end MailerAgent
