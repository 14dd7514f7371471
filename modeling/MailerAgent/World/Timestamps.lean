import MailerAgent.World.Schedule

/-!
# Timestamps without a time zone

The timestamps of a contact are loaded from columns without a time zone, and the current
time has one. The checks of a follow-up then raise as soon as they look at a timestamp
that is set, so no contact that is due reaches the drafting of its follow-up.
-/

namespace MailerAgent

open Concurrent Relational Mail Native Program

section Checks

variable {services : Services} {now : Instant} {contact : Contact}

theorem elapsed_naive
    (naive : services.loadsTimeZone = false)
    (now past : Instant) :
    elapsed services now past = .error (.raised "TypeError") := by
  unfold elapsed
  rw [naive]
  rfl

/-- A contact whose status and schedule make the checks compare its date. -/
def ActiveAndScheduled (contact : Contact) : Prop :=
  contact.status = .active ∧ contact.nextActionAt ≠ none

theorem canSendFollowup_naive
    (naive : services.loadsTimeZone = false)
    (now : Instant)
    (contact : Contact) :
    (ActiveAndScheduled contact ∧
        canSendFollowup services now contact = .error (.raised "TypeError")) ∨
      (¬ActiveAndScheduled contact ∧ canSendFollowup services now contact = .ok false) := by
  unfold canSendFollowup ActiveAndScheduled
  by_cases active : contact.status = .active
  · rw [if_neg (not_not.mpr active)]
    cases due : contact.nextActionAt with
    | none => exact .inr ⟨fun both => both.2 rfl, rfl⟩
    | some date =>
        refine .inl ⟨⟨active, Option.some_ne_none date⟩, ?_⟩
        dsimp only
        rw [elapsed_naive naive]
        rfl
  · rw [if_pos active]
    exact .inr ⟨fun both => active both.1, rfl⟩

/-- The scheduler's check looks at the last reply only after the date. -/
theorem shouldSendFollowupNow_naive
    (naive : services.loadsTimeZone = false)
    (now : Instant)
    (contact : Contact) :
    (ActiveAndScheduled contact ∧
        shouldSendFollowupNow services now contact = .error (.raised "TypeError")) ∨
      (¬ActiveAndScheduled contact ∧
        shouldSendFollowupNow services now contact = .ok false) := by
  rcases canSendFollowup_naive naive now contact with
    ⟨scheduled, raised⟩ | ⟨idle, refused⟩
  · refine .inl ⟨scheduled, ?_⟩
    unfold shouldSendFollowupNow
    rw [raised]
    rfl
  · refine .inr ⟨idle, ?_⟩
    unfold shouldSendFollowupNow
    rw [refused]
    rfl

/-- The hints look at the last message and the last reply. -/
theorem followupHints_naive
    (naive : services.loadsTimeZone = false) :
    followupHints services now contact = .ok () ↔
      contact.lastOutboundAt = none ∧ contact.lastReplyAt = none := by
  unfold followupHints
  cases sent : contact.lastOutboundAt with
  | some outbound =>
      dsimp only
      rw [elapsed_naive naive]
      exact ⟨nofun, fun both => nomatch both.1⟩
  | none =>
      cases replied : contact.lastReplyAt with
      | some reply =>
          dsimp only
          rw [elapsed_naive naive]
          exact ⟨nofun, fun both => nomatch both.2⟩
      | none => exact ⟨fun _ => ⟨rfl, rfl⟩, fun _ => rfl⟩

end Checks

/-! ## The drafting step -/

/-- No run of a program asks for a draft. -/
def Undrafted
    {Value : Type}
    (program : Program Value) : Prop :=
  ∀ pending trace result, (program pending).Runs trace result →
    ∀ key action, .draftMessage key action ∉ trace

section Drafting

variable {Value Result : Type}

theorem undrafted_bind
    {program : Program Value}
    {rest : Value → Program Result}
    (first : Undrafted program)
    (second : ∀ value, Undrafted (rest value)) :
    Undrafted (program >>= rest) := by
  intro pending trace result runs key action member
  rcases runs_bind runs with ⟨front, back, value, middle, rfl, ran, ranRest⟩ | ⟨_, _, ran, -⟩
  · rcases List.mem_append.mp member with inFront | inBack
    · exact first pending front _ ran key action inFront
    · exact second value middle back result ranRest key action inBack
  · exact first pending trace _ ran key action member

theorem undrafted_pure (value : Value) : Undrafted (pure value) := by
  intro pending trace result runs key action member
  rw [(runs_pure runs).1] at member
  exact (List.not_mem_nil member).elim

theorem undrafted_raise_bind
    (failure : Failure)
    (rest : Value → Program Result) :
    Undrafted (ofExcept (.error failure) >>= rest) := by
  intro pending trace result runs key action member
  cases runs with
  | done => exact (List.not_mem_nil member).elim

theorem undrafted_ask
    {signal : Signal}
    (other : ∀ key action, signal ≠ .draftMessage key action) :
    Undrafted (ask signal) := by
  intro pending trace result runs key action member
  rw [(runs_ask runs).1] at member
  exact other key action (List.mem_singleton.mp member).symm

theorem undrafted_query (read : Database → Value) : Undrafted (query read) := by
  intro pending trace result runs key action member
  cases runs with
  | statement reported rest =>
      cases rest with
      | done => exact (List.not_mem_nil member).elim

/-- A follow-up to a scheduled contact fails before anything is drafted. -/
theorem undrafted_sendFollowupIfDue
    {deployment : Deployment}
    {origin : Nat → SendOrigin}
    {key : Nat}
    {contact : Contact}
    (naive : deployment.services.loadsTimeZone = false)
    (scheduled : ActiveAndScheduled contact) :
    Undrafted (sendFollowupIfDue deployment origin key contact) := by
  refine undrafted_bind (undrafted_ask nofun) fun _ => ?_
  refine undrafted_bind (undrafted_query _) fun loaded => ?_
  dsimp only
  split
  · exact undrafted_pure _
  · refine undrafted_bind (undrafted_ask nofun) fun checkedAt => ?_
    have raised : shouldSendFollowupNow deployment.services checkedAt contact =
        .error (.raised "TypeError") :=
      ((shouldSendFollowupNow_naive naive checkedAt contact).resolve_right
        fun idle => idle.1 scheduled).2
    rw [raised]
    exact undrafted_raise_bind _ _

end Drafting

/-- With columns that carry no time zone: a check of a follow-up returns, for a contact and
a time, exactly if it compares no timestamp that is set; and no run of a follow-up to an
active contact with a date reaches the drafting step. -/
theorem followup_checks_return_iff
    (deployment : Deployment)
    (naive : deployment.services.loadsTimeZone = false)
    (contact : Contact) :
    (∀ now,
      ((∃ answer, shouldSendFollowupNow deployment.services now contact = .ok answer) ↔
        ¬(contact.status = .active ∧ contact.nextActionAt ≠ none)) ∧
      ((∃ answer, canSendFollowup deployment.services now contact = .ok answer) ↔
        ¬(contact.status = .active ∧ contact.nextActionAt ≠ none)) ∧
      (followupHints deployment.services now contact = .ok () ↔
        contact.lastOutboundAt = none ∧ contact.lastReplyAt = none)) ∧
    (contact.status = .active → contact.nextActionAt ≠ none →
      ∀ origin key pending trace result,
        (sendFollowupIfDue deployment origin key contact pending).Runs trace result →
        ∀ drafted action, .draftMessage drafted action ∉ trace) := by
  constructor
  · intro now
    refine ⟨?_, ?_, followupHints_naive naive⟩
    · rcases shouldSendFollowupNow_naive naive now contact with
        ⟨scheduled, raised⟩ | ⟨idle, refused⟩
      · rw [raised]
        exact ⟨nofun, fun idle => (idle scheduled).elim⟩
      · exact ⟨fun _ => idle, fun _ => ⟨false, refused⟩⟩
    · rcases canSendFollowup_naive naive now contact with
        ⟨scheduled, raised⟩ | ⟨idle, refused⟩
      · rw [raised]
        exact ⟨nofun, fun idle => (idle scheduled).elim⟩
      · exact ⟨fun _ => idle, fun _ => ⟨false, refused⟩⟩
  · intro active scheduled origin key pending trace result
    exact undrafted_sendFollowupIfDue naive ⟨active, scheduled⟩ pending trace result

namespace Sample

/-- The small installation with columns that carry no time zone. -/
def naiveDeployment : Deployment :=
  { deployment with services := { services with loadsTimeZone := false } }

/-- An active contact that is due. -/
def dueContact : Contact where
  campaignId := 0
  email := "p@x.test"
  status := .active
  nextActionAt := some 0
  lastOutboundAt := some 0

end Sample

/-- The checks of a due contact raise. -/
theorem followup_checks_raise :
    Sample.naiveDeployment.services.loadsTimeZone = false ∧
      shouldSendFollowupNow Sample.naiveDeployment.services 1 Sample.dueContact =
        .error (.raised "TypeError") ∧
      canSendFollowup Sample.naiveDeployment.services 1 Sample.dueContact =
        .error (.raised "TypeError") ∧
      followupHints Sample.naiveDeployment.services 1 Sample.dueContact =
        .error (.raised "TypeError") := by
  decide

/-- The checks do not return for the due contact, and no follow-up to it is drafted. -/
theorem followup_undrafted_of_due :
    (Sample.naiveDeployment.services.loadsTimeZone = false ∧
      ¬∃ answer,
        shouldSendFollowupNow Sample.naiveDeployment.services 1 Sample.dueContact = .ok answer) ∧
    ∀ origin key pending trace result,
      (sendFollowupIfDue Sample.naiveDeployment origin key Sample.dueContact pending).Runs
        trace result →
      ∀ drafted action, .draftMessage drafted action ∉ trace := by
  have checks := followup_checks_return_iff Sample.naiveDeployment rfl Sample.dueContact
  refine ⟨⟨rfl, fun returned => ?_⟩, checks.2 rfl nofun⟩
  exact (checks.1 1).1.mp returned ⟨rfl, nofun⟩

end MailerAgent
