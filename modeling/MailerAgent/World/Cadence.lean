import MailerAgent.Native.Credentials
import MailerAgent.World.Pursuit
import MailerAgent.World.Schedule

/-!
# Follow-ups in a run

In every run in which a contact is left active with a date only while a follow-up is left,
no more follow-ups are sent to a contact than its campaign has. A reply to a contact that
stays active is such a step whatever was sent before, so the bound does not hold of every
run.
-/

namespace MailerAgent

open Concurrent Relational Dispatch Intake Mail Native Program

variable {deployment : Deployment} {before after world : World} {action : Action}

/-- A step that commits a transaction which counts no follow-up of a contact, but leaves it
active with a date, is taken only while a follow-up of its campaign is left. -/
def KeepsCadence
    (world : World)
    (action : Action) : Prop :=
  ∀ number stimulus running rest key contact campaign,
    action = .native number stimulus → world.natives number = some running →
    running.thread.process = .commit rest →
    world.database.contacts.get key = some contact →
    world.database.campaignOf contact = some campaign →
    (inSession running.thread.session.writes key contact).followUpIndex =
      contact.followUpIndex →
    ActiveAndScheduled (inSession running.thread.session.writes key contact) →
    contact.followUpIndex < campaign.followUpDays.length

/-! ## Operations -/

/-- What operations do that neither create contacts nor count follow-ups. -/
def uncounting : Bounds Change Signal where
  writes := Change.Uncounted
  asks _ := True
  transacts := True

theorem confined_uncounting
    {operation : Operation}
    (enrolls : ¬operation.Enrolls)
    (counts : ¬operation.Counts) :
    Thread.Confined uncounting (⟨operation.program deployment [], {}⟩ : NativeThread) := by
  have plainly : operation.Plain →
      Thread.Confined uncounting (⟨operation.program deployment [], {}⟩ : NativeThread) := by
    refine fun plain => (plain.program enrolls counts).start.mono ?_ (fun _ _ => trivial)
      fun _ => trivial
    rintro change (plain | approves)
    · exact Change.Plain.uncounted plain
    · cases change with
      | recordSend key record => trivial
      | _ => exact approves.elim
  cases operation with
  | createMailbox organization payload =>
      refine (confined_createMailbox.start).mono ?_ (fun _ _ => trivial) fun _ => trivial
      rintro _ ⟨row, rfl, -⟩
      trivial
  | updateMailbox organization publicReference payload =>
      exact (confined_updateMailbox (fun _ _ => trivial) trivial trivial).start
  | pollMailboxInboxesJob =>
      refine (Confined.bind plain_pollAllMailboxesReport fun _ _ =>
        Confined.pure trivial).start.mono ?_ (fun _ _ => trivial) fun _ => trivial
      rintro change (plain | received)
      · exact Change.Plain.uncounted plain
      · cases change with
        | insertMessage | insertUnmatched | resolveRetained => trivial
        | _ => exact received.elim
  | _ => exact plainly trivial

/-- What is true of a running operation. -/
structure Pursuer
    (database : Database)
    (running : Running) : Prop where
  honours : running.operation.Counts →
    running.thread.Honours pacing (fun _ _ => True) database running.observed
  enrolls : running.operation.Enrolls → running.thread.Confined enrolling
  uncounted : ¬running.operation.Enrolls → ¬running.operation.Counts →
    running.thread.Confined uncounting

theorem Pursuer.start
    {database earlier : Database}
    {position : Nat}
    {operation : Operation}
    (follows : Follows database database) :
    Pursuer database (Running.start deployment earlier position operation) where
  honours counts := by
    change operation.Counts at counts
    have abides : Abides pacing Idle (operation.program deployment)
        fun _ => Pursuing fun _ => True := by
      cases operation with
      | forceFollowup organization contactId =>
          exact abides_forceFollowup.bind (fun _ => Pursues.pure) fun _ _ _ ends => ends
      | dispatchFollowupsJob workerId locked =>
          exact Abides.strengthen (pursues_sessionScope pursues_runFollowupCycle)
            fun _ _ idle => idle.pursuing
      | _ => exact counts.elim
    refine Thread.Honours.start follows ?_
    exact (abides [] _ ⟨rfl, rfl⟩).mono fun _ _ _ => trivial
  enrolls enrolls := (Operation.Enrolls.program enrolls).start
  uncounted enrolls counts := confined_uncounting enrolls counts

/-! ## One step -/

theorem campaigns_of_step
    (reachable : (system deployment).Reachable before)
    (stepped : before.step deployment action = some after) :
    Table.Extends Eq before.database.campaigns after.database.campaigns := by
  rcases database_of_step reachable stepped with edits |
    ⟨number, stimulus, old, thread, asked, -, -, advanced, -⟩
  · exact edits.campaigns
  · rcases Thread.step_store advanced with same | applied
    · rw [show after.database = before.database from same]
      exact .refl (fun _ => rfl) _
    · exact tracks_campaigns.extends_table (fun _ _ => trivial) applied

/-- What an operation commits is accounted for. -/
theorem Pursuer.accounted
    {running : Running}
    {first second : Database}
    {stimulus : Stimulus Signal Signal.Reply}
    {thread : NativeThread}
    {asked : Option Signal}
    (pursuer : Pursuer first running)
    (later : Later first second)
    (paced : Paced first)
    (advanced : running.thread.step Change.apply first stimulus = some (second, thread, asked))
    (applied : applyAll Change.apply first running.thread.session.writes = some second) :
    Accounted first second := by
  by_cases counts : running.operation.Counts
  · rcases (pursuer.honours counts).guarantee advanced with same | guaranteed
    · rw [same]
      exact fun key contact found => .inl (paced key contact found)
    · exact guaranteed paced
  by_cases enrolls : running.operation.Enrolls
  · intro key contact found
    rcases tracks_enrolled.origin (pursuer.enrolls enrolls).writes applied found with
      ⟨_, stored, rfl⟩ | ⟨change, member, _, inserted, rfl⟩
    · exact .inr ⟨_, stored, rfl⟩
    · have fresh := (pursuer.enrolls enrolls).writes change member
      cases change with
      | insertContact row =>
          obtain rfl := Option.some.inj inserted
          refine .inl (onCadence_of_within later.consistent.toWellFormed found fun limit => ?_)
          exact within_of_unscheduled fresh.1 fresh.2
      | _ => cases inserted
  · exact accounted_of_uncounted (pursuer.uncounted enrolls counts).writes applied

/-- A step keeps every contact within its cadence. -/
theorem paced_of_step
    (reachable : (system deployment).Reachable before)
    (paced : Paced before.database)
    (operations : ∀ number running, before.natives number = some running →
      Pursuer before.database running)
    (keeps : KeepsCadence before action)
    (stepped : before.step deployment action = some after) :
    Paced after.database := by
  have later := (effect_of_reachable reachable stepped).later
  have campaigns := campaigns_of_step reachable stepped
  rcases database_of_step reachable stepped with edits |
    ⟨number, stimulus, old, thread, asked, rfl, started, advanced, -⟩
  · intro key contact found
    rcases edits.contacts.2 key contact found with stored | ⟨-, count, unscheduled⟩
    · exact (paced key contact stored).of_extends campaigns
    · exact onCadence_of_within later.consistent.toWellFormed found
        fun _ => within_of_unscheduled count unscheduled
  rcases Thread.step_commit advanced with same | ⟨⟨rest, commits⟩, applied⟩
  · rw [same]
    exact paced
  have accounted := (operations number old started).accounted later paced advanced applied
  intro key contact found
  rcases accounted key contact found with onCadence | ⟨stored, foundStored, same⟩
  · exact onCadence
  -- A contact of which no follow-up is counted: here the condition on the step is used.
  obtain ⟨campaign, chosen, within⟩ := paced key stored foundStored
  obtain rfl : inSession old.thread.session.writes key stored = contact :=
    Option.some.inj ((contact_of_applyAll applied foundStored).symm.trans found)
  refine ⟨campaign, campaignOf_of_extends campaigns (inSession_samePerson key stored).1 chosen,
    ?_, fun scheduled => ?_⟩
  · rw [same]
    exact within.counted
  · rw [same]
    exact keeps number stimulus old rest key stored campaign rfl started commits foundStored
      chosen same scheduled

/-! ## Runs -/

/-- The invariant of the cadences. -/
structure Cadenced (world : World) : Prop where
  paced : Paced world.database
  operations : ∀ number running, world.natives number = some running →
    Pursuer world.database running

theorem Cadenced.step
    (cadenced : Cadenced before)
    (reachable : (system deployment).Reachable before)
    (keeps : KeepsCadence before action)
    (stepped : before.step deployment action = some after) :
    Cadenced after := by
  have follows : Follows before.database after.database :=
    { later := (effect_of_reachable reachable stepped).later
      campaigns := campaigns_of_step reachable stepped
      paced := paced_of_step reachable cadenced.paced cadenced.operations keeps stepped }
  refine ⟨follows.paced, fun number running found => ?_⟩
  cases operation_of_step stepped found with
  | started operation _ fresh =>
      subst fresh
      exact Pursuer.start follows.refl_right
  | stepped stimulus old thread asked _ foundOld advanced next =>
      subst next
      have pursuer := cadenced.operations number old foundOld
      refine ⟨fun counts => ?_, fun enrolls => ?_, fun enrolls counts => ?_⟩
      · have honours := (pursuer.honours counts).step pacing_lawful follows.refl_right advanced
        cases asked with
        | none => exact honours
        | some signal => exact honours
      · exact ((pursuer.enrolls enrolls).step advanced).1
      · exact ((pursuer.uncounted enrolls counts).step advanced).1
  | kept foundOld _ =>
      have pursuer := cadenced.operations number running foundOld
      exact ⟨fun counts => (pursuer.honours counts).others pacing_lawful follows,
        pursuer.enrolls, pursuer.uncounted⟩

theorem cadenced_of_reachableWhen
    (reachable : (system deployment).ReachableWhen KeepsCadence world) :
    Cadenced world := by
  obtain ⟨start, ⟨clock, rfl⟩, reaches⟩ := reachable
  refine (reaches.invariant
    (fun state => (system deployment).Reachable state ∧ Cadenced state)
    ⟨.of_initial ⟨clock, rfl⟩, ?_, fun _ _ found => (Option.some_ne_none _ found.symm).elim⟩
    ?_).2
  · exact fun _ _ found => (Option.some_ne_none _ found.symm).elim
  · intro state action next ⟨reached, cadenced⟩ keeps stepped
    exact ⟨reached.step stepped, cadenced.step reached keeps stepped⟩

/-- In every run whose commits leave a contact active with a date only while a follow-up is
left, or count one, no contact was sent more follow-ups than its campaign has. -/
theorem followups_bounded
    (deployment : Deployment)
    (world : World)
    (reachable : (system deployment).ReachableWhen KeepsCadence world) :
    ∀ key contact campaign, world.database.contacts.get key = some contact →
      world.database.campaignOf contact = some campaign →
      contact.followUpIndex ≤ campaign.followUpDays.length := by
  intro key contact campaign found chosen
  obtain ⟨same, chosenSame, within⟩ :=
    (cadenced_of_reachableWhen reachable).paced key contact found
  obtain rfl : same = campaign := Option.some.inj (chosenSame.symm.trans chosen)
  exact within.counted

namespace Sample

/-- A campaign with one follow-up, after three days. -/
def shortCadence : CampaignCreate := { campaign with followUpDays := [3] }

/-- On a day, in a conversation that goes on, with handles of its own. -/
def onDay
    (days : Nat)
    (reference : String) : (signal : Signal) → signal.Reply
  | .utcnow => (days * day : Int)
  | .newReference => reference
  | .sendEmail _ _ _ => .runs (fun domain => "<" ++ reference ++ "@" ++ domain ++ ">") fun _ => {}
  | signal => answer signal

/-- A contact to whom the first message and the follow-up were sent. -/
def pursued : List Action :=
  perform 0 (.createCampaign "acme" shortCadence) answer 3 ++ outreach "p@x.test" ++
    perform 5 (.dispatchFollowupsJob "w" []) (onDay 4 "second") 28

/-- The contact is resumed, replies with an objection and is due once more. -/
def pursuedAgain : List Action :=
  pursued ++ perform 6 (.resumeContact "acme" 0) answer 6 ++
    perform 7 (.receiveInboundEmail "acme" (letter "p@x.test" "<m@x.test>"))
      (replies "third" [.objection]) 13 ++
    List.replicate 10 (.native 7 { answer := replies "fourth" [.objection] }) ++
    perform 8 (.dispatchFollowupsJob "w" []) (onDay 8 "fifth") 28

/-- Whether a step keeps the cadence. -/
def keepsCadence (world : World) : Action → Bool
  | .native number _ => (world.natives number).all fun running =>
      match running.thread.process with
      | .commit _ => (List.range world.database.contacts.size).all fun key =>
          (world.database.contacts.get key).all fun contact =>
            (world.database.campaignOf contact).all fun campaign =>
              let left := inSession running.thread.session.writes key contact
              !(left.followUpIndex == contact.followUpIndex && left.status == .active &&
                left.nextActionAt.isSome) ||
              decide (contact.followUpIndex < campaign.followUpDays.length)
      | _ => true
  | _ => true

theorem keepsCadence_of_check
    (world : World)
    (action : Action)
    (checked : keepsCadence world action = true) :
    KeepsCadence world action := by
  rintro number stimulus running rest key contact campaign rfl found commits stored chosen same
    ⟨active, scheduled⟩
  simp only [keepsCadence, found, commits, Option.all_some, List.all_eq_true,
    List.mem_range] at checked
  have here := checked key (Table.lt_size_of_get stored)
  rw [stored, Option.all_some, chosen, Option.all_some] at here
  simpa [same, active, Option.isSome_iff_ne_none.mpr scheduled] using here

end Sample

/-- A contact that objects after its only follow-up is sent another one. -/
theorem followups_exceed_cadence :
    ∃ world contact campaign, (system Sample.deployment).Reachable world ∧
      Sample.deployment.services.loadsTimeZone = true ∧
      world.database.contacts.get 0 = some contact ∧
      world.database.campaignOf contact = some campaign ∧
      campaign.followUpDays.length < contact.followUpIndex := by
  obtain ⟨world, reachable, holds⟩ := reachable_of_any Sample.deployment Sample.pursuedAgain
    (fun world => (world.database.contacts.get 0).any fun contact =>
      (world.database.campaignOf contact).any fun campaign =>
        decide (campaign.followUpDays.length < contact.followUpIndex)) (by decide +kernel)
  obtain ⟨contact, found, rest⟩ := (Option.any_eq_true _ _).mp holds
  obtain ⟨campaign, chosen, exceeds⟩ := (Option.any_eq_true _ _).mp rest
  exact ⟨world, contact, campaign, reachable, rfl, found, chosen, of_decide_eq_true exceeds⟩

/-- The only follow-up is sent, and no other. -/
theorem followups_bounded_of_short_cadence :
    ∃ world contact campaign, (system Sample.deployment).ReachableWhen KeepsCadence world ∧
      world.database.contacts.get 0 = some contact ∧
      world.database.campaignOf contact = some campaign ∧ contact.followUpIndex = 1 ∧
      contact.followUpIndex ≤ campaign.followUpDays.length := by
  obtain ⟨world, ran, holds⟩ := (Option.any_eq_true _ _).mp
    (show ((system Sample.deployment).runWhen Sample.keepsCadence {} Sample.pursued).any
      (fun world => (world.database.contacts.get 0).any fun contact =>
        (world.database.campaignOf contact).isSome && contact.followUpIndex == 1) = true by
      decide +kernel)
  obtain ⟨contact, found, rest⟩ := (Option.any_eq_true _ _).mp holds
  simp only [Bool.and_eq_true, beq_iff_eq] at rest
  obtain ⟨campaign, chosen⟩ := Option.isSome_iff_exists.mp rest.1
  have reachable : (system Sample.deployment).ReachableWhen KeepsCadence world :=
    ⟨{}, ⟨0, rfl⟩,
      Transition.System.reachesWhen_of_runWhen Sample.keepsCadence_of_check ran⟩
  exact ⟨world, contact, campaign, reachable, found, chosen, rest.2,
    followups_bounded Sample.deployment world reachable 0 contact campaign found chosen⟩

end MailerAgent
