import MailerAgent.World.Inbound

/-!
# Suppressed addresses

Once an organization has suppressed an address, no operation that begins afterwards
sends to a contact of the organization under that address, on any of the paths; and
a message that was understood as a request to unsubscribe has its entry on the list. The
analysis of a message is the classification that the handler acted on
(`carries_interpretation`).
-/

namespace MailerAgent

open Concurrent Relational Mail Dispatch Intake Native

variable {deployment : Deployment} {start before after : World}

theorem KnownContact.unique
    {database : Database}
    {key : Nat}
    {email other : String}
    {organization owner : Option String}
    (known : KnownContact database key email organization)
    (again : KnownContact database key other owner) :
    email = other ∧ organization = owner := by
  obtain ⟨contact, campaign, found, foundCampaign, rfl, rfl⟩ := known
  obtain ⟨same, sameCampaign, foundSame, foundSameCampaign, rfl, rfl⟩ := again
  obtain rfl : contact = same := Option.some.inj (found.symm.trans foundSame)
  obtain rfl : campaign = sameCampaign :=
    Option.some.inj (foundCampaign.symm.trans foundSameCampaign)
  exact ⟨rfl, rfl⟩

/-- The contact of a call has an address and an owner. -/
theorem CallHolds.known
    {database : Database}
    {call : SendCall}
    (holds : CallHolds database call)
    (wellFormed : database.WellFormed) :
    ∃ email organization, KnownContact database call.contactId email organization := by
  unfold CallHolds at holds
  split at holds
  · obtain ⟨row, found, contact⟩ := holds
    obtain ⟨person, foundPerson⟩ :=
      Table.exists_get_of_lt_size (wellFormed.dispatchContact _ row found)
    obtain ⟨campaign, foundCampaign⟩ :=
      Table.exists_get_of_lt_size (wellFormed.contactCampaign _ person foundPerson)
    rw [contact] at foundPerson
    exact ⟨_, _, person, campaign, foundPerson, foundCampaign, rfl, rfl⟩
  · obtain ⟨email, organization, native⟩ := holds
    exact ⟨email, organization, native.known⟩

/-- What is true after the organization has suppressed the address: whatever began
since has seen the entry. -/
structure Guarded
    (start : World)
    (email organization : String)
    (world : World) : Prop where
  extended : start.database.Extends world.database
  natives : ∀ number running, world.natives number = some running →
    running.observed.since.contacts.size ≤ start.database.contacts.size ∧
        running.began < start.position ∨
      start.database.Extends running.observed.since ∧ start.position ≤ running.began
  ready : ∀ worker send, (world.dispatchers worker).ready = some send →
    start.position ≤ send.1 →
    ∃ contact, world.database.contacts.get send.2.contactId = some contact ∧
      contact.email ≠ email
  calls : ∀ call ∈ world.calls, start.position ≤ call.began →
    ¬ KnownContact world.database call.contactId email (some organization)
  recent : ∀ call ∈ world.calls, scheduled call.origin →
    start.database.contacts.size ≤ call.contactId → start.position ≤ call.began

section Run

variable {email organization : String}

/-- Nothing that began before the entry counts. -/
theorem Guarded.initial
    (invariant : Invariant deployment start) :
    Guarded start email organization start where
  extended := .refl start.database
  natives number running started := by
    obtain ⟨holds, began⟩ := invariant.natives number running started
    exact .inl ⟨holds.since.contacts.size_le, began⟩
  ready worker send found began := by
    have earlier := invariant.began worker send.1
    unfold DispatchPhase.ready at found
    split at found
    · next phase =>
        obtain rfl := Option.some.inj found
        rw [phase] at earlier
        exact absurd (earlier rfl) (Nat.not_lt.mpr began)
    · next phase =>
        obtain rfl := Option.some.inj found
        rw [phase] at earlier
        exact absurd (earlier rfl) (Nat.not_lt.mpr began)
    · cases found
  calls call member began :=
    absurd (invariant.calls call member).2 (Nat.not_lt.mpr began)
  recent call member _ late := by
    obtain ⟨address, owner, contact, -, found, -⟩ :=
      (invariant.calls call member).1.known invariant.current.consistent.toWellFormed
    exact absurd (Table.lt_size_of_get found) (Nat.not_lt.mpr late)

/-- A call that a step adds was not made under the suppressed address, if it began
after the entry. -/
theorem Guarded.newCall
    {call : SendCall}
    (guarded : Guarded start email organization before)
    (suppressed : start.database.isEmailSuppressed email (some organization) = true)
    (made : NewCall before call)
    (began : start.position ≤ call.began) :
    ¬ KnownContact before.database call.contactId email (some organization) := by
  intro known
  cases made with
  | dispatch worker claim send phase origin contact =>
      obtain ⟨person, found, different⟩ := guarded.ready worker (call.began, send)
        (by rw [phase]; rfl) began
      obtain ⟨same, -, foundSame, -, address, -⟩ := known
      rw [contact] at foundSame
      obtain rfl : person = same := Option.some.inj (found.symm.trans foundSame)
      exact different address
  | native number running started beganWith may =>
      obtain ⟨-, -, owner, native, unsuppressed⟩ := may
      obtain ⟨rfl, rfl⟩ := KnownContact.unique known native.known
      rcases guarded.natives number running started with ⟨-, early⟩ | ⟨seen, -⟩
      · rw [beganWith] at began
        exact absurd early (Nat.not_lt.mpr began)
      · have free := unsuppressed organization rfl
        rw [seen.isEmailSuppressed suppressed] at free
        cases free

/-- A scheduled call for a contact that is newer than the entry began after it. -/
theorem Guarded.newScheduled
    {call : SendCall}
    (guarded : Guarded start email organization before)
    (made : NewCall before call)
    (onSchedule : scheduled call.origin)
    (late : start.database.contacts.size ≤ call.contactId) :
    start.position ≤ call.began := by
  cases made with
  | dispatch worker claim send phase origin contact =>
      rw [origin] at onSchedule
      exact onSchedule.elim
  | native number running started beganWith may =>
      have existed := may.2.1 onSchedule
      rw [beganWith]
      rcases guarded.natives number running started with ⟨small, -⟩ | ⟨-, after⟩
      · exact absurd (Nat.lt_of_lt_of_le existed small) (Nat.not_lt.mpr late)
      · exact after

theorem Guarded.step
    (suppressed : start.database.isEmailSuppressed email (some organization) = true)
    (later : start.position ≤ before.position)
    (invariant : Invariant deployment before)
    (guarded : Guarded start email organization before)
    (effect : StepEffect deployment before after) :
    Guarded start email organization after where
  extended := guarded.extended.trans effect.later.extended
  natives number running started := by
    rcases effect.natives number running started with old | ⟨-, begun⟩
    · exact guarded.natives number running old
    · rcases begun with ⟨old, startedOld, began, since⟩ | ⟨began, since⟩
      · rw [began, since]
        exact guarded.natives number old startedOld
      · rw [began, since]
        exact .inr ⟨guarded.extended, later⟩
  ready worker send found began := by
    have different : ∃ contact,
        before.database.contacts.get send.2.contactId = some contact ∧
          contact.email ≠ email := by
      rcases effect.ready worker send found with old | ⟨contact, foundContact, free⟩
      · exact guarded.ready worker send old began
      · refine ⟨contact, foundContact, ?_⟩
        rintro rfl
        -- The gates look for an entry of any organization.
        have listed := guarded.extended.isEmailSuppressed suppressed
        unfold Database.isEmailSuppressed at listed free
        obtain ⟨key, entry, foundEntry, matching⟩ := (Table.existsWhere_iff _ _).mp listed
        rw [Bool.and_eq_true] at matching
        have entered : before.database.suppressions.existsWhere
            (fun entry => entry.email == contact.email && (none : Option String).all
              fun org => entry.organizationId == some org) = true :=
          (Table.existsWhere_iff _ _).mpr ⟨key, entry, foundEntry, by
            rw [matching.1]
            rfl⟩
        rw [entered] at free
        cases free
    obtain ⟨contact, foundContact, address⟩ := different
    obtain ⟨kept, foundKept, person⟩ :=
      effect.later.extended.contacts _ contact foundContact
    exact ⟨kept, foundKept, person.2 ▸ address⟩
  calls call member began known := by
    have holds : CallHolds before.database call ∧
        ¬ KnownContact before.database call.contactId email (some organization) := by
      rcases effect.calls call member with old | made
      · exact ⟨(invariant.calls call old).1, guarded.calls call old began⟩
      · exact ⟨(made.holds invariant).1, guarded.newCall suppressed made began⟩
    obtain ⟨address, owner, registered⟩ :=
      holds.1.known invariant.current.consistent.toWellFormed
    obtain ⟨rfl, rfl⟩ := KnownContact.unique known
      (registered.of_extends effect.later.extended)
    exact holds.2 registered
  recent call member onSchedule late := by
    rcases effect.calls call member with old | made
    · exact guarded.recent call old onSchedule late
    · exact guarded.newScheduled made onSchedule late

theorem Guarded.of_reaches
    (reachable : (system deployment).Reachable start)
    (suppressed : start.database.isEmailSuppressed email (some organization) = true)
    (reaches : (system deployment).Reaches start after) :
    Guarded start email organization after := by
  have both : start.position ≤ after.position ∧ Guarded start email organization after := by
    refine reaches.invariant
      (fun world => start.position ≤ world.position ∧
        Guarded start email organization world) reachable
      ⟨Nat.le_refl _, .initial (.of_reachable reachable)⟩ ?_
    rintro world action next reached ⟨later, guarded⟩ stepped
    have effect := effect_of_reachable reached stepped
    refine ⟨?_, guarded.step suppressed later (.of_reachable reached) effect⟩
    rw [effect.position]
    exact Nat.le_succ_of_le later
  exact both.2

end Run

/-- Once an organization has an entry for an address, no call that begins afterwards,
on any path, is made for a contact of the organization with that address; and in
every reachable state a message that was understood as a request to unsubscribe has
an entry for the address and the organization of its contact. -/
theorem suppression_safe
    (deployment : Deployment)
    (start : World)
    (reachable : (system deployment).Reachable start) :
    (∀ key entry organization, start.database.suppressions.get key = some entry →
      entry.organizationId = some organization →
      ∀ after, (system deployment).Reaches start after →
        ∀ call ∈ after.calls, start.position ≤ call.began →
          ¬ KnownContact after.database call.contactId entry.email (some organization)) ∧
    ∀ key message intent, start.database.messages.get key = some message →
      message.semanticAnalysis = some intent → .unsubscribe ∈ intent.intents →
      ∃ contact, start.database.contacts.get message.contactId = some contact ∧
        ∃ entryKey entry, start.database.suppressions.get entryKey = some entry ∧
          entry.email = contact.email ∧
          entry.organizationId = start.database.organizationOf contact := by
  constructor
  · intro key entry organization found owner after reaches call member began
    have suppressed :
        start.database.isEmailSuppressed entry.email (some organization) = true := by
      refine (Table.existsWhere_iff _ _).mpr ⟨key, entry, found, ?_⟩
      simp [owner]
    exact (Guarded.of_reaches reachable suppressed reaches).calls call member began
  · intro key message intent found analysed asked
    exact (Invariant.of_reachable reachable).current.inbox.unsubscribed key message intent
      found analysed asked

namespace Sample

/-- A campaign of the organization. -/
def campaign : CampaignCreate where
  name := "Spring"
  senderName := "Ann"
  senderOrg := "Acme"
  senderEmail := "ann@acme.test"
  valueProp := "Less work"

/-- A campaign whose organization has suppressed an address. -/
def suppression (address : String) : List Action :=
  perform 0 (.createCampaign "acme" campaign) answer 3 ++
    perform 1 (.suppressEmail "acme" address none) answer 4

/-- A lead with an address is ingested and the campaign started; the scheduler then
sends the first message. -/
def outreach (address : String) : List Action :=
  perform 2 (.ingestLeads "acme" 0 [[("email", .text address)]]) answer 6 ++
    perform 3 (.startCampaign "acme" 0) answer 7 ++
    perform 4 (.dispatchNewContactsJob "w" []) answer 24

/-- A classifier that finds certain intents. -/
def understands (intents : List IntentType) : (signal : Signal) → signal.Reply
  | .classify _ _ _ =>
      .ok { success := true, semanticIntent := some { intents := intents } }
  | signal => answer signal

/-- A letter without a thread. -/
def letter (sender messageId : String) : InboundEmail where
  fromEmail := sender
  subject := "Hello"
  bodyText := "Back on Monday"
  messageId := some messageId

/-- A lead answers that it wants no more mail. -/
def unsubscription : List Action :=
  perform 0 (.createCampaign "acme" campaign) answer 3 ++
    perform 1 (.ingestLeads "acme" 0 [[("email", .text "p@x.test")]]) answer 6 ++
    perform 2 (.receiveInboundEmail "acme" (letter "p@x.test" "<m@x.test>"))
      (understands [.unsubscribe]) 18

end Sample

/-- After one address was suppressed, another one is written to; and a lead that wants no
more mail is on the list. -/
theorem suppression_on_request_and_of_other_address :
    (∃ start after call, (system Sample.deployment).Reachable start ∧
      (system Sample.deployment).Reaches start after ∧ call ∈ after.calls ∧
      start.position ≤ call.began ∧
      ¬ KnownContact after.database call.contactId "q@x.test" (some "acme")) ∧
    ∃ start key entry, (system Sample.deployment).Reachable start ∧
      start.database.suppressions.get key = some entry ∧ entry.email = "p@x.test" ∧
      entry.organizationId = some "acme" := by
  constructor
  · obtain ⟨start, reachable, holds⟩ := reachable_of_any Sample.deployment
      (Sample.suppression "q@x.test")
      (fun start =>
        (start.database.suppressions.get 0).any (fun entry =>
          entry.email == "q@x.test" && entry.organizationId == some "acme") &&
        ((system Sample.deployment).run start (Sample.outreach "p@x.test")).any fun after =>
          after.calls.any fun call => start.position ≤ call.began) (by decide +kernel)
    obtain ⟨listed, ran⟩ := Bool.and_eq_true_iff.mp holds
    obtain ⟨entry, found, matching⟩ := (Option.any_eq_true _ _).mp listed
    obtain ⟨after, reaches, called⟩ := Transition.System.exists_reaches_of_run ran
    obtain ⟨call, member, began⟩ := List.any_eq_true.mp called
    simp only [Bool.and_eq_true, beq_iff_eq] at matching
    have safe := (suppression_safe Sample.deployment start reachable).1 0 entry "acme" found
      matching.2 after reaches call member (of_decide_eq_true began)
    rw [matching.1] at safe
    exact ⟨start, after, call, reachable, reaches, member, of_decide_eq_true began, safe⟩
  · obtain ⟨start, reachable, holds⟩ := reachable_of_any Sample.deployment
      Sample.unsubscription
      (fun start =>
        (start.database.messages.get 0).any fun message =>
          message.semanticAnalysis.any (fun intent => .unsubscribe ∈ intent.intents) &&
          (start.database.contacts.get message.contactId).any fun contact =>
            contact.email == "p@x.test" &&
              start.database.organizationOf contact == some "acme") (by decide +kernel)
    obtain ⟨message, found, matching⟩ := (Option.any_eq_true _ _).mp holds
    simp only [Bool.and_eq_true, Option.any_eq_true, decide_eq_true_eq, beq_iff_eq] at matching
    obtain ⟨⟨intent, analysed, asked⟩, contact, foundContact, address, owner⟩ := matching
    obtain ⟨same, foundSame, key, entry, listed, email, tenant⟩ :=
      (suppression_safe Sample.deployment start reachable).2 0 message intent found analysed
        asked
    obtain rfl : contact = same := Option.some.inj (foundContact.symm.trans foundSame)
    exact ⟨start, key, entry, reachable, listed, email.trans address, tenant.trans owner⟩

/-! ## Addresses in different spellings -/

/-- The addresses under which the two routes store a contact for a submitted text. -/
inductive CreatedFrom
    (services : Services)
    (text : String) : String → Prop where
  /-- `add_contacts`. -/
  | added {email : String} (valid : services.validateEmail text = some email) :
      CreatedFrom services text email
  /-- `ingest_leads`. -/
  | ingested
      {lead : List (String × LeadValue)}
      {payload : ContactCreate}
      (given : firstPresent lead emailAliases = some (.text text))
      (normalized : normalizeLeadPayload services lead = .ok payload) :
      CreatedFrom services text payload.email

/-- Ingestion strips and lowers the address. -/
theorem normalizeLeadPayload_email
    {services : Services}
    {lead : List (String × LeadValue)}
    {payload : ContactCreate}
    {text : String}
    (given : firstPresent lead emailAliases = some (.text text))
    (normalized : normalizeLeadPayload services lead = .ok payload) :
    payload.email = services.lower (PyText.strip text) := by
  unfold normalizeLeadPayload at normalized
  rw [given] at normalized
  cases present : Option.filter LeadValue.truth (some (LeadValue.text text)) with
  | none =>
      rw [present] at normalized
      cases normalized
  | some value =>
      rw [present] at normalized
      obtain ⟨same, -⟩ := Option.filter_eq_some_iff.mp present
      obtain rfl := Option.some.inj same
      obtain rfl := Except.ok.inj normalized
      rfl

/-- Both routes store the validated address, if that is the stripped and lowered
text. -/
theorem CreatedFrom.eq_validated
    {services : Services}
    {text stored email : String}
    (created : CreatedFrom services text email)
    (valid : services.validateEmail text = some stored)
    (same : stored = services.lower (PyText.strip text)) :
    email = stored := by
  cases created with
  | added validToo => exact Option.some.inj (validToo.symm.trans valid)
  | ingested given normalized =>
      rw [same]
      exact normalizeLeadPayload_email given normalized

/-- Where validation and ingestion agree on an address: once an organization has
suppressed it, no contact that either route creates from the same text is written to
by the schedulers or by a forced follow-up. -/
theorem suppression_survives_normalization
    (deployment : Deployment)
    (text stored organization : String)
    (valid : deployment.services.validateEmail text = some stored)
    (same : stored = deployment.services.lower (PyText.strip text))
    (start after : World)
    (reachable : (system deployment).Reachable start)
    (key : Nat)
    (entry : SuppressionEntry)
    (found : start.database.suppressions.get key = some entry)
    (listed : entry.email = stored ∧ entry.organizationId = some organization)
    (reaches : (system deployment).Reaches start after)
    (call : SendCall)
    (member : call ∈ after.calls)
    (onSchedule : scheduled call.origin)
    (created : start.database.contacts.size ≤ call.contactId)
    (email : String)
    (spelled : CreatedFrom deployment.services text email) :
    ¬ KnownContact after.database call.contactId email (some organization) := by
  obtain ⟨rfl, owner⟩ := listed
  have suppressed :
      start.database.isEmailSuppressed entry.email (some organization) = true := by
    refine (Table.existsWhere_iff _ _).mpr ⟨key, entry, found, ?_⟩
    simp [owner]
  have guarded := Guarded.of_reaches reachable suppressed reaches
  rw [spelled.eq_validated valid same]
  exact guarded.calls call member (guarded.recent call member onSchedule created)

namespace Sample

/-- Validation keeps the letters of the local part, ingestion lowers them. -/
def spellingServices : Services :=
  { services with
    lower := fun text => if text = "John@example.com" then "john@example.com" else text }

/-- An installation with these services. -/
def spellingDeployment : Deployment := { Sample.deployment with services := spellingServices }

end Sample

/-- An address in lower case stays suppressed. -/
theorem suppression_survives_lower_case :
    ∃ start after call, (system Sample.spellingDeployment).Reachable start ∧
      (system Sample.spellingDeployment).Reaches start after ∧ call ∈ after.calls ∧
      ¬ KnownContact after.database call.contactId "john@example.com" (some "acme") := by
  obtain ⟨start, reachable, holds⟩ := reachable_of_any Sample.spellingDeployment
    (Sample.suppression "john@example.com")
    (fun start =>
      (start.database.suppressions.get 0).any (fun entry =>
        entry.email == "john@example.com" && entry.organizationId == some "acme") &&
      ((system Sample.spellingDeployment).run start (Sample.outreach "p@x.test")).any
        fun after => after.calls.any fun call => call.origin == .initialOutreach &&
          decide (start.database.contacts.size ≤ call.contactId)) (by decide +kernel)
  obtain ⟨listed, ran⟩ := Bool.and_eq_true_iff.mp holds
  obtain ⟨entry, found, matching⟩ := (Option.any_eq_true _ _).mp listed
  obtain ⟨after, reaches, called⟩ := Transition.System.exists_reaches_of_run ran
  obtain ⟨call, member, made⟩ := List.any_eq_true.mp called
  simp only [Bool.and_eq_true, beq_iff_eq, decide_eq_true_eq] at matching made
  refine ⟨start, after, call, reachable, reaches, member, ?_⟩
  exact suppression_survives_normalization Sample.spellingDeployment "john@example.com"
    "john@example.com" "acme" rfl (by decide +kernel) start after reachable 0 entry found
    matching reaches call member (by rw [made.1]; trivial) made.2 "john@example.com"
    (.added rfl)

/-- The organization suppresses an address with a capital letter and ingests a lead
with the same text; the lead is stored in lower case and written to. -/
theorem suppression_missed_by_spelling :
    ∃ start after call key entry email,
      (system Sample.spellingDeployment).Reachable start ∧
      Sample.spellingServices.validateEmail "John@example.com" = some entry.email ∧
      start.database.suppressions.get key = some entry ∧
      entry.organizationId = some "acme" ∧
      (system Sample.spellingDeployment).Reaches start after ∧ call ∈ after.calls ∧
      scheduled call.origin ∧ start.database.contacts.size ≤ call.contactId ∧
      CreatedFrom Sample.spellingServices "John@example.com" email ∧
      KnownContact after.database call.contactId email (some "acme") := by
  obtain ⟨start, reachable, holds⟩ := reachable_of_any Sample.spellingDeployment
    (Sample.suppression "John@example.com")
    (fun start =>
      (start.database.suppressions.get 0).any (fun entry =>
        entry.email == "John@example.com" && entry.organizationId == some "acme") &&
      ((system Sample.spellingDeployment).run start (Sample.outreach "John@example.com")).any
        fun after => after.calls.any fun call => call.origin == .initialOutreach &&
          decide (start.database.contacts.size ≤ call.contactId) &&
          (after.database.contacts.get call.contactId).any fun contact =>
            contact.email == "john@example.com" &&
              (after.database.campaigns.get contact.campaignId).any fun campaign =>
                campaign.organizationId == some "acme") (by decide +kernel)
  obtain ⟨listed, ran⟩ := Bool.and_eq_true_iff.mp holds
  obtain ⟨entry, found, matching⟩ := (Option.any_eq_true _ _).mp listed
  obtain ⟨after, reaches, called⟩ := Transition.System.exists_reaches_of_run ran
  obtain ⟨call, member, made⟩ := List.any_eq_true.mp called
  simp only [Bool.and_eq_true, beq_iff_eq, decide_eq_true_eq, Option.any_eq_true] at matching made
  obtain ⟨⟨origin, late⟩, contact, foundContact, address, campaign, foundCampaign, owner⟩ :=
    made
  refine ⟨start, after, call, 0, entry, "john@example.com", reachable, ?_, found,
    matching.2, reaches, member, by rw [origin]; trivial, late, ?_, contact, campaign,
    foundContact, foundCampaign, address, owner⟩
  · rw [matching.1]
    rfl
  · have normalized : normalizeLeadPayload Sample.spellingServices
        [("email", .text "John@example.com")] = .ok { email := "john@example.com" } := by
      decide +kernel
    exact .ingested (by decide +kernel) normalized

end MailerAgent
