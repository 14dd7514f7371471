import MailerAgent.Native.Company
import MailerAgent.Native.Changes
import MailerAgent.World.Tenants

/-!
# What the ingestion of leads reports

`ingest_leads` inserts its leads one by one and commits once. A lead whose insertion the
database rejects is skipped after a rollback of the whole session, which takes back the
leads that were created before it but leaves them in the report. While other requests add
contacts to the same campaign, every lead is reported once; and what is reported as created
exists if no insertion is rejected after an accepted one.
-/

namespace MailerAgent

open Concurrent Relational Mail Native Program

/-! ## Reports -/

/-- What the report says about one lead. -/
inductive LeadVerdict where
  | created (email : String)
  | skipped (entry : SkippedLead)
  deriving DecidableEq, Repr

namespace LeadVerdict

/-- The entry of the created leads. -/
def createdEntry : LeadVerdict → Option String
  | created email => some email
  | skipped _ => none

/-- The entry of the skipped leads. -/
def skippedEntry : LeadVerdict → Option SkippedLead
  | created _ => none
  | skipped entry => some entry

/-- An entry is about a lead: it has the lead's address, or the lead itself if there is no
address in it. -/
def About
    (services : Services)
    (lead : List (String × LeadValue)) : LeadVerdict → Prop
  | created email =>
      (normalizeLeadPayload services lead).toOption.map ContactCreate.email = some email
  | skipped entry =>
      (normalizeLeadPayload services lead).toOption.map ContactCreate.email = entry.email ∧
        (entry.email = none → entry.raw = some lead)

end LeadVerdict

/-- Every lead has one entry, in one of the two lists, and these are all entries. -/
def EachReported
    (services : Services)
    (leads : List (List (String × LeadValue)))
    (report : IngestReport) : Prop :=
  ∃ verdicts : List LeadVerdict,
    List.Forall₂ (LeadVerdict.About services) leads verdicts ∧
      report.created = verdicts.filterMap LeadVerdict.createdEntry ∧
      report.skipped = verdicts.filterMap LeadVerdict.skippedEntry

namespace EachReported

variable {services : Services} {leads : List (List (String × LeadValue))}
variable {lead : List (String × LeadValue)} {report : IngestReport}

theorem nil : EachReported services [] {} :=
  ⟨[], .nil, rfl, rfl⟩

/-- One more lead was given a verdict, and the report has taken it over. -/
theorem append
    (accounted : EachReported services leads report)
    {verdict : LeadVerdict}
    {next : IngestReport}
    (about : verdict.About services lead)
    (created : next.created = report.created ++ [verdict].filterMap LeadVerdict.createdEntry)
    (skipped : next.skipped = report.skipped ++ [verdict].filterMap LeadVerdict.skippedEntry) :
    EachReported services (leads ++ [lead]) next := by
  obtain ⟨verdicts, each, before, passed⟩ := accounted
  refine ⟨verdicts ++ [verdict], List.rel_append each (.cons about .nil), ?_, ?_⟩
  · rw [created, before, List.filterMap_append]
  · rw [skipped, passed, List.filterMap_append]

/-- A created lead was normalized to the address that is reported. -/
theorem create
    (accounted : EachReported services leads report)
    {payload : ContactCreate}
    (normalized : normalizeLeadPayload services lead = .ok payload) :
    EachReported services (leads ++ [lead]) (report.create payload.email) := by
  have about : (LeadVerdict.created payload.email).About services lead := by
    rw [LeadVerdict.About, normalized]
    rfl
  exact accounted.append about rfl (List.append_nil _).symm

/-- A skipped lead is reported under its address, or quoted. -/
theorem skip
    (accounted : EachReported services leads report)
    {entry : SkippedLead}
    (named : (normalizeLeadPayload services lead).toOption.map ContactCreate.email =
      entry.email)
    (quoted : entry.email = none → entry.raw = some lead) :
    EachReported services (leads ++ [lead]) (report.skip entry) := by
  have about : (LeadVerdict.skipped entry).About services lead := ⟨named, quoted⟩
  exact accounted.append about (List.append_nil _).symm rfl

end EachReported

/-! ## Ingestion among other requests -/

/-- One operation while others insert and update rows. -/
def alongside : Company Database Change where
  apply := Change.apply
  others := Database.Extends
  refl := .refl
  trans := .trans

/-- The same for the steps in which a statement violates a constraint only if its
transaction has not written anything yet. -/
def ingesting : Company Database Change :=
  { alongside with
    statements := fun _ session result => result = .violated → session.writes = [] }

/-- The transaction inserts a contact of a campaign for every created entry. -/
def InsertsCreated
    (campaignId : Nat)
    (report : IngestReport)
    (session : Session Change) : Prop :=
  ∀ email ∈ report.created, ∃ row, Change.insertContact row ∈ session.writes ∧
    row.campaignId = campaignId ∧ row.email = email

/-- The leads are accounted for, and nothing waits for a flush. -/
def recorded
    (services : Services)
    (campaignId : Nat)
    (leads : List (List (String × LeadValue)))
    (report : IngestReport) : Circumstance ingesting where
  holds pending _ session :=
    pending = [] ∧ InsertsCreated campaignId report session ∧ EachReported services leads report
  stable holds _ := holds

/-- The insertion of a contact waits for a flush. -/
def staged
    (services : Services)
    (campaignId : Nat)
    (leads : List (List (String × LeadValue)))
    (report : IngestReport)
    (payload : ContactCreate) : Circumstance ingesting where
  holds pending _ session :=
    pending = [.insertContact (newContact campaignId payload)] ∧
      InsertsCreated campaignId report session ∧ EachReported services leads report
  stable holds _ := holds

/-- The flush of the insertion was accepted, or rejected before anything was created. -/
def flushed
    (services : Services)
    (campaignId : Nat)
    (leads : List (List (String × LeadValue)))
    (report : IngestReport)
    (payload : ContactCreate) : Except Failure Unit → Circumstance ingesting
  | .ok _ =>
      { holds := fun pending _ session =>
          pending = [] ∧ InsertsCreated campaignId (report.create payload.email) session ∧
            EachReported services leads report
        stable := fun holds _ => holds }
  | .error .integrity =>
      { holds := fun _ _ _ => report.created = [] ∧ EachReported services leads report
        stable := fun holds _ => holds }
  | .error _ => .top

section Ingestion

variable {services : Services} {campaignId : Nat} {report : IngestReport}
variable {leads : List (List (String × LeadValue))} {lead : List (String × LeadValue)}

theorem leads_flush {payload : ContactCreate} :
    Leads (staged services campaignId leads report payload) flush
      (fun value => flushed services campaignId leads report payload (.ok value))
      fun failure => flushed services campaignId leads report payload (.error failure) := by
  refine .flush ?_ ?_ ?_ fun _ _ _ _ => trivial
  · intro store session holds
    cases holds.1
  · rintro _ store session view after ⟨rfl, inserted, accounted⟩ _ _ _
    refine ⟨rfl, ?_, accounted⟩
    intro email member
    rcases List.mem_append.mp member with earlier | fresh
    · obtain ⟨row, written, owner, address⟩ := inserted email earlier
      exact ⟨row, List.mem_append_left _ written, owner, address⟩
    · rw [List.mem_singleton.mp fresh]
      exact ⟨newContact campaignId payload, List.mem_append_right _ (List.mem_singleton_self _),
        rfl, rfl⟩
  · rintro _ store session ⟨rfl, inserted, accounted⟩ considered
    refine ⟨List.eq_nil_iff_forall_not_mem.mpr fun email member => ?_, accounted⟩
    obtain ⟨row, written, -⟩ := inserted email member
    rw [considered rfl] at written
    cases written

/-- One lead is accounted for, whatever its flush ends with. -/
theorem leads_ingestLead :
    Leads (recorded services campaignId leads report)
      (ingestLead services campaignId lead report)
      (recorded services campaignId (leads ++ [lead])) fun _ => .top := by
  unfold ingestLead
  split
  · next text normalized =>
      refine .pure fun pending store session holds => ⟨holds.1, holds.2.1, ?_⟩
      refine holds.2.2.skip ?_ fun _ => rfl
      rw [normalized]
      rfl
  · next payload normalized =>
      have named : ∀ entry : SkippedLead, entry.email = some payload.email →
          (normalizeLeadPayload services lead).toOption.map ContactCreate.email =
            entry.email := by
        intro entry same
        rw [normalized, same]
        rfl
      refine .bind (.look fun _ _ _ _ => trivial) fun suppressed =>
        .ite (fun _ => .pure fun _ _ _ holds => ?_) fun _ => ?_
      · exact ⟨holds.1, holds.2.1, holds.2.2.skip (named _ rfl) nofun⟩
      refine .bind (.look fun _ _ _ _ => trivial) fun existing => ?_
      cases existing with
      | some key =>
          exact .pure fun _ _ _ holds =>
            ⟨holds.1, holds.2.1, holds.2.2.skip (named _ rfl) nofun⟩
      | none =>
          have stages : Leads (recorded services campaignId leads report)
              (stage (.insertContact (newContact campaignId payload)))
              (fun _ => staged services campaignId leads report payload) fun _ => .top := by
            refine .stage fun pending _ _ holds => ⟨?_, holds.2⟩
            rw [holds.1]
            rfl
          refine .bind stages fun _ => .bind leads_flush.attempt fun result => ?_
          cases result with
          | ok _ =>
              exact .pure fun _ _ _ holds =>
                ⟨holds.1, holds.2.1, holds.2.2.create normalized⟩
          | error failure =>
              cases failure with
              | integrity =>
                  have forgets : Leads
                      (flushed services campaignId leads report payload (.error .integrity))
                      rollback (fun _ => recorded services campaignId leads report)
                      fun _ => .top := by
                    refine .rollback fun _ _ _ holds _ => ⟨rfl, ?_, holds.2⟩
                    rw [InsertsCreated, holds.1]
                    exact fun _ member => (List.not_mem_nil member).elim
                  exact .bind forgets fun _ => .pure fun _ _ _ holds =>
                    ⟨holds.1, holds.2.1, holds.2.2.skip (named _ rfl) nofun⟩
              | _ => exact .raise fun _ _ _ _ => trivial

/-- The leads are accounted for in their order. -/
theorem leads_ingestEach
    {rest : List (List (String × LeadValue))} :
    Leads (recorded services campaignId leads report)
      (ingestEach services campaignId rest report)
      (recorded services campaignId (leads ++ rest)) fun _ => .top := by
  induction rest generalizing leads report with
  | nil =>
      refine .pure fun _ _ _ holds => ?_
      rw [List.append_nil]
      exact holds
  | cons lead rest inductionHypothesis =>
      refine .bind leads_ingestLead fun next => ?_
      rw [List.append_cons leads lead rest]
      exact inductionHypothesis

/-- Every created entry names a contact of the campaign. -/
def Present
    (campaignId : Nat)
    (report : IngestReport)
    (database : Database) : Prop :=
  ∀ email ∈ report.created, ∃ key contact, database.contacts.get key = some contact ∧
    contact.campaignId = campaignId ∧ contact.email = email

/-- What is present stays so, whatever others commit. -/
theorem Present.later
    {store next : Database}
    (present : Present campaignId report store)
    (extended : store.Extends next) :
    Present campaignId report next := by
  intro email member
  obtain ⟨key, contact, found, owner, address⟩ := present email member
  obtain ⟨kept, current, same⟩ := extended.contacts key contact found
  exact ⟨key, kept, current, same.1.trans owner, same.2.trans address⟩

/-- The report is truthful about the store. -/
def truthful
    (services : Services)
    (campaignId : Nat)
    (leads : List (List (String × LeadValue)))
    (report : IngestReport) : Circumstance ingesting where
  holds _ store _ := Present campaignId report store ∧ EachReported services leads report
  stable holds extended := ⟨holds.1.later extended, holds.2⟩

theorem InsertsCreated.present
    {session : Session Change}
    {store result : Database}
    (inserted : InsertsCreated campaignId report session)
    (applied : applyAll Change.apply store session.writes = some result) :
    Present campaignId report result := by
  intro email member
  obtain ⟨row, written, owner, address⟩ := inserted email member
  obtain ⟨key, current, found, same⟩ :=
    tracks_contacts.get_inserted (fun _ _ => trivial) applied written rfl
  exact ⟨key, current, found, same.1.trans owner, same.2.trans address⟩

/-- After the commit the reported contacts are there. -/
theorem leads_commit :
    Leads (recorded services campaignId leads report) commit
      (fun _ => truthful services campaignId leads report) fun _ => .top := by
  have nothing : Leads (recorded services campaignId leads report) flush
      (fun _ => recorded services campaignId leads report) fun _ => .top := by
    refine .flush (fun _ _ => id) ?_ (fun _ _ _ _ _ => trivial) fun _ _ _ _ => trivial
    rintro _ store session view after ⟨rfl, holds⟩ _ _ _
    exact ⟨rfl, (List.append_nil session.writes).symm ▸ holds.1, holds.2⟩
  refine .bind nothing fun _ => .commitTransaction ?_ fun _ _ _ _ _ => trivial
  intro pending store session result holds _ applied
  exact ⟨⟨holds.2.1.present applied, holds.2.2⟩, trivial⟩

/-- A new session. -/
def opening : Circumstance ingesting where
  holds pending _ session := pending = [] ∧ session = {}
  stable holds _ := holds

theorem leads_getCampaignOr404 {organization : String} :
    Leads opening (getCampaignOr404 organization campaignId) (fun _ => opening)
      fun _ => .top := by
  refine .bind (.look fun _ _ _ _ => trivial) fun found => ?_
  cases found with
  | some campaign => exact .pure fun _ _ _ => id
  | none => exact .raise fun _ _ _ _ => trivial

/-- The request as a whole, from its first query to its answer. -/
theorem leads_ingestLeads
    {deployment : Deployment}
    {organization : String} :
    Leads opening (ingestLeads deployment organization campaignId leads)
      (truthful deployment.services campaignId leads) fun _ => .top := by
  have each : Leads (recorded deployment.services campaignId [] {})
      (ingestEach deployment.services campaignId leads {})
      (recorded deployment.services campaignId leads) fun _ => .top :=
    leads_ingestEach
  have opened : Leads opening (ingestEach deployment.services campaignId leads {})
      (recorded deployment.services campaignId leads) fun _ => .top :=
    each.strengthen fun _ _ _ holds =>
      ⟨holds.1, fun _ member => (List.not_mem_nil member).elim, .nil⟩
  have body : Leads opening (do
        let _ ← getCampaignOr404 organization campaignId
        let report ← ingestEach deployment.services campaignId leads {}
        commit
        pure report)
      (truthful deployment.services campaignId leads) fun _ => .top :=
    .bind leads_getCampaignOr404 fun _ => .bind opened fun report =>
      .bind leads_commit fun _ => .pure fun _ _ _ => id
  refine body.session fun result pending store session holds _ => ?_
  cases result with
  | ok report => exact holds
  | error failure => trivial

end Ingestion

/-- In every run of `ingest_leads` among others that returns a report, and in which no
insertion is rejected after an accepted one: every created entry names a contact that
exists, and every lead is reported once. -/
theorem ingest_reports_truthfully
    (deployment : Deployment)
    (organization : String)
    (campaignId : Nat)
    (leads : List (List (String × LeadValue)))
    (before after : Database)
    (final : Session Change)
    (report : IngestReport)
    (waiting : List Change)
    (served : Served ingesting before {}
      (ingestLeads deployment organization campaignId leads []) after final
      (.ok report, waiting)) :
    Present campaignId report after ∧ EachReported deployment.services leads report :=
  leads_ingestLeads [] before {} after final (.ok report) waiting ⟨rfl, rfl⟩ served

namespace Sample

/-- Two leads of a request. -/
def twoLeads : List (List (String × LeadValue)) :=
  [[("email", .text "p@x.test")], [("email", .text "q@x.test")]]

/-- The request that ingests them. -/
def ingestion : Thread Database Change Signal Signal.Reply
    (Except Failure IngestReport × List Change) :=
  ⟨ingestLeads Sample.deployment "acme" 0 twoLeads [], {}⟩

/-- A step in which everything works. -/
def works : Stimulus Signal Signal.Reply where
  answer := answer

/-- Every step is considered. -/
def anyStep {Value : Type} :
    Database → Thread Database Change Signal Signal.Reply Value →
    Stimulus Signal Signal.Reply → Bool :=
  fun _ _ _ => true

/-- No statement violates a constraint. -/
def clean {Value : Type} :
    Database → Thread Database Change Signal Signal.Reply Value →
    Stimulus Signal Signal.Reply → Bool :=
  fun database thread stimulus =>
    match thread.process with
    | .statement run _ =>
        match (runStatement Change.apply database thread.session stimulus.fault run).1 with
        | .violated => false
        | _ => true
    | _ => true

theorem considers_anyStep
    {Value : Type}
    (database : Database)
    (thread : Thread Database Change Signal Signal.Reply Value)
    (stimulus : Stimulus Signal Signal.Reply)
    (_ : anyStep database thread stimulus = true) :
    Served.Considers alongside database thread stimulus := by
  unfold Served.Considers
  split <;> trivial

theorem considers_clean
    {Value : Type}
    (database : Database)
    (thread : Thread Database Change Signal Signal.Reply Value)
    (stimulus : Stimulus Signal Signal.Reply)
    (considered : clean database thread stimulus = true) :
    Served.Considers ingesting database thread stimulus := by
  unfold Served.Considers
  unfold clean at considered
  split
  · next run next process =>
      intro violated
      have rejected : (runStatement Change.apply database thread.session stimulus.fault run).1 =
          .violated := violated
      rw [process] at considered
      simp only [rejected] at considered
      cases considered
  · trivial
  · trivial
  · trivial

/-- A request that has ended with a report of created leads. -/
def reports
    (created : List String)
    (done : Thread Database Change Signal Signal.Reply
      (Except Failure IngestReport × List Change)) : Bool :=
  done.finished.any fun result => result.1.toOption.map IngestReport.created == some created

theorem exists_report
    {created : List String}
    {done : Thread Database Change Signal Signal.Reply
      (Except Failure IngestReport × List Change)}
    (reported : reports created done = true) :
    ∃ report waiting, done.finished = some (.ok report, waiting) ∧
      report.created = created := by
  obtain ⟨⟨result, waiting⟩, finished, same⟩ := (Option.any_eq_true _ _).mp reported
  cases result with
  | error failure => cases beq_iff_eq.mp same
  | ok report => exact ⟨report, waiting, finished, Option.some.inj (beq_iff_eq.mp same)⟩

/-- A new campaign. -/
def newCampaign : List Action := perform 0 (.createCampaign "acme" campaign) answer 3

/-- Another request adds the second lead to the campaign. -/
def otherRequest : List Action :=
  perform 1 (.ingestLeads "acme" 0 [[("email", .text "q@x.test")]]) answer 6

end Sample

/-- The request inserts its first lead and finds that the second one is not there yet. Then
the other request commits it: the insertion of the second lead is rejected, the first one
is taken back, and the report names it as created. -/
theorem ingest_report_untruthful :
    ∃ before meanwhile after final report waiting,
      (system Sample.deployment).Reachable before ∧
      (system Sample.deployment).Reaches before meanwhile ∧
      Served alongside before.database {}
        (ingestLeads Sample.deployment "acme" 0 Sample.twoLeads []) after final
        (.ok report, waiting) ∧
      report.created = ["p@x.test"] ∧ ¬Present 0 report after := by
  obtain ⟨before, reachable, ran⟩ := reachable_of_any Sample.deployment Sample.newCampaign
    (fun before => ((system Sample.deployment).run before Sample.otherRequest).any
      fun meanwhile =>
        (Sample.ingestion.steps Change.apply Sample.anyStep before.database
            (List.replicate 6 Sample.works)).any fun (database, thread) =>
          decide (database = before.database) &&
            (thread.steps Change.apply Sample.anyStep meanwhile.database
              (List.replicate 4 Sample.works)).any fun (after, done) =>
                Sample.reports ["p@x.test"] done &&
                  !after.contacts.existsWhere fun contact => contact.email == "p@x.test")
    (by decide +kernel)
  obtain ⟨meanwhile, reaches, began⟩ := Transition.System.exists_reaches_of_run ran
  obtain ⟨⟨database, thread⟩, first, continued⟩ := (Option.any_eq_true _ _).mp began
  obtain ⟨unchanged, ended⟩ := Bool.and_eq_true_iff.mp continued
  obtain rfl := of_decide_eq_true unchanged
  obtain ⟨⟨after, done⟩, second, checked⟩ := (Option.any_eq_true _ _).mp ended
  obtain ⟨reported, absent⟩ := Bool.and_eq_true_iff.mp checked
  obtain ⟨report, waiting, finished, created⟩ := Sample.exists_report reported
  have rest := (Served.of_finished Sample.considers_anyStep second finished).of_others
    (extends_of_reaches reachable reaches)
  refine ⟨before, meanwhile, after, _, report, waiting, reachable, reaches,
    Served.of_steps Sample.considers_anyStep first rest, created, ?_⟩
  intro present
  obtain ⟨key, contact, found, -, address⟩ :=
    present "p@x.test" (created ▸ List.mem_singleton_self _)
  rw [Bool.not_eq_true'] at absent
  have missing := Table.existsWhere_eq_false absent found
  rw [address, beq_self_eq_true] at missing
  cases missing

/-- Without another request both leads are created. -/
theorem ingest_report_of_alone :
    ∃ before after report,
      (system Sample.deployment).Reachable before ∧ report.created = ["p@x.test", "q@x.test"] ∧
      Present 0 report after ∧
      EachReported Sample.deployment.services Sample.twoLeads report := by
  obtain ⟨before, reachable, ran⟩ := reachable_of_any Sample.deployment Sample.newCampaign
    (fun before =>
      (Sample.ingestion.steps Change.apply Sample.clean before.database
          (List.replicate 9 Sample.works)).any fun (_, done) =>
        Sample.reports ["p@x.test", "q@x.test"] done)
    (by decide +kernel)
  obtain ⟨⟨after, done⟩, stepped, reported⟩ := (Option.any_eq_true _ _).mp ran
  obtain ⟨report, waiting, finished, created⟩ := Sample.exists_report reported
  exact ⟨before, after, report, reachable, created,
    ingest_reports_truthfully Sample.deployment "acme" 0 Sample.twoLeads before.database after
      done.session report waiting (Served.of_finished Sample.considers_clean stepped finished)⟩

end MailerAgent
