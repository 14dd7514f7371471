import MailerAgent.Native.Credentials
import MailerAgent.World.Inbound
import MailerAgent.World.Operations

/-!
# The pairing of IMAP credentials

The four IMAP columns of a mailbox are always all NULL or all set, however the requests
that configure it overlap. The stored password belongs to the stored host and username as
long as no request commits a new configuration while another request that carries a
password is in progress on the same mailbox: the latter would write its password to a
target that it never saw.
-/

namespace MailerAgent

open Concurrent Relational Dispatch Intake Native

/-! ## What was offered for a mailbox -/

/-- The schema accepts the payload of a request. -/
def Action.accepted : Action → Bool
  | .start _ (.createMailbox _ payload) => payload.imapAllOrNone
  | .start _ (.updateMailbox _ _ payload) => payload.imapConfigAllOrNone
  | _ => true

/-- Whether a request that is about to read the mailbox rotates its password, and the
row has the host and the username of a mailbox. -/
def Running.rotates
    (services : Services)
    (mailbox : Mailbox)
    (database : Database)
    (running : Running) : Bool :=
  match running.operation, running.thread.process with
  | .updateMailbox organization publicReference payload, .statement run _ =>
      run database == some [] && payload.imapHost.isNone &&
        payload.imapPassword.bind services.encryptSecret == mailbox.imapPasswordEnc &&
        organization == mailbox.organizationId && publicReference == mailbox.publicReference &&
        (ownedMailbox organization publicReference database).any fun found =>
          found.2.imapHost == mailbox.imapHost && found.2.imapUsername == mailbox.imapUsername
  | _, _ => false

/-- Whether the password of a mailbox was supplied in a step of a run: together with its
host, port and username, or as a rotation by a request that saw the host and the
username. -/
def supplied
    (services : Services)
    (mailbox : Mailbox)
    (entry : World × Action) : Bool :=
  match entry.2 with
  | .start _ (.createMailbox organization payload) =>
      organization == mailbox.organizationId && payload.emailAddress == mailbox.emailAddress &&
        (payload.imapHost, payload.imapPort, payload.imapUsername) == mailbox.imapTarget &&
        payload.imapPassword.bind services.encryptSecret == mailbox.imapPasswordEnc
  | .start _ (.updateMailbox organization publicReference payload) =>
      organization == mailbox.organizationId && publicReference == mailbox.publicReference &&
        (payload.imapHost, payload.imapPort, payload.imapUsername) == mailbox.imapTarget &&
        payload.imapPassword.bind services.encryptSecret == mailbox.imapPasswordEnc
  | .native number _ =>
      (entry.1.natives number).any (Running.rotates services mailbox entry.1.database)
  | _ => false

/-- A step that commits a new IMAP configuration of a mailbox is taken while no other
request that carries an IMAP password is in progress on the mailbox. -/
def Unrivalled (entry : World × Action) : Prop :=
  ∀ number stimulus running organization publicReference payload rest,
    entry.2 = .native number stimulus →
    entry.1.natives number = some running →
    running.operation = .updateMailbox organization publicReference payload →
    payload.imapHost.isSome = true →
    running.thread.process = .commit rest →
    ∀ other request otherPayload, other ≠ number →
      entry.1.natives other = some request →
      request.operation = .updateMailbox organization publicReference otherPayload →
      otherPayload.imapPassword.isSome = true →
      ∃ value, request.thread.process = .done value

/-- The columns that say whose mailbox it is are written once. -/
structure SameMailbox (before after : Mailbox) : Prop where
  publicReference : after.publicReference = before.publicReference
  organizationId : after.organizationId = before.organizationId
  emailAddress : after.emailAddress = before.emailAddress

theorem SameMailbox.of_patch
    (patch : MailboxPatch)
    (mailbox : Mailbox) :
    SameMailbox mailbox (patch.apply mailbox) :=
  ⟨rfl, rfl, rfl⟩

/-- What was supplied for a mailbox depends on its IMAP columns only. -/
theorem supplied_congr
    {services : Services}
    {before after : Mailbox}
    {entry : World × Action}
    (same : SameMailbox before after)
    (target : after.imapTarget = before.imapTarget)
    (password : after.imapPasswordEnc = before.imapPasswordEnc) :
    supplied services after entry = supplied services before entry := by
  have columns := target
  simp only [Mailbox.imapTarget, Prod.mk.injEq] at columns
  unfold supplied Running.rotates
  rw [same.publicReference, same.organizationId, same.emailAddress, target, password,
    columns.1, columns.2.2]

/-! ## Requests that are in progress -/

section Progress

variable {deployment : Deployment} {past : List (World × Action)} {before after : Database}
variable {organization publicReference : String} {payload : MailboxUpdate}
variable {update : PendingUpdate}

/-- The step of a run in which a request read its mailbox. -/
structure Read
    (organization publicReference : String)
    (payload : MailboxUpdate)
    (mailbox : Mailbox)
    (entry : World × Action) : Prop where
  step : ∃ number stimulus running run rest key, entry.2 = .native number stimulus ∧
    entry.1.natives number = some running ∧
    running.operation = .updateMailbox organization publicReference payload ∧
    running.thread.process = .statement run rest ∧ run entry.1.database = some [] ∧
    ownedMailbox organization publicReference entry.1.database = some (key, mailbox)

/-- A rotation is offered to the host and the username that its request read. -/
theorem Read.supplied
    {services : Services}
    {mailbox row : Mailbox}
    {entry : World × Action}
    (read : Read organization publicReference payload mailbox entry)
    (rotates : payload.imapHost = none)
    (owner : row.organizationId = organization)
    (reference : row.publicReference = publicReference)
    (target : row.imapTarget = mailbox.imapTarget)
    (password : row.imapPasswordEnc = payload.imapPassword.bind services.encryptSecret) :
    supplied services row entry = true := by
  obtain ⟨number, stimulus, running, run, rest, key, steps, found, requests, statement, selects,
    owned⟩ := read.step
  simp only [Mailbox.imapTarget, Prod.mk.injEq] at target
  have rotating : running.rotates services row entry.1.database = true := by
    unfold Running.rotates
    rw [requests, statement]
    simp [selects, rotates, password, owner, reference, owned, target.1, target.2.2]
  unfold MailerAgent.supplied
  rw [steps]
  dsimp only
  rw [found]
  exact rotating

/-- What is known of the row that a request has read and is going to write. Without
disturbance its IMAP target is the one that the request read. -/
structure Loaded
    (past : List (World × Action))
    (database : Database)
    (organization publicReference : String)
    (payload : MailboxUpdate)
    (update : PendingUpdate) : Prop where
  read : ∃ entry ∈ past, Read organization publicReference payload update.mailbox entry
  whole : update.mailbox.imapAllOrNone = true
  row : ∃ current, database.mailboxes.get update.key = some current ∧
    current.publicReference = publicReference ∧ current.organizationId = organization ∧
    (update.mailbox.imapHost.isSome = true → current.imapHost.isSome = true) ∧
    ((∀ entry ∈ past, Unrivalled entry) → payload.imapPassword.isSome = true →
      current.imapTarget = update.mailbox.imapTarget)

/-- How an update has come this far. -/
def Updating
    (deployment : Deployment)
    (past : List (World × Action))
    (database : Database)
    (organization publicReference : String)
    (payload : MailboxUpdate)
    (thread : NativeThread) : Prop :=
  ∃ pending, UpdatePhase deployment organization publicReference payload thread pending ∧
    ∀ update, pending = some update →
      Loaded past database organization publicReference payload update

/-- What is true of a running operation. -/
structure Conforms
    (deployment : Deployment)
    (past : List (World × Action))
    (database : Database)
    (running : Running) : Prop where
  other : ¬running.operation.Configures →
    running.thread.Confined (withPlain serving)
  creates : ∀ organization payload, running.operation = .createMailbox organization payload →
    running.thread.Confined (creating deployment.services organization payload)
  updates : ∀ organization publicReference payload,
    running.operation = .updateMailbox organization publicReference payload →
    Updating deployment past database organization publicReference payload running.thread

theorem Conforms.start
    {current : Database}
    (database : Database)
    (position : Nat)
    (operation : Operation) :
    Conforms deployment past current (.start deployment database position operation) where
  other := Operation.confined
  creates := by
    rintro organization payload rfl
    exact confined_createMailbox.start
  updates := by
    rintro organization publicReference payload rfl
    exact ⟨none, .fresh, fun update absent => (Option.some_ne_none update absent.symm).elim⟩

/-- More of a run has passed, and a row is as before or has been updated. -/
theorem Loaded.later
    {entry : World × Action}
    (loaded : Loaded past before organization publicReference payload update)
    (row : ∀ current, before.mailboxes.get update.key = some current →
      ∃ next, after.mailboxes.get update.key = some next ∧ SameMailbox current next ∧
        (current.imapHost.isSome = true → next.imapHost.isSome = true) ∧
        ((∀ other ∈ past ++ [entry], Unrivalled other) →
          payload.imapPassword.isSome = true → next.imapTarget = current.imapTarget)) :
    Loaded (past ++ [entry]) after organization publicReference payload update where
  read := by
    obtain ⟨read, member, reads⟩ := loaded.read
    exact ⟨read, List.mem_append_left _ member, reads⟩
  whole := loaded.whole
  row := by
    obtain ⟨current, found, reference, owner, configured, unchanged⟩ := loaded.row
    obtain ⟨next, foundNext, same, stays, keeps⟩ := row current found
    refine ⟨next, foundNext, same.publicReference.trans reference,
      same.organizationId.trans owner, fun set => stays (configured set), ?_⟩
    intro unrivalled supplies
    refine (keeps unrivalled supplies).trans (unchanged ?_ supplies)
    exact fun other member => unrivalled other (List.mem_append_left _ member)

/-- The time of the flush is not what the request read. -/
theorem Loaded.dated
    (loaded : Loaded past before organization publicReference payload update)
    (now : Instant) :
    Loaded past before organization publicReference payload (update.dated now) where
  read := loaded.read
  whole := loaded.whole
  row := loaded.row

/-- The mailboxes are those before. -/
theorem Loaded.same
    {entry : World × Action}
    (loaded : Loaded past before organization publicReference payload update)
    (same : after.mailboxes = before.mailboxes) :
    Loaded (past ++ [entry]) after organization publicReference payload update := by
  refine loaded.later fun current found => ⟨current, ?_, ⟨rfl, rfl, rfl⟩, id, fun _ _ => rfl⟩
  rw [same]
  exact found

end Progress

/-! ## Steps -/

section Steps

variable {deployment : Deployment} {past : List (World × Action)} {before after : World}
variable {action : Action}

/-- What a step does to the rows of mailboxes. -/
inductive MailboxStep
    (deployment : Deployment)
    (past : List (World × Action))
    (before : World)
    (action : Action)
    (after : World) : Prop where
  | same (unchanged : after.database.mailboxes = before.database.mailboxes)
  | created
      (organization : String)
      (payload : MailboxCreate)
      (started : ∃ state number,
        (state, Action.start number (.createMailbox organization payload)) ∈ past)
      (inserted : Inserted deployment.services organization payload before.database
        after.database)
  | updated
      (number : Nat)
      (stimulus : Stimulus Signal Signal.Reply)
      (running : Running)
      (organization publicReference : String)
      (payload : MailboxUpdate)
      (rest : Bool → OperationScript)
      (update : PendingUpdate)
      (steps : action = .native number stimulus)
      (found : before.natives number = some running)
      (requests : running.operation = .updateMailbox organization publicReference payload)
      (commits : running.thread.process = .commit rest)
      (rewrites : Rewrites deployment.services payload update.mailbox update.patch)
      (loaded : Loaded past before.database organization publicReference payload update)
      (written : after.database = before.database.modifyMailbox update.key update.patch.apply)

theorem mailboxes_of_step
    (run : (system deployment).Run past before)
    (operations : ∀ number running, before.natives number = some running →
      Conforms deployment past before.database running)
    (stepped : before.step deployment action = some after) :
    MailboxStep deployment past before action after := by
  rcases database_of_step run.reachable stepped with
    edits | ⟨number, stimulus, old, thread, asked, rfl, found, advanced, -⟩
  · exact .same edits.untouched.1
  have conforms := operations number old found
  by_cases configures : old.operation.Configures
  · cases operation : old.operation with
    | createMailbox organization payload =>
        rcases (conforms.creates organization payload operation).commits advanced with
          same | ⟨writes, kinds, applied⟩
        · exact .same (congrArg Database.mailboxes same)
        · obtain ⟨state, member⟩ := started_of_run run found
          rw [operation] at member
          exact .created organization payload ⟨state, number, member⟩
            (inserted_of_creating kinds applied)
    | updateMailbox organization publicReference payload =>
        obtain ⟨pending, phase, loaded⟩ :=
          conforms.updates organization publicReference payload operation
        obtain ⟨later, next, move⟩ := phase.step advanced
        generalize written : after.database = database at move
        cases move with
        | reads | dates | goes | drops => exact .same (congrArg Database.mailboxes written)
        | commits update commits =>
            exact .updated number stimulus old organization publicReference payload _ update
              rfl found operation commits phase.rewrites (loaded update rfl) written
    | _ => rw [operation] at configures; exact configures.elim
  · rcases (conforms.other configures).commits advanced with same | ⟨writes, kinds, applied⟩
    · exact .same (congrArg Database.mailboxes same)
    · exact .same (mailboxes_of_serving kinds applied)

/-- What a request has read stays known, while other operations take their steps. -/
theorem Loaded.step
    {organization publicReference : String}
    {payload : MailboxUpdate}
    {update : PendingUpdate}
    {other : Nat}
    {request : Running}
    (step : MailboxStep deployment past before action after)
    (loaded : Loaded past before.database organization publicReference payload update)
    (found : before.natives other = some request)
    (requests : request.operation = .updateMailbox organization publicReference payload)
    (busy : ∀ value, request.thread.process ≠ .done value)
    (elsewhere : ∀ stimulus, action ≠ .native other stimulus) :
    Loaded (past ++ [(before, action)]) after.database organization publicReference payload
      update := by
  cases step with
  | same unchanged => exact loaded.same unchanged
  | created otherOrganization otherPayload started inserted =>
      refine loaded.later fun current foundRow => ?_
      exact ⟨current, inserted.kept _ _ foundRow, ⟨rfl, rfl, rfl⟩, id, fun _ _ => rfl⟩
  | updated number stimulus running otherOrganization otherReference otherPayload rest written
      steps foundOther requestsOther commits rewrites loadedOther changed =>
      rw [changed]
      refine loaded.later fun current foundRow => ?_
      by_cases here : written.key = update.key
      · refine ⟨written.patch.apply current, ?_, .of_patch _ _, MailboxPatch.imapHost_isSome,
          ?_⟩
        · change (before.database.mailboxes.modify written.key _).get update.key = _
          rw [here, Table.get_modify_self, foundRow]
          rfl
        · intro unrivalled supplies
          cases sets : otherPayload.imapHost with
          | none => exact rewrites.imapTarget_of_rotation sets
          | some host =>
              obtain ⟨row, foundRowToo, reference, owner, -⟩ := loaded.row
              obtain ⟨rowOther, foundOtherRow, referenceOther, ownerOther, -⟩ :=
                loadedOther.row
              rw [here] at foundOtherRow
              obtain rfl : rowOther = row :=
                Option.some.inj (foundOtherRow.symm.trans foundRowToo)
              rw [← referenceOther, reference, ← ownerOther, owner] at requestsOther
              have different : other ≠ number := by
                rintro rfl
                exact elsewhere stimulus steps
              obtain ⟨value, ended⟩ := unrivalled (before, action)
                (List.mem_append_right _ (List.mem_singleton.mpr rfl)) number stimulus running
                organization publicReference otherPayload rest steps foundOther requestsOther
                (by rw [sets]; rfl) commits other request payload different found requests
                supplies
              exact absurd ended (busy value)
      · refine ⟨current, ?_, ⟨rfl, rfl, rfl⟩, id, fun _ _ => rfl⟩
        change (before.database.mailboxes.modify written.key _).get update.key = _
        rw [Table.get_modify_of_ne _ _ (Ne.symm here)]
        exact foundRow

/-- The rows after a step are whole. -/
theorem MailboxStep.imapAllOrNone
    (step : MailboxStep deployment past before action after)
    (accepted : ∀ entry ∈ past, entry.2.accepted = true)
    (run : (system deployment).Run past before)
    (rows : ∀ key mailbox, before.database.mailboxes.get key = some mailbox →
      mailbox.imapAllOrNone = true)
    {key : Nat}
    {mailbox : Mailbox}
    (found : after.database.mailboxes.get key = some mailbox) :
    mailbox.imapAllOrNone = true := by
  cases step with
  | same unchanged =>
      rw [unchanged] at found
      exact rows key mailbox found
  | created organization payload started inserted =>
      rcases inserted.origin key mailbox found with earlier | created
      · exact rows key mailbox earlier
      · obtain ⟨state, number, member⟩ := started
        obtain ⟨port, username, password⟩ := payload.sets_of_allOrNone (accepted _ member)
        have target := created.target
        simp only [Mailbox.imapTarget, Prod.mk.injEq] at target
        rw [Mailbox.imapAllOrNone_iff, target.1, target.2.1, target.2.2,
          created.password.present]
        exact ⟨port, username, password⟩
  | updated number stimulus running organization publicReference payload rest update
      steps foundRunning requests commits rewrites loaded written =>
      rw [written] at found
      obtain ⟨old, foundOld, rfl⟩ := Table.get_modify_cases found
      split
      · next here =>
          obtain ⟨state, member⟩ := started_of_run run foundRunning
          rw [requests] at member
          obtain ⟨current, foundCurrent, -, -, configured, -⟩ := loaded.row
          rw [← here] at foundCurrent
          obtain rfl : current = old := Option.some.inj (foundCurrent.symm.trans foundOld)
          exact rewrites.imapAllOrNone (accepted _ member) loaded.whole
            (rows key current foundOld) configured
      · exact rows key old foundOld

/-- The password of every row after an unrivalled step was supplied for it. -/
theorem MailboxStep.supplied
    (step : MailboxStep deployment past before action after)
    (accepted : ∀ entry ∈ past, entry.2.accepted = true)
    (run : (system deployment).Run past before)
    (unrivalled : ∀ entry ∈ past, Unrivalled entry)
    (rows : ∀ key mailbox, before.database.mailboxes.get key = some mailbox →
      mailbox.imapPasswordEnc.isSome = true →
      ∃ entry ∈ past, supplied deployment.services mailbox entry = true)
    {key : Nat}
    {mailbox : Mailbox}
    (found : after.database.mailboxes.get key = some mailbox)
    (stored : mailbox.imapPasswordEnc.isSome = true) :
    ∃ entry ∈ past, supplied deployment.services mailbox entry = true := by
  cases step with
  | same unchanged =>
      rw [unchanged] at found
      exact rows key mailbox found stored
  | created organization payload started inserted =>
      rcases inserted.origin key mailbox found with earlier | created
      · exact rows key mailbox earlier stored
      · obtain ⟨state, number, member⟩ := started
        refine ⟨_, member, ?_⟩
        simp [MailerAgent.supplied, created.organizationId, created.emailAddress,
          created.target, created.password.encrypts]
  | updated number stimulus running organization publicReference payload rest update
      steps foundRunning requests commits rewrites loaded written =>
      rw [written] at found
      obtain ⟨old, foundOld, rfl⟩ := Table.get_modify_cases found
      split at stored
      · next here =>
          rw [if_pos here]
          obtain ⟨state, member⟩ := started_of_run run foundRunning
          rw [requests] at member
          obtain ⟨current, foundCurrent, reference, owner, -, unchanged⟩ := loaded.row
          rw [← here] at foundCurrent
          obtain rfl : current = old := Option.some.inj (foundCurrent.symm.trans foundOld)
          have unchanged := unchanged unrivalled
          cases supplies : payload.imapPassword with
          | none =>
              have rotates : payload.imapHost = none := by
                cases sets : payload.imapHost with
                | none => rfl
                | some host =>
                    have given := (payload.sets_of_allOrNone (accepted _ member)
                      (by rw [sets]; rfl)).2.2
                    rw [supplies] at given
                    cases given
              have password : (update.patch.apply current).imapPasswordEnc = _ :=
                rewrites.imapPasswordEnc_of_omitted supplies
              rw [password] at stored
              obtain ⟨entry, earlier, offered⟩ := rows key current foundOld stored
              refine ⟨entry, earlier, ?_⟩
              rw [supplied_congr (.of_patch _ _) (rewrites.imapTarget_of_rotation rotates)
                password]
              exact offered
          | some secret =>
              have supplied : payload.imapPassword.isSome = true := by rw [supplies]; rfl
              have same := SameMailbox.of_patch update.patch current
              have password : (update.patch.apply current).imapPasswordEnc = _ :=
                rewrites.imapPasswordEnc_of_supplied supplied
              cases sets : payload.imapHost with
              | none =>
                  obtain ⟨entry, read, reads⟩ := loaded.read
                  refine ⟨entry, read, reads.supplied sets ?_ ?_ ?_ ?_⟩
                  · exact same.organizationId.trans owner
                  · exact same.publicReference.trans reference
                  · exact (rewrites.imapTarget_of_rotation sets).trans (unchanged supplied)
                  · exact password
              | some host =>
                  have target := rewrites.imapTarget_of_configuration (accepted _ member)
                    (by rw [sets]; rfl) (unchanged supplied)
                  refine ⟨_, member, ?_⟩
                  simp [MailerAgent.supplied, same.organizationId, same.publicReference, owner,
                    reference, target, password]
      · next elsewhere =>
          rw [if_neg elsewhere]
          exact rows key old foundOld stored

/-- An operation that took no step is as before. -/
theorem Conforms.kept
    {number : Nat}
    {running : Running}
    (conforms : Conforms deployment past before.database running)
    (step : MailboxStep deployment past before action after)
    (found : before.natives number = some running)
    (elsewhere : ∀ stimulus, action ≠ .native number stimulus) :
    Conforms deployment (past ++ [(before, action)]) after.database running where
  other := conforms.other
  creates := conforms.creates
  updates organization publicReference payload requests := by
    obtain ⟨pending, phase, loaded⟩ :=
      conforms.updates organization publicReference payload requests
    refine ⟨pending, phase, ?_⟩
    rintro update rfl
    exact (loaded update rfl).step step found requests phase.not_done elsewhere

/-- An operation that took the step has come further. -/
theorem Conforms.stepped
    {number : Nat}
    {stimulus : Stimulus Signal Signal.Reply}
    {old running : Running}
    {thread : NativeThread}
    {asked : Option Signal}
    (conforms : Conforms deployment past before.database old)
    (rows : ∀ key mailbox, before.database.mailboxes.get key = some mailbox →
      mailbox.imapAllOrNone = true)
    (found : before.natives number = some old)
    (advanced : old.thread.step Change.apply before.database stimulus =
      some (after.database, thread, asked))
    (same : running.operation = old.operation)
    (moved : running.thread = thread) :
    Conforms deployment (past ++ [(before, .native number stimulus)]) after.database
      running where
  other configures := by
    rw [same] at configures
    rw [moved]
    exact ((conforms.other configures).step advanced).1
  creates organization payload requests := by
    rw [same] at requests
    rw [moved]
    exact ((conforms.creates organization payload requests).step advanced).1
  updates organization publicReference payload requests := by
    rw [same] at requests
    rw [moved]
    obtain ⟨pending, phase, loaded⟩ :=
      conforms.updates organization publicReference payload requests
    obtain ⟨later, next, move⟩ := phase.step advanced
    refine ⟨later, next, ?_⟩
    rintro update rfl
    generalize written : after.database = database at move
    cases move with
    | goes => exact (loaded update rfl).same rfl
    | dates loading now => exact ((loaded loading rfl).dated now).same rfl
    | reads _ statement selects owned =>
        obtain ⟨stored, reference, owner⟩ := ownedMailbox_eq_some owned
        exact
          { read := ⟨_, List.mem_append_right _ (List.mem_singleton.mpr rfl),
              ⟨number, stimulus, old, _, _, update.key, rfl, found, requests, statement,
                selects, owned⟩⟩
            whole := rows _ _ stored
            row := ⟨_, stored, reference, owner, id, fun _ _ => rfl⟩ }

end Steps

/-! ## Runs -/

section Runs

variable {deployment : Deployment} {past : List (World × Action)} {world : World}

/-- What is true of every state of a run. -/
structure Configured
    (deployment : Deployment)
    (past : List (World × Action))
    (world : World) : Prop where
  operations : ∀ number running, world.natives number = some running →
    Conforms deployment past world.database running
  rows : ∀ key mailbox, world.database.mailboxes.get key = some mailbox →
    mailbox.imapAllOrNone = true
  offered : (∀ entry ∈ past, Unrivalled entry) →
    ∀ key mailbox, world.database.mailboxes.get key = some mailbox →
      mailbox.imapPasswordEnc.isSome = true →
      ∃ entry ∈ past, supplied deployment.services mailbox entry = true

theorem Configured.of_run
    (run : (system deployment).Run past world)
    (accepted : ∀ entry ∈ past, entry.2.accepted = true) :
    Configured deployment past world := by
  induction run with
  | start initial =>
      obtain ⟨clock, rfl⟩ := initial
      exact
        { operations := fun _ _ found => (Option.some_ne_none _ found.symm).elim
          rows := fun _ _ found => Table.not_found_empty found
          offered := fun _ _ _ found => Table.not_found_empty found }
  | @step past before after action earlier stepped inductionHypothesis =>
      have passed : ∀ entry ∈ past, entry.2.accepted = true :=
        fun entry member => accepted entry (List.mem_append_left _ member)
      have configured := inductionHypothesis passed
      have step := mailboxes_of_step earlier configured.operations stepped
      refine
        { operations := ?_
          rows := fun key mailbox => step.imapAllOrNone passed earlier configured.rows
          offered := ?_ }
      · intro number running found
        cases operation_of_step stepped found with
        | kept foundOld elsewhere =>
            exact (configured.operations number running foundOld).kept step foundOld elsewhere
        | started operation starts fresh =>
            subst fresh
            exact .start _ _ _
        | stepped stimulus old thread asked steps foundOld advanced next =>
            subst steps next
            exact (configured.operations number old foundOld).stepped configured.rows foundOld
              advanced rfl rfl
      · intro unrivalled key mailbox found stored
        have before := fun entry member => unrivalled entry (List.mem_append_left _ member)
        obtain ⟨entry, member, offered⟩ := step.supplied passed earlier before
          (configured.offered before) found stored
        exact ⟨entry, List.mem_append_left _ member, offered⟩

end Runs

/-- In every state of every run with payloads that the schema accepts, the IMAP columns of
a mailbox are all NULL or all set. If no step of the run commits a new IMAP configuration
while another request with an IMAP password is in progress on the mailbox, the stored
password was supplied with the stored host, port and username, or as a rotation by a
request that saw the stored host and username. -/
theorem imap_credentials_paired
    (deployment : Deployment)
    (past : List (World × Action))
    (world : World)
    (run : (system deployment).Run past world)
    (accepted : ∀ entry ∈ past, entry.2.accepted = true) :
    (∀ key mailbox, world.database.mailboxes.get key = some mailbox →
      mailbox.imapAllOrNone = true) ∧
    ((∀ entry ∈ past, Unrivalled entry) →
      ∀ key mailbox, world.database.mailboxes.get key = some mailbox →
        mailbox.imapPasswordEnc.isSome = true →
        ∃ entry ∈ past, supplied deployment.services mailbox entry = true) :=
  have configured := Configured.of_run run accepted
  ⟨configured.rows, configured.offered⟩

namespace Sample

/-- A request that rotates the IMAP password. -/
def rotation : Operation :=
  .updateMailbox "acme" "reference" { imapPassword := some "rotated" }

/-- A request that moves the mailbox to another server. -/
def relocation : Operation :=
  .updateMailbox "acme" "reference"
    { imapHost := some "imap.other.test", imapPort := some 993, imapUsername := some "out"
      imapPassword := some "new secret" }

/-- A mailbox is created and its password rotated. -/
def rotated : List Action :=
  perform 0 (.createMailbox "acme" polledMailbox) answer 6 ++ perform 1 rotation answer 5

/-- A relocation commits between the read and the commit of a rotation. -/
def relocatedDuringRotation : List Action :=
  perform 0 (.createMailbox "acme" polledMailbox) answer 6 ++ perform 1 rotation answer 1 ++
    perform 2 relocation answer 5 ++ List.replicate 4 (proceed 1)

/-- Whether a step is one of a request that sets the IMAP configuration. -/
def configures (entry : World × Action) : Bool :=
  match entry.2 with
  | .native number _ => (entry.1.natives number).any fun running =>
      match running.operation with
      | .updateMailbox _ _ payload => payload.imapHost.isSome
      | _ => false
  | _ => false

theorem unrivalled_of_not_configures
    {entry : World × Action}
    (rotates : configures entry = false) :
    Unrivalled entry := by
  intro number stimulus running organization publicReference payload rest steps found requests
    sets
  unfold configures at rotates
  rw [steps] at rotates
  dsimp only at rotates
  rw [found, Option.any_some, requests] at rotates
  exact absurd sets (by simp [rotates])

/-- The only mailbox. -/
def credentials (world : World) : Option (Option String × Option String) :=
  (world.database.mailboxes.get 0).map fun mailbox =>
    (mailbox.imapHost, mailbox.imapPasswordEnc)

end Sample

/-- The password of a rotation ends up with the server of a relocation that its request
never saw: no step of the run supplied it for that server. -/
theorem imap_password_misdirected :
    ∃ past world, (system Sample.deployment).Run past world ∧
      (∀ entry ∈ past, entry.2.accepted = true) ∧
      Sample.credentials world = some (some "imap.other.test", some "rotated") ∧
      ∃ mailbox, world.database.mailboxes.get 0 = some mailbox ∧
        mailbox.imapPasswordEnc.isSome = true ∧
        ∀ entry ∈ past, supplied Sample.deployment.services mailbox entry = false := by
  have initial : (system Sample.deployment).initial {} := ⟨0, rfl⟩
  obtain ⟨past, world, run, holds⟩ := Transition.System.exists_run_of_record initial
    Sample.relocatedDuringRotation
    (fun (past, world) => past.all (fun entry => entry.2.accepted) &&
      Sample.credentials world == some (some "imap.other.test", some "rotated") &&
      (world.database.mailboxes.get 0).any fun mailbox => mailbox.imapPasswordEnc.isSome &&
        past.all fun entry => !supplied Sample.deployment.services mailbox entry)
    (by decide +kernel)
  simp only [Bool.and_eq_true, List.all_eq_true, beq_iff_eq, Option.any_eq_true,
    Bool.not_eq_true'] at holds
  obtain ⟨⟨accepted, credentials⟩, mailbox, found, stored, misdirected⟩ := holds
  exact ⟨past, world, run, accepted, credentials, mailbox, found, stored, misdirected⟩

/-- A rotation on its own is a password for the server that the request saw. -/
theorem imap_credentials_paired_of_rotation :
    ∃ past world, (system Sample.deployment).Run past world ∧
      ∃ mailbox, world.database.mailboxes.get 0 = some mailbox ∧
        mailbox.imapPasswordEnc = some "rotated" ∧ mailbox.imapAllOrNone = true ∧
        ∃ entry ∈ past, supplied Sample.deployment.services mailbox entry = true := by
  have initial : (system Sample.deployment).initial {} := ⟨0, rfl⟩
  obtain ⟨past, world, run, holds⟩ := Transition.System.exists_run_of_record initial
    Sample.rotated
    (fun (past, world) => past.all (fun entry => entry.2.accepted) &&
      past.all (fun entry => !Sample.configures entry) &&
      (world.database.mailboxes.get 0).any fun mailbox =>
        mailbox.imapPasswordEnc == some "rotated")
    (by decide +kernel)
  simp only [Bool.and_eq_true, List.all_eq_true, beq_iff_eq, Option.any_eq_true,
    Bool.not_eq_true'] at holds
  obtain ⟨⟨accepted, rotates⟩, mailbox, found, stored⟩ := holds
  obtain ⟨whole, offered⟩ :=
    imap_credentials_paired Sample.deployment past world run accepted
  have unrivalled : ∀ entry ∈ past, Unrivalled entry :=
    fun entry member => Sample.unrivalled_of_not_configures (rotates entry member)
  exact ⟨past, world, run, mailbox, found, stored, whole 0 mailbox found,
    offered unrivalled 0 mailbox found (by rw [stored]; rfl)⟩

end MailerAgent
