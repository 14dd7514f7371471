import MailerAgent.Native.Confinement

/-!
# The credentials of a mailbox

The IMAP columns of a mailbox are its host, port, username and encrypted password. They
are written by the two routes that configure mailboxes: the creation writes a row from
its payload, and an update the columns in which the payload differs from the row that it
read.
-/

namespace MailerAgent

open Concurrent Relational

/-- Host, port and username: what a stored IMAP password is sent to. -/
def Mailbox.imapTarget (mailbox : Mailbox) : Option String × Option Nat × Option String :=
  (mailbox.imapHost, mailbox.imapPort, mailbox.imapUsername)

/-- The four IMAP columns are all NULL or all set. -/
def Mailbox.imapAllOrNone (mailbox : Mailbox) : Bool :=
  mailbox.imapPort.isSome == mailbox.imapHost.isSome &&
    mailbox.imapUsername.isSome == mailbox.imapHost.isSome &&
    mailbox.imapPasswordEnc.isSome == mailbox.imapHost.isSome

theorem Mailbox.imapAllOrNone_iff {mailbox : Mailbox} :
    mailbox.imapAllOrNone = true ↔
      mailbox.imapPort.isSome = mailbox.imapHost.isSome ∧
        mailbox.imapUsername.isSome = mailbox.imapHost.isSome ∧
        mailbox.imapPasswordEnc.isSome = mailbox.imapHost.isSome := by
  unfold Mailbox.imapAllOrNone
  rw [Bool.and_eq_true, Bool.and_eq_true, beq_iff_eq, beq_iff_eq, beq_iff_eq, and_assoc]

namespace Native

open Program

/-! ## Payloads that the schema accepts -/

theorem MailboxCreate.sets_of_allOrNone
    {payload : MailboxCreate}
    (accepted : payload.imapAllOrNone = true) :
    payload.imapPort.isSome = payload.imapHost.isSome ∧
      payload.imapUsername.isSome = payload.imapHost.isSome ∧
      payload.imapPassword.isSome = payload.imapHost.isSome := by
  unfold MailboxCreate.imapAllOrNone at accepted
  cases host : payload.imapHost <;> cases port : payload.imapPort <;>
    cases username : payload.imapUsername <;> cases password : payload.imapPassword <;>
    simp [host, port, username, password] at accepted ⊢

/-- A new IMAP configuration comes with all its columns. -/
theorem MailboxUpdate.sets_of_allOrNone
    {payload : MailboxUpdate}
    (accepted : payload.imapConfigAllOrNone = true)
    (sets : payload.imapHost.isSome = true) :
    payload.imapPort.isSome = true ∧ payload.imapUsername.isSome = true ∧
      payload.imapPassword.isSome = true := by
  unfold MailboxUpdate.imapConfigAllOrNone at accepted
  cases port : payload.imapPort <;> cases username : payload.imapUsername <;>
    cases password : payload.imapPassword <;>
    simp [sets, port, username, password] at accepted ⊢

/-! ## Encryption -/

/-- The ciphertext of a secret, if there is a secret. -/
structure Encrypted
    (services : Services)
    (secret cipher : Option String) : Prop where
  encrypts : cipher = secret.bind services.encryptSecret
  present : cipher.isSome = secret.isSome

theorem confined_encrypted
    {bounds : Bounds Change Signal}
    {services : Services}
    {secret : Option String} :
    Confined bounds (encrypted services secret) (Encrypted services secret) := by
  cases secret with
  | none => exact Confined.pure ⟨rfl, rfl⟩
  | some plain =>
      cases encrypts : services.encryptSecret plain with
      | none =>
          unfold encrypted
          dsimp only
          rw [encrypts]
          exact Confined.raise _
      | some cipher =>
          unfold encrypted
          dsimp only
          rw [encrypts]
          refine Confined.pure ⟨?_, rfl⟩
          exact encrypts.symm

/-! ## Creation -/

/-- The row that a creation inserts. -/
structure Created
    (services : Services)
    (organization : String)
    (payload : MailboxCreate)
    (row : Mailbox) : Prop where
  organizationId : row.organizationId = organization
  emailAddress : row.emailAddress = payload.emailAddress
  target : row.imapTarget = (payload.imapHost, payload.imapPort, payload.imapUsername)
  password : Encrypted services payload.imapPassword row.imapPasswordEnc

/-- A creation inserts nothing else. -/
def creating
    (services : Services)
    (organization : String)
    (payload : MailboxCreate) :
    Bounds Change Signal where
  writes change := ∃ row, change = .insertMailbox row ∧
    Created services organization payload row
  asks _ := True
  transacts := True

theorem confined_createMailbox_within
    {bounds : Bounds Change Signal}
    {deployment : Deployment}
    {organization : String}
    {payload : MailboxCreate}
    (inserts : ∀ row, Created deployment.services organization payload row →
      bounds.writes (.insertMailbox row))
    (asks : bounds.asks .newReference)
    (clock : bounds.asks .utcnow)
    (transacts : bounds.transacts) :
    Confined bounds (createMailbox deployment organization payload) fun _ => True := by
  refine Confined.session transacts ?_
  refine Confined.bind confined_encrypted fun smtpPassword _ => ?_
  refine Confined.bind confined_encrypted fun imapPassword cipher => ?_
  refine Confined.bind Confined.look fun taken _ => ?_
  refine Confined.ite (fun _ => Confined.raise _) fun _ => ?_
  refine Confined.bind (Confined.ask asks fun _ => trivial) fun reference _ => ?_
  refine Confined.bind (Confined.ask clock fun _ => trivial) fun now _ => ?_
  refine Confined.bind (Confined.stage (inserts _ ⟨rfl, rfl, rfl, cipher⟩)) fun _ _ => ?_
  refine Confined.bind (Confined.commit transacts).attempt fun committed _ => ?_
  cases committed with
  | ok _ => exact Confined.pure trivial
  | error failure =>
      cases failure with
      | integrity =>
          exact Confined.bind (Confined.rollback transacts) fun _ _ => Confined.raise _
      | database | http status detail | raised name => exact Confined.raise _

theorem confined_createMailbox
    {deployment : Deployment}
    {organization : String}
    {payload : MailboxCreate} :
    Confined (creating deployment.services organization payload)
      (createMailbox deployment organization payload) fun _ => True :=
  confined_createMailbox_within (fun row created => ⟨row, rfl, created⟩) trivial trivial trivial

/-- Of a mailbox that is there, only columns are set. -/
theorem confined_updateMailbox
    {bounds : Bounds Change Signal}
    {deployment : Deployment}
    {organization publicReference : String}
    {payload : MailboxUpdate}
    (updates : ∀ key patch, bounds.writes (.updateMailbox key patch))
    (clock : bounds.asks .utcnow)
    (transacts : bounds.transacts) :
    Confined bounds (updateMailbox deployment organization publicReference payload)
      fun _ => True := by
  refine Confined.session transacts (Confined.bind Confined.look fun found _ => ?_)
  cases found with
  | none => exact Confined.raise _
  | some row =>
      refine Confined.ite (fun _ => Confined.raise _) fun _ => ?_
      refine Confined.bind confined_encrypted fun smtpPassword _ => ?_
      refine Confined.bind confined_encrypted fun imapPassword _ => ?_
      refine Confined.bind (Confined.ask clock fun _ => trivial) fun now _ => ?_
      exact Confined.bind (Confined.stage (updates _ _)) fun _ _ => Confined.commit transacts

/-! ## Updates -/

/-- What an update writes into the IMAP columns, with the row that it read. -/
structure Rewrites
    (services : Services)
    (payload : MailboxUpdate)
    (mailbox : Mailbox)
    (patch : MailboxPatch) : Prop where
  configured : payload.imapPassword.isSome = true → payload.imapHost.isSome = true ∨
    mailbox.imapHost.isSome = true
  host : patch.imapHost = assigned mailbox.imapHost payload.imapHost
  port : patch.imapPort =
    payload.imapHost.bind fun _ => assigned mailbox.imapPort payload.imapPort
  username : patch.imapUsername =
    payload.imapHost.bind fun _ => assigned mailbox.imapUsername payload.imapUsername
  password : Encrypted services payload.imapPassword patch.imapPasswordEnc

/-- An update never clears the host. -/
theorem MailboxPatch.imapHost_isSome
    {patch : MailboxPatch}
    {current : Mailbox}
    (configured : current.imapHost.isSome = true) :
    (patch.apply current).imapHost.isSome = true := by
  simp only [MailboxPatch.apply, Option.isSome_or, configured, Bool.or_true]

/-- Writing only what differs leaves the assigned value. -/
theorem assigned_or
    {Value : Type}
    [DecidableEq Value]
    (loaded : Option Value)
    (value : Value) :
    (assigned loaded (some value)).or loaded = some value := by
  unfold assigned
  by_cases same : loaded = some value
  · simp [Option.filter, same]
  · simp [Option.filter, same]

/-- A column that is only left alone if it was set ends up set. -/
theorem isSome_assigned_or
    {Value : Type}
    [DecidableEq Value]
    {loaded current : Option Value}
    (value : Value)
    (kept : loaded.isSome = true → current.isSome = true) :
    ((assigned loaded (some value)).or current).isSome = true := by
  unfold assigned
  by_cases same : loaded = some value
  · have present : current.isSome = true := kept (by rw [same]; rfl)
    rw [Option.isSome_or, present, Bool.or_true]
  · simp [Option.filter, same]

namespace Rewrites

variable {services : Services} {payload : MailboxUpdate} {mailbox current : Mailbox}
variable {patch : MailboxPatch}

/-- A rotation keeps the target of the password. -/
theorem imapTarget_of_rotation
    (rewrites : Rewrites services payload mailbox patch)
    (rotates : payload.imapHost = none) :
    (patch.apply current).imapTarget = current.imapTarget := by
  have host := rewrites.host
  have port := rewrites.port
  have username := rewrites.username
  rw [rotates] at host port username
  simp only [Mailbox.imapTarget, MailboxPatch.apply, host, port, username]
  rfl

/-- A configuration of a row that is as it was read is the whole target. -/
theorem imapTarget_of_configuration
    (rewrites : Rewrites services payload mailbox patch)
    (accepted : payload.imapConfigAllOrNone = true)
    (sets : payload.imapHost.isSome = true)
    (unchanged : current.imapTarget = mailbox.imapTarget) :
    (patch.apply current).imapTarget =
      (payload.imapHost, payload.imapPort, payload.imapUsername) := by
  obtain ⟨setsPort, setsUsername, -⟩ := payload.sets_of_allOrNone accepted sets
  obtain ⟨host, givenHost⟩ := Option.isSome_iff_exists.mp sets
  obtain ⟨port, givenPort⟩ := Option.isSome_iff_exists.mp setsPort
  obtain ⟨username, givenUsername⟩ := Option.isSome_iff_exists.mp setsUsername
  simp only [Mailbox.imapTarget, Prod.mk.injEq] at unchanged
  obtain ⟨sameHost, samePort, sameUsername⟩ := unchanged
  simp only [Mailbox.imapTarget, MailboxPatch.apply, rewrites.host, rewrites.port,
    rewrites.username, givenHost, givenPort, givenUsername, sameHost, samePort, sameUsername,
    Option.bind_some, assigned_or]

theorem imapPasswordEnc_of_supplied
    (rewrites : Rewrites services payload mailbox patch)
    (supplies : payload.imapPassword.isSome = true) :
    (patch.apply current).imapPasswordEnc =
      payload.imapPassword.bind services.encryptSecret := by
  have present := rewrites.password.present.trans supplies
  rw [← rewrites.password.encrypts]
  obtain ⟨cipher, written⟩ := Option.isSome_iff_exists.mp present
  simp only [MailboxPatch.apply, written, Option.some_or]

theorem imapPasswordEnc_of_omitted
    (rewrites : Rewrites services payload mailbox patch)
    (omits : payload.imapPassword = none) :
    (patch.apply current).imapPasswordEnc = current.imapPasswordEnc := by
  have encrypts := rewrites.password.encrypts
  rw [omits, Option.bind_none] at encrypts
  simp only [MailboxPatch.apply, encrypts, Option.none_or]

/-- The columns of a row stay all NULL or all set, whatever happened to the row since it
was read, as long as it did not lose its configuration. -/
theorem imapAllOrNone
    (rewrites : Rewrites services payload mailbox patch)
    (accepted : payload.imapConfigAllOrNone = true)
    (loaded : mailbox.imapAllOrNone = true)
    (whole : current.imapAllOrNone = true)
    (kept : mailbox.imapHost.isSome = true → current.imapHost.isSome = true) :
    (patch.apply current).imapAllOrNone = true := by
  rw [Mailbox.imapAllOrNone_iff] at loaded whole ⊢
  obtain ⟨port, username, password⟩ := whole
  cases sets : payload.imapHost with
  | none =>
      have same : (patch.apply current).imapTarget = current.imapTarget :=
        rewrites.imapTarget_of_rotation sets
      simp only [Mailbox.imapTarget, Prod.mk.injEq] at same
      obtain ⟨sameHost, samePort, sameUsername⟩ := same
      rw [sameHost, samePort, sameUsername]
      refine ⟨port, username, ?_⟩
      cases supplies : payload.imapPassword with
      | none => rw [rewrites.imapPasswordEnc_of_omitted supplies, password]
      | some secret =>
          have supplied : payload.imapPassword.isSome = true := by rw [supplies]; rfl
          have stored := (rewrites.configured supplied).resolve_left (by simp [sets])
          rw [rewrites.imapPasswordEnc_of_supplied supplied, ← rewrites.password.encrypts,
            rewrites.password.present, supplied, kept stored]
  | some host =>
      obtain ⟨setsPort, setsUsername, supplied⟩ :=
        payload.sets_of_allOrNone accepted (by rw [sets]; rfl)
      obtain ⟨portValue, givenPort⟩ := Option.isSome_iff_exists.mp setsPort
      obtain ⟨usernameValue, givenUsername⟩ := Option.isSome_iff_exists.mp setsUsername
      have hostSet : (patch.apply current).imapHost.isSome = true := by
        simp only [MailboxPatch.apply, rewrites.host, sets]
        exact isSome_assigned_or host kept
      have portSet : (patch.apply current).imapPort.isSome = true := by
        simp only [MailboxPatch.apply, rewrites.port, sets, givenPort, Option.bind_some]
        exact isSome_assigned_or portValue fun set =>
          port.trans (kept (loaded.1.symm.trans set))
      have usernameSet : (patch.apply current).imapUsername.isSome = true := by
        simp only [MailboxPatch.apply, rewrites.username, sets, givenUsername,
          Option.bind_some]
        exact isSome_assigned_or usernameValue fun set =>
          username.trans (kept (loaded.2.1.symm.trans set))
      have passwordSet : (patch.apply current).imapPasswordEnc.isSome = true := by
        rw [rewrites.imapPasswordEnc_of_supplied supplied, ← rewrites.password.encrypts,
          rewrites.password.present, supplied]
      rw [hostSet, portSet, usernameSet, passwordSet]
      exact ⟨rfl, rfl, rfl⟩

end Rewrites

/-- A patch differs from the dated one in its time only. -/
theorem MailboxPatch.exists_dated
    (patch : MailboxPatch)
    (now : Instant) :
    ∃ time, patch.dated now = { patch with updatedAt := time } := by
  unfold dated
  split
  · exact ⟨patch.updatedAt, rfl⟩
  · exact ⟨some now, rfl⟩

/-- The time of an update is no IMAP column. -/
theorem Rewrites.dated
    {services : Services}
    {payload : MailboxUpdate}
    {mailbox : Mailbox}
    {patch : MailboxPatch}
    (rewrites : Rewrites services payload mailbox patch)
    (now : Instant) :
    Rewrites services payload mailbox (patch.dated now) := by
  obtain ⟨time, same⟩ := patch.exists_dated now
  rw [same]
  exact ⟨rewrites.configured, rewrites.host, rewrites.port, rewrites.username,
    rewrites.password⟩

/-- An update that has read its row: the key, what it read and what it will write. -/
structure PendingUpdate where
  key : Nat
  mailbox : Mailbox
  patch : MailboxPatch

/-- The update with the time of its flush. -/
def PendingUpdate.dated
    (update : PendingUpdate)
    (now : Instant) : PendingUpdate :=
  { update with patch := update.patch.dated now }

/-- The script of a native operation. -/
abbrev OperationScript := Script (Except Failure Unit × List Change)

/-- The session of an update is closed. -/
def closingUpdate (result : Except Failure Unit) : OperationScript :=
  .rollback (.done (result, []))

/-- The update is flushed and commits. -/
def committingUpdate : OperationScript :=
  .commit fun reported => closingUpdate (if reported then .ok () else .error .database)

/-- The update is flushed. -/
def flushingUpdate
    (key : Nat)
    (patch : MailboxPatch) : OperationScript :=
  .statement (fun _ => some [.updateMailbox key patch]) fun
    | .ran _ => committingUpdate
    | .violated => closingUpdate (.error .integrity)
    | .failed => closingUpdate (.error .database)

/-- The update has read its row. -/
def datingUpdate
    (key : Nat)
    (patch : MailboxPatch) : OperationScript :=
  .ask .utcnow fun now => flushingUpdate key (patch.dated now)

theorem ownedMailbox_eq_some
    {organization publicReference : String}
    {view : Database}
    {key : Nat}
    {mailbox : Mailbox}
    (owned : ownedMailbox organization publicReference view = some (key, mailbox)) :
    view.mailboxes.get key = some mailbox ∧ mailbox.publicReference = publicReference ∧
      mailbox.organizationId = organization := by
  obtain ⟨first, located, rest⟩ := Option.bind_eq_some_iff.mp owned
  obtain ⟨row, found, same⟩ := Option.map_eq_some_iff.mp rest
  obtain ⟨rfl, rfl⟩ := Prod.mk.inj same
  obtain ⟨stored, foundStored, holds⟩ := Table.firstWhere_eq_some located
  obtain rfl : stored = row := Option.some.inj (foundStored.symm.trans found)
  rw [Bool.and_eq_true, beq_iff_eq, beq_iff_eq] at holds
  exact ⟨found, holds⟩

section Updates

variable {deployment : Deployment} {organization publicReference : String}
variable {payload : MailboxUpdate} {key : Nat} {mailbox : Mailbox}

theorem encrypted_cases
    (services : Services)
    (secret : Option String) :
    (∃ failure, encrypted services secret = raise failure) ∨
      ∃ cipher, encrypted services secret = pure cipher ∧ Encrypted services secret cipher := by
  cases secret with
  | none => exact .inr ⟨none, rfl, rfl, rfl⟩
  | some plain =>
      unfold encrypted
      dsimp only
      cases encrypts : services.encryptSecret plain with
      | none => exact .inl ⟨_, rfl⟩
      | some cipher => exact .inr ⟨some cipher, rfl, encrypts.symm, rfl⟩

/-- An update that read a row is refused or writes what its payload changes. -/
theorem session_updateLoadedMailbox :
    (∃ failure, session (updateLoadedMailbox deployment payload key mailbox) [] =
        closingUpdate (.error failure)) ∨
      ∃ patch, Rewrites deployment.services payload mailbox patch ∧
        session (updateLoadedMailbox deployment payload key mailbox) [] =
          datingUpdate key patch := by
  unfold updateLoadedMailbox
  by_cases refused : (payload.imapPassword.isSome && payload.imapHost.isNone &&
      mailbox.imapHost.isNone) = true
  · rw [if_pos refused]
    exact .inl ⟨_, rfl⟩
  rw [if_neg refused]
  rcases encrypted_cases deployment.services payload.smtpPassword with
    ⟨failure, raised⟩ | ⟨smtpPassword, returned, -⟩
  · rw [raised]
    exact .inl ⟨failure, rfl⟩
  rcases encrypted_cases deployment.services payload.imapPassword with
    ⟨failure, raised⟩ | ⟨imapPassword, returnedToo, encrypts⟩
  · rw [returned, raised]
    exact .inl ⟨failure, rfl⟩
  rw [returned, returnedToo]
  refine .inr ⟨mailboxPatch payload mailbox smtpPassword imapPassword, ?_, ?_⟩
  · refine ⟨fun rotates => ?_, rfl, rfl, rfl, encrypts⟩
    rw [rotates] at refused
    cases host : payload.imapHost <;> cases stored : mailbox.imapHost <;>
      simp [host, stored] at refused ⊢
  · refine congrArg (Process.ask Signal.utcnow) (funext fun now => ?_)
    refine congrArg (Process.statement _) (funext fun result => ?_)
    cases result with
    | ran view =>
        refine congrArg Process.commit (funext fun reported => ?_)
        cases reported with
        | true => rfl
        | false => rfl
    | violated => rfl
    | failed => rfl

/-- The first step of an update reads the row; what follows depends on what it read. -/
theorem updateMailbox_eq :
    updateMailbox deployment organization publicReference payload [] =
      .statement (fun _ => some []) fun
        | .ran view =>
            session (match ownedMailbox organization publicReference view with
              | none => raise (.http 404 "Mailbox not found")
              | some (key, mailbox) => updateLoadedMailbox deployment payload key mailbox) []
        | .violated => closingUpdate (.error .integrity)
        | .failed => closingUpdate (.error .database) := by
  refine congrArg (Process.statement _) (funext fun result => ?_)
  cases result with
  | ran view => rfl
  | violated => rfl
  | failed => rfl

variable (deployment organization publicReference payload) in
/-- How far an update has come, with what it is going to write. -/
inductive UpdatePhase :
    Thread Database Change Signal Signal.Reply (Except Failure Unit × List Change) →
      Option PendingUpdate → Prop where
  | fresh :
      UpdatePhase ⟨updateMailbox deployment organization publicReference payload [], {}⟩ none
  | dating
      (update : PendingUpdate)
      (rewrites : Rewrites deployment.services payload update.mailbox update.patch) :
      UpdatePhase ⟨datingUpdate update.key update.patch, {}⟩ (some update)
  | flushing
      (update : PendingUpdate)
      (rewrites : Rewrites deployment.services payload update.mailbox update.patch) :
      UpdatePhase ⟨flushingUpdate update.key update.patch, {}⟩ (some update)
  | committing
      (update : PendingUpdate)
      (rewrites : Rewrites deployment.services payload update.mailbox update.patch) :
      UpdatePhase ⟨committingUpdate, ⟨[.updateMailbox update.key update.patch], false⟩⟩
        (some update)
  | closing (result : Except Failure Unit) (session : Session Change) :
      UpdatePhase ⟨closingUpdate result, session⟩ none
  | ended (result : Except Failure Unit) : UpdatePhase ⟨.done (result, []), {}⟩ none

theorem UpdatePhase.rewrites
    {thread : Thread Database Change Signal Signal.Reply (Except Failure Unit × List Change)}
    {update : PendingUpdate}
    (phase : UpdatePhase deployment organization publicReference payload thread
      (some update)) :
    Rewrites deployment.services payload update.mailbox update.patch := by
  cases phase with
  | dating _ rewrites => exact rewrites
  | flushing _ rewrites => exact rewrites
  | committing _ rewrites => exact rewrites

theorem UpdatePhase.not_done
    {thread : Thread Database Change Signal Signal.Reply (Except Failure Unit × List Change)}
    {update : PendingUpdate}
    (phase : UpdatePhase deployment organization publicReference payload thread
      (some update))
    (value : Except Failure Unit × List Change) :
    thread.process ≠ .done value := by
  cases phase with
  | dating _ _ => exact nofun
  | flushing _ _ => exact nofun
  | committing _ _ => exact nofun

variable (organization publicReference) in
/-- One step of an update: what it has pending before and after, and the database. -/
inductive UpdateMove
    (database : Database)
    (process : OperationScript) :
    Option PendingUpdate → Option PendingUpdate → Database → Prop where
  | reads
      {run : Database → Option (List Change)}
      {rest : StatementResult Database → OperationScript}
      (update : PendingUpdate)
      (statement : process = .statement run rest)
      (selects : run database = some [])
      (owned : ownedMailbox organization publicReference database =
        some (update.key, update.mailbox)) :
      UpdateMove database process none (some update) database
  | dates (update : PendingUpdate) (now : Instant) :
      UpdateMove database process (some update) (some (update.dated now)) database
  | goes (pending : Option PendingUpdate) : UpdateMove database process pending pending database
  | drops (pending : Option PendingUpdate) : UpdateMove database process pending none database
  | commits
      {rest : Bool → OperationScript}
      (update : PendingUpdate)
      (commits : process = .commit rest) :
      UpdateMove database process (some update) none
        (database.modifyMailbox update.key update.patch.apply)

theorem UpdatePhase.step
    {thread after : Thread Database Change Signal Signal.Reply (Except Failure Unit × List Change)}
    {pending : Option PendingUpdate}
    {database next : Database}
    {stimulus : Stimulus Signal Signal.Reply}
    {asked : Option Signal}
    (phase : UpdatePhase deployment organization publicReference payload thread pending)
    (stepped : thread.step Change.apply database stimulus = some (next, after, asked)) :
    ∃ later, UpdatePhase deployment organization publicReference payload after later ∧
      UpdateMove organization publicReference database thread.process pending later next := by
  cases phase with
  | fresh =>
      rw [updateMailbox_eq] at stepped ⊢
      cases fault : stimulus.fault with
      | true =>
          have failed : runStatement Change.apply database {} stimulus.fault
              (fun _ => some []) = (.failed, ⟨[], true⟩) := by
            rw [fault]
            rfl
          simp only [Thread.step, failed] at stepped
          obtain ⟨rfl, rfl, rfl⟩ := stepped
          exact ⟨none, .closing _ _, .drops _⟩
      | false =>
          have ran : runStatement Change.apply database {} stimulus.fault
              (fun _ => some []) = (.ran database, {}) := by
            rw [fault]
            rfl
          simp only [Thread.step, ran] at stepped
          obtain ⟨rfl, rfl, rfl⟩ := stepped
          cases owned : ownedMailbox organization publicReference database with
          | none => exact ⟨none, .closing (.error _) {}, .drops _⟩
          | some found =>
              obtain ⟨key, mailbox⟩ := found
              dsimp only
              rcases @session_updateLoadedMailbox deployment payload key mailbox with
                ⟨failure, refused⟩ | ⟨patch, rewrites, writes⟩
              · rw [refused]
                exact ⟨none, .closing _ _, .drops _⟩
              · rw [writes]
                exact ⟨_, .dating ⟨key, mailbox, patch⟩ rewrites, .reads _ rfl rfl owned⟩
  | dating update rewrites =>
      obtain ⟨rfl, rfl, rfl⟩ := stepped
      exact ⟨_, .flushing (update.dated _) (rewrites.dated _), .dates update _⟩
  | flushing update rewrites =>
      obtain ⟨rfl, rfl, rfl⟩ := stepped
      cases fault : stimulus.fault with
      | true => exact ⟨none, .closing _ _, .drops _⟩
      | false => exact ⟨some update, .committing update rewrites, .goes _⟩
  | committing update rewrites =>
      obtain ⟨rfl, rfl, rfl⟩ := stepped
      cases stimulus.commit with
      | committed => exact ⟨none, .closing _ _, .commits update rfl⟩
      | appliedButReportedFailed => exact ⟨none, .closing _ _, .commits update rfl⟩
      | failed => exact ⟨none, .closing _ _, .drops _⟩
  | closing result session =>
      obtain ⟨rfl, rfl, rfl⟩ := stepped
      exact ⟨none, .ended result, .drops _⟩
  | ended result => cases stepped

end Updates

/-! ## The rows of mailboxes -/

section Rows

variable {before after : Database} {writes : List Change}

/-- Operations that configure no mailbox leave the rows alone. -/
theorem mailboxes_of_serving
    (kinds : ∀ write ∈ writes, (withPlain serving).writes write)
    (applied : applyAll Change.apply before writes = some after) :
    after.mailboxes = before.mailboxes := by
  refine @applyAll_induct Database Change Change.apply (withPlain serving).writes
    (fun first second => second.mailboxes = first.mailboxes) (fun _ => rfl)
    (fun left right => right.trans left) ?_ before after writes kinds applied
  intro store result change kind effect
  cases change with
  | insertMailbox row => exact (kind.elim id (Or.elim · id id)).elim
  | updateMailbox key patch => exact (kind.elim id (Or.elim · id id)).elim
  | insertCampaign row =>
      obtain ⟨-, rfl⟩ := Database.insertCampaign_eq_some effect
      rfl
  | insertContact row =>
      obtain ⟨-, -, rfl⟩ := Database.insertContact_eq_some effect
      rfl
  | insertMessage row =>
      obtain ⟨-, rfl⟩ := Database.insertMessage_eq_some effect
      rfl
  | insertSuppression row =>
      obtain ⟨-, rfl⟩ := Database.insertSuppression_eq_some effect
      rfl
  | insertUnmatched row =>
      obtain ⟨-, -, rfl⟩ := Database.insertUnmatched_eq_some effect
      rfl
  | updateContact key patch =>
      obtain rfl := Option.some.inj effect
      rfl
  | recordSend key record =>
      obtain ⟨rfl, -⟩ := Database.updateMessage_eq_some effect
      rfl
  | interpretMessage contactId reference interpretation =>
      obtain rfl := Option.some.inj effect
      cases messageByReference store contactId reference with
      | none => rfl
      | some key => rfl
  | resolveRetained mailboxId identity resolvedAt =>
      obtain rfl := Option.some.inj effect
      cases unresolvedRetained store mailboxId identity with
      | none => rfl
      | some key => rfl

/-- The rows after a creation: those before it, and the created ones. -/
structure Inserted
    (services : Services)
    (organization : String)
    (payload : MailboxCreate)
    (before after : Database) : Prop where
  kept : ∀ key row, before.mailboxes.get key = some row → after.mailboxes.get key = some row
  origin : ∀ key row, after.mailboxes.get key = some row →
    before.mailboxes.get key = some row ∨ Created services organization payload row

theorem inserted_of_creating
    {services : Services}
    {organization : String}
    {payload : MailboxCreate}
    (kinds : ∀ write ∈ writes, (creating services organization payload).writes write)
    (applied : applyAll Change.apply before writes = some after) :
    Inserted services organization payload before after := by
  refine applyAll_induct (fun _ => ⟨fun _ _ => id, fun _ _ => .inl⟩) ?_ ?_ kinds applied
  · intro first second third left right
    refine ⟨fun key row found => right.kept key row (left.kept key row found), ?_⟩
    intro key row found
    rcases right.origin key row found with earlier | created
    · exact left.origin key row earlier
    · exact .inr created
  · rintro store result _ ⟨row, rfl, created⟩ effect
    obtain ⟨-, -, rfl⟩ := Database.insertMailbox_eq_some effect
    refine ⟨fun key other found => Table.get_insert_of_get found row, ?_⟩
    intro key other found
    rcases Table.get_insert_cases found with earlier | ⟨-, rfl⟩
    · exact .inl earlier
    · exact .inr created

end Rows
end Native
end MailerAgent
