import MailerAgent.Access.Soundness

/-!
# Access to the routes

The startup gate and the dependencies of `api/deps.py` that decide whether a request is
served and for which organization. The settings that they read are those of the process; the
credential map is the one that `load_auth_config` built from the environment.
-/

namespace MailerAgent
namespace Access

/-- The settings that decide access. -/
structure AccessSettings where
  allowInsecureNoAuth : Bool := false
  liveSendingEnabled : Bool := false
  systemOperatorApiKey : String := ""

/-- `HTTPException`. -/
structure HttpFailure where
  status : Nat
  detail : String
  deriving DecidableEq, Repr

/-- `if text:` for an optional text. -/
def present (text : Option String) : Bool :=
  text.any fun value => !value.isEmpty

/-- `_not_configured`. -/
def notConfigured : HttpFailure :=
  ⟨503, "API authentication is not configured on this deployment"⟩

/-- `_operator_key`. -/
def operatorKey (settings : AccessSettings) : String :=
  PyText.strip settings.systemOperatorApiKey

/-- `_matches_tenant_key`. -/
def matchesTenantKey
    (keyMap : Dictionary)
    (candidate : String) : Bool :=
  keyMap.entries.foldl (fun matched entry => if candidate == entry.1 then true else matched) false

/-- `if _KEY_MAP:`. -/
def hasKeys (keyMap : Dictionary) : Bool :=
  !keyMap.entries.isEmpty

/-- `validate_auth_configuration`, with the text of its error. -/
def validateAuthConfiguration
    (settings : AccessSettings)
    (config : AuthConfig) :
    Except String Unit :=
  if present config.error then
    .error ("Invalid authentication configuration: " ++ config.error.getD "" ++
      ". Refusing to start.")
  else if !(operatorKey settings).isEmpty &&
      matchesTenantKey config.keyMap (operatorKey settings) then
    .error ("SYSTEM_OPERATOR_API_KEY must be different from every tenant API key " ++
      "(API_KEY, ORG_KEY_MAP, ORG_KEYS_*). Refusing to start.")
  else if hasKeys config.keyMap then .ok ()
  else if settings.allowInsecureNoAuth then
    if settings.liveSendingEnabled then
      .error ("ALLOW_INSECURE_NO_AUTH=true cannot be combined with LIVE_SENDING_ENABLED=true " ++
        "(that would be an unauthenticated API that can send email). Refusing to start.")
    else .ok ()
  else
    .error ("No API keys are configured (API_KEY, ORG_KEY_MAP and ORG_KEYS_* are all unset " ++
      "or empty). Set at least one key, or ALLOW_INSECURE_NO_AUTH=true for local " ++
      "development only. Refusing to start.")

/-- `_keys_required`. -/
def keysRequired
    (settings : AccessSettings)
    (config : AuthConfig) : Except HttpFailure Bool :=
  if present config.error then .error notConfigured
  else if hasKeys config.keyMap then .ok true
  else if settings.allowInsecureNoAuth then .ok false
  else .error notConfigured

/-- `require_api_key`. -/
def requireApiKey
    (settings : AccessSettings)
    (config : AuthConfig)
    (apiKey : Option String) : Except HttpFailure Unit :=
  match keysRequired settings config with
  | .error failure => .error failure
  | .ok false => .ok ()
  | .ok true =>
      if !present apiKey || (resolveOrg config.keyMap (apiKey.getD "")).isNone then
        .error ⟨401, "Invalid or missing API key"⟩
      else .ok ()

/-- `get_current_org_id`. -/
def getCurrentOrgId
    (settings : AccessSettings)
    (config : AuthConfig)
    (apiKey : Option String) : Except HttpFailure String :=
  match keysRequired settings config with
  | .error failure => .error failure
  | .ok false => .ok "default"
  | .ok true =>
      if !present apiKey then .error ⟨401, "Missing X-API-Key header"⟩
      else
        match resolveOrg config.keyMap (apiKey.getD "") with
        | none => .error ⟨401, "Invalid API key"⟩
        | some org => .ok org

/-- The two dependencies that never honour `ALLOW_INSECURE_NO_AUTH`. -/
def resolveConfigured
    (unconfigured : HttpFailure)
    (settings : AccessSettings)
    (config : AuthConfig)
    (apiKey : Option String) : Except HttpFailure String :=
  if present config.error || !hasKeys config.keyMap then .error unconfigured
  else getCurrentOrgId settings config apiKey

/-- `get_integration_org_id`. -/
def getIntegrationOrgId :
    AccessSettings → AuthConfig → Option String → Except HttpFailure String :=
  resolveConfigured
    ⟨503, "Integration authentication is not configured on this deployment"⟩

/-- `get_authenticated_org_id`. -/
def getAuthenticatedOrgId :
    AccessSettings → AuthConfig → Option String → Except HttpFailure String :=
  resolveConfigured notConfigured

/-- `require_system_operator`. -/
def requireSystemOperator
    (settings : AccessSettings)
    (config : AuthConfig)
    (presented : Option String) : Except HttpFailure Unit :=
  let configured := operatorKey settings
  if present config.error || configured.isEmpty ||
      matchesTenantKey config.keyMap configured then
    .error ⟨503, "Operator authentication is not configured on this deployment"⟩
  else if !present presented || presented.getD "" != configured then
    .error ⟨401, "Invalid or missing operator key"⟩
  else .ok ()

/-! ## The configuration as the dependencies see it -/

section Configuration

variable
  {letters : LetterCase}
  {read : String → Reading}
  {settingsApiKey legacy : String}
  {environ : Dictionary}
  {legacyApiKey : Option String}

theorem present_iff {text : Option String} :
    present text = true ↔ ∃ value, text = some value ∧ value ≠ "" := by
  cases text <;> simp [present]

theorem present_parseOrgKeyMap
    {raw error : String}
    (failed : parseOrgKeyMap read raw = .error error) :
    error ≠ "" := by
  unfold parseOrgKeyMap at failed
  split at failed
  · cases failed
    decide
  · cases failed
    decide
  · split at failed
    · cases failed
    · cases failed
      decide
  · cases failed
    decide

theorem conflictText_ne_empty (first second : Source) : conflictText first second ≠ "" := by
  unfold conflictText
  simp [String.ext_iff]

theorem conflictWith_ne_empty
    {owner : AList fun _ : String => String × Source}
    {entries : List Credential}
    {text : String}
    (conflict : conflictWith owner entries = some text) :
    text ≠ "" := by
  induction entries generalizing owner with
  | nil => cases conflict
  | cons entry entries inductionHypothesis =>
      unfold conflictWith at conflict
      split at conflict
      · exact inductionHypothesis conflict
      · split at conflict
        · cases conflict
          exact conflictText_ne_empty _ _
        · exact inductionHypothesis conflict

/-- A rejected configuration says why. -/
theorem present_error
    (failed : (loadAuthConfig letters read settingsApiKey environ legacyApiKey).error ≠ none) :
    present (loadAuthConfig letters read settingsApiKey environ legacyApiKey).error = true := by
  unfold loadAuthConfig at failed ⊢
  cases parsing : orgKeyMapEntries read environ with
  | error error =>
      refine present_iff.mpr ⟨error, rfl, ?_⟩
      unfold orgKeyMapEntries at parsing
      split at parsing
      · cases parsing
      · exact present_parseOrgKeyMap parsing
  | ok parsed =>
      rw [parsing] at failed
      dsimp only at failed ⊢
      cases conflict : credentialConflict (configuredCredentials letters environ
          (legacyApiKey.getD settingsApiKey) parsed) with
      | none =>
          rw [conflict] at failed
          exact absurd rfl failed
      | some text => exact present_iff.mpr ⟨text, rfl, conflictWith_ne_empty conflict⟩

/-- The key of a credential is not empty. -/
theorem credential_key_ne_empty
    {credential : Credential}
    (member : credential ∈ configured letters read environ legacy) :
    credential.key ≠ "" := by
  rcases member with filled | ⟨-, -, filled⟩ | ⟨-, -, -, -, filled, -⟩
  · exact filled
  · exact filled
  · rintro rfl
    exact filled (by decide)

end Configuration

theorem matchesTenantKey_eq_lookup
    (keyMap : Dictionary)
    (candidate : String) :
    matchesTenantKey keyMap candidate = (keyMap.lookup candidate).isSome := by
  have search : ∀ (entries : List (Sigma fun _ : String => String)) (matched : Bool),
      entries.foldl (fun matched entry => if candidate == entry.1 then true else matched)
        matched = ((entries.dlookup candidate).isSome || matched) := by
    intro entries
    induction entries with
    | nil => exact fun _ => rfl
    | cons entry entries inductionHypothesis =>
        intro matched
        obtain ⟨key, org⟩ := entry
        rw [List.foldl_cons, inductionHypothesis]
        by_cases same : candidate = key
        · subst same
          simp
        · rw [List.dlookup_cons_ne _ _ same]
          simp [same]
  unfold matchesTenantKey
  rw [search, Bool.or_false]
  rfl

/-- What a configuration without an error says about the credentials. -/
structure Usable
    (config : AuthConfig)
    (credentials : Set Credential) : Prop where
  clean : present config.error = false
  keys : hasKeys config.keyMap = true ↔ credentials ≠ ∅
  resolves : ∀ key org, resolveOrg config.keyMap key = some org ↔
    ∃ credential ∈ credentials, credential.key = key ∧ credential.org = org
  matching : ∀ candidate, matchesTenantKey config.keyMap candidate = true ↔
    ∃ credential ∈ credentials, credential.key = candidate

/-- A configuration is usable, or it is rejected and its map is empty. -/
theorem usable_or_rejected
    (letters : LetterCase)
    (read : String → Reading)
    (settingsApiKey : String)
    (environ : Dictionary)
    (legacyApiKey : Option String) :
    let config := loadAuthConfig letters read settingsApiKey environ legacyApiKey
    let credentials := configured letters read environ (legacyApiKey.getD settingsApiKey)
    Usable config credentials ∧ config.error = none ∨
      present config.error = true ∧ config.error ≠ none := by
  intro config credentials
  rcases loadAuthConfig_cases letters read settingsApiKey environ legacyApiKey with
    ⟨-, failed, -⟩ | ⟨merged, clean, good, consistent⟩
  · exact .inr ⟨present_error failed, failed⟩
  · have resolves : ∀ key org, resolveOrg config.keyMap key = some org ↔
        ∃ credential ∈ credentials, credential.key = key ∧ credential.org = org := by
      intro key org
      rw [resolveOrg_eq_lookup, show config.keyMap = _ from merged,
        lookup_mergeCredentials_iff consistent]
      simp only [mem_allCredentials_iff good, credentials]
    have matching : ∀ candidate, matchesTenantKey config.keyMap candidate = true ↔
        ∃ credential ∈ credentials, credential.key = candidate := by
      intro candidate
      rw [matchesTenantKey_eq_lookup, Option.isSome_iff_exists]
      simp only [← resolveOrg_eq_lookup, resolves]
      constructor
      · rintro ⟨org, credential, member, same, -⟩
        exact ⟨credential, member, same⟩
      · rintro ⟨credential, member, same⟩
        exact ⟨credential.org, credential, member, same, rfl⟩
    refine .inl ⟨⟨?_, ?_, resolves, matching⟩, clean⟩
    · rw [show config.error = none from clean]
      rfl
    · constructor
      · intro keys nothing
        have collected : allCredentials letters read environ
            (legacyApiKey.getD settingsApiKey) = [] := by
          refine List.eq_nil_iff_forall_not_mem.mpr fun credential member => ?_
          have inside : credential ∈ credentials := (mem_allCredentials_iff good).mp member
          rw [nothing] at inside
          exact inside
        rw [show config.keyMap = _ from merged, collected] at keys
        exact absurd keys (by decide)
      · intro nonempty
        obtain ⟨credential, member⟩ := Set.nonempty_iff_ne_empty.mpr nonempty
        have found := (resolves credential.key credential.org).mpr
          ⟨credential, member, rfl, rfl⟩
        by_contra keyless
        have empty : config.keyMap.entries = [] := by simpa [hasKeys] using keyless
        unfold resolveOrg at found
        rw [empty] at found
        cases found

/-! ## Requests -/

/-- The presented key is a configured credential of the organization. -/
def Presents
    (credentials : Set Credential)
    (apiKey : Option String)
    (org : String) : Prop :=
  ∃ credential ∈ credentials, apiKey = some credential.key ∧ credential.org = org

/-- The operator opted out of authentication, and no key is configured. -/
def Open
    (settings : AccessSettings)
    (config : AuthConfig)
    (credentials : Set Credential) :
    Prop :=
  settings.allowInsecureNoAuth = true ∧ config.error = none ∧ credentials = ∅

/-- Whom the routes serve, for one configuration of a process. -/
structure AccessBoundary
    (settings : AccessSettings)
    (config : AuthConfig)
    (credentials : Set Credential) : Prop where
  tenant : ∀ apiKey org, getCurrentOrgId settings config apiKey = .ok org ↔
    config.error = none ∧ Presents credentials apiKey org ∨
      Open settings config credentials ∧ org = "default"
  admitted : ∀ apiKey, requireApiKey settings config apiKey = .ok () ↔
    ∃ org, getCurrentOrgId settings config apiKey = .ok org
  integration : ∀ apiKey org, getIntegrationOrgId settings config apiKey = .ok org ↔
    config.error = none ∧ Presents credentials apiKey org
  credentialBearing : ∀ apiKey org, getAuthenticatedOrgId settings config apiKey = .ok org ↔
    config.error = none ∧ Presents credentials apiKey org
  operator : ∀ presented, requireSystemOperator settings config presented = .ok () ↔
    config.error = none ∧ presented = some (operatorKey settings) ∧
      operatorKey settings ≠ "" ∧
      ∀ credential ∈ credentials, credential.key ≠ operatorKey settings
  separate : ∀ presented, requireSystemOperator settings config presented = .ok () →
    ∀ org, getIntegrationOrgId settings config presented ≠ .ok org ∧
      getAuthenticatedOrgId settings config presented ≠ .ok org
  started : validateAuthConfiguration settings config = .ok () ↔
    config.error = none ∧
      (operatorKey settings = "" ∨
        ∀ credential ∈ credentials, credential.key ≠ operatorKey settings) ∧
      (credentials ≠ ∅ ∨
        settings.allowInsecureNoAuth = true ∧ settings.liveSendingEnabled = false)
  answered : validateAuthConfiguration settings config = .ok () →
    ∀ apiKey failure, getCurrentOrgId settings config apiKey = .error failure →
      failure.status = 401

theorem present_of_presents
    {credentials : Set Credential}
    {apiKey : Option String}
    {org : String}
    (nonempty : ∀ credential ∈ credentials, credential.key ≠ "")
    (presents : Presents credentials apiKey org) :
    present apiKey = true := by
  obtain ⟨credential, member, rfl, -⟩ := presents
  exact present_iff.mpr ⟨_, rfl, nonempty credential member⟩

section Boundary

variable
  {settings : AccessSettings}
  {config : AuthConfig}
  {credentials : Set Credential}

/-- With keys, a request is served for the organization of its key. -/
theorem getCurrentOrgId_of_keys
    (usable : Usable config credentials)
    (nonempty : ∀ credential ∈ credentials, credential.key ≠ "")
    (keyed : credentials ≠ ∅)
    (apiKey : Option String) :
    (∀ org, getCurrentOrgId settings config apiKey = .ok org ↔
        Presents credentials apiKey org) ∧
      (requireApiKey settings config apiKey = .ok () ↔
        ∃ org, Presents credentials apiKey org) ∧
      ∀ failure, getCurrentOrgId settings config apiKey = .error failure →
        failure.status = 401 := by
  have required : keysRequired settings config = .ok true := by
    unfold keysRequired
    rw [usable.clean, usable.keys.mpr keyed]
    rfl
  have resolved : ∀ org, present apiKey = true →
      (resolveOrg config.keyMap (apiKey.getD "") = some org ↔
        Presents credentials apiKey org) := by
    intro org shown
    obtain ⟨key, rfl, -⟩ := present_iff.mp shown
    rw [Option.getD_some, usable.resolves]
    constructor
    · rintro ⟨credential, member, rfl, owner⟩
      exact ⟨credential, member, rfl, owner⟩
    · rintro ⟨credential, member, same, owner⟩
      exact ⟨credential, member, (Option.some.inj same).symm, owner⟩
  unfold getCurrentOrgId requireApiKey
  rw [required]
  dsimp only
  cases shown : present apiKey with
  | false =>
      have unpresented : ∀ org, ¬Presents credentials apiKey org := by
        intro org presents
        rw [present_of_presents nonempty presents] at shown
        cases shown
      refine ⟨fun org => ?_, ?_, fun failure refused => ?_⟩
      · simpa using unpresented org
      · simpa using unpresented
      · cases refused
        rfl
  | true =>
      cases found : resolveOrg config.keyMap (apiKey.getD "") with
      | none =>
          have unpresented : ∀ org, ¬Presents credentials apiKey org := by
            intro org presents
            rw [(resolved org shown).mpr presents] at found
            cases found
          refine ⟨fun org => ?_, ?_, fun failure refused => ?_⟩
          · simpa using unpresented org
          · simpa using unpresented
          · cases refused
            rfl
      | some owner =>
          refine ⟨fun org => ?_, ?_, fun failure refused => ?_⟩
          · rw [← resolved org shown, found]
            simp
          · simpa using ⟨owner, (resolved owner shown).mp found⟩
          · cases refused

theorem requireSystemOperator_iff
    (presented : Option String) :
    requireSystemOperator settings config presented = .ok () ↔
      present config.error = false ∧ presented = some (operatorKey settings) ∧
        operatorKey settings ≠ "" ∧
        matchesTenantKey config.keyMap (operatorKey settings) = false := by
  unfold requireSystemOperator
  cases rejected : present config.error with
  | true => simp
  | false =>
      cases matched : matchesTenantKey config.keyMap (operatorKey settings) with
      | true => simp [matched]
      | false =>
          by_cases empty : operatorKey settings = ""
          · simp [empty]
          · cases presented with
            | none => simp [empty, matched, present]
            | some key =>
                by_cases same : key = operatorKey settings
                · simp [same, empty, matched, present]
                · simp [same, empty, matched]

/-- A route that needs a key serves the organization of the presented key. -/
theorem resolveConfigured_iff
    (usable : Usable config credentials)
    (nonempty : ∀ credential ∈ credentials, credential.key ≠ "")
    (unconfigured : HttpFailure)
    (apiKey : Option String)
    (org : String) :
    resolveConfigured unconfigured settings config apiKey = .ok org ↔
      Presents credentials apiKey org := by
  unfold resolveConfigured
  rw [usable.clean, Bool.false_or]
  by_cases empty : credentials = ∅
  · have keyless : hasKeys config.keyMap = false :=
      Bool.eq_false_iff.mpr fun keys => usable.keys.mp keys empty
    subst empty
    rw [keyless]
    constructor
    · intro served
      cases served
    · rintro ⟨credential, member, -⟩
      cases member
  · rw [usable.keys.mpr empty]
    exact (getCurrentOrgId_of_keys usable nonempty empty apiKey).1 org

/-- Without keys, every request is served for `default`, or none is. -/
theorem getCurrentOrgId_of_no_keys
    (usable : Usable config ∅)
    (apiKey : Option String) :
    getCurrentOrgId settings config apiKey =
        (if settings.allowInsecureNoAuth then .ok "default" else .error notConfigured) ∧
      requireApiKey settings config apiKey =
        (if settings.allowInsecureNoAuth then .ok () else .error notConfigured) := by
  have keyless : hasKeys config.keyMap = false :=
    Bool.eq_false_iff.mpr fun keys => usable.keys.mp keys rfl
  unfold getCurrentOrgId requireApiKey keysRequired
  rw [usable.clean, keyless]
  cases settings.allowInsecureNoAuth <;> exact ⟨rfl, rfl⟩

/-- A rejected configuration serves nobody. -/
theorem refused_of_rejected
    (rejected : present config.error = true)
    (apiKey : Option String) :
    getCurrentOrgId settings config apiKey = .error notConfigured ∧
      requireApiKey settings config apiKey = .error notConfigured ∧
      ∀ unconfigured, resolveConfigured unconfigured settings config apiKey =
        .error unconfigured := by
  unfold getCurrentOrgId requireApiKey keysRequired resolveConfigured
  rw [rejected]
  exact ⟨rfl, rfl, fun _ => rfl⟩

/-- The startup gate passes a configuration with distinct credentials, or one that opted out
and cannot send. -/
theorem validateAuthConfiguration_iff :
    validateAuthConfiguration settings config = .ok () ↔
      present config.error = false ∧
        (operatorKey settings = "" ∨
          matchesTenantKey config.keyMap (operatorKey settings) = false) ∧
        (hasKeys config.keyMap = true ∨
          settings.allowInsecureNoAuth = true ∧ settings.liveSendingEnabled = false) := by
  unfold validateAuthConfiguration
  cases rejected : present config.error with
  | true => simp
  | false =>
      by_cases shared : operatorKey settings ≠ "" ∧
          matchesTenantKey config.keyMap (operatorKey settings) = true
      · simp [shared.1, shared.2]
      · have distinct : operatorKey settings = "" ∨
            matchesTenantKey config.keyMap (operatorKey settings) = false := by
          by_contra collides
          push Not at collides
          exact shared ⟨collides.1, by simpa using collides.2⟩
        have passes : ((!(operatorKey settings).isEmpty) &&
            matchesTenantKey config.keyMap (operatorKey settings)) = false := by
          rcases distinct with empty | unmatched
          · simp [empty]
          · simp [unmatched]
        simp only [passes, distinct, true_and, Bool.false_eq_true, if_false]
        cases hasKeys config.keyMap <;> cases settings.allowInsecureNoAuth <;>
          cases settings.liveSendingEnabled <;> simp

theorem accessBoundary_of_usable
    (usable : Usable config credentials)
    (clean : config.error = none)
    (nonempty : ∀ credential ∈ credentials, credential.key ≠ "") :
    AccessBoundary settings config credentials := by
  have unmatched : matchesTenantKey config.keyMap (operatorKey settings) = false ↔
      ∀ credential ∈ credentials, credential.key ≠ operatorKey settings := by
    rw [← Bool.not_eq_true, usable.matching]
    simp
  have started : validateAuthConfiguration settings config = .ok () ↔
      config.error = none ∧
        (operatorKey settings = "" ∨
          ∀ credential ∈ credentials, credential.key ≠ operatorKey settings) ∧
        (credentials ≠ ∅ ∨
          settings.allowInsecureNoAuth = true ∧ settings.liveSendingEnabled = false) := by
    rw [validateAuthConfiguration_iff, unmatched, usable.keys]
    exact ⟨fun valid => ⟨clean, valid.2⟩, fun valid => ⟨usable.clean, valid.2⟩⟩
  have operator : ∀ presented, requireSystemOperator settings config presented = .ok () ↔
      config.error = none ∧ presented = some (operatorKey settings) ∧
        operatorKey settings ≠ "" ∧
        ∀ credential ∈ credentials, credential.key ≠ operatorKey settings := by
    intro presented
    rw [requireSystemOperator_iff, unmatched]
    exact ⟨fun served => ⟨clean, served.2⟩, fun served => ⟨usable.clean, served.2⟩⟩
  have configured : ∀ unconfigured apiKey org,
      resolveConfigured unconfigured settings config apiKey = .ok org ↔
        config.error = none ∧ Presents credentials apiKey org := by
    intro unconfigured apiKey org
    rw [resolveConfigured_iff usable nonempty]
    exact ⟨fun presents => ⟨clean, presents⟩, And.right⟩
  have separate : ∀ presented, requireSystemOperator settings config presented = .ok () →
      ∀ unconfigured org,
        resolveConfigured unconfigured settings config presented ≠ .ok org := by
    intro presented admitted unconfigured org served
    obtain ⟨-, rfl, -, distinct⟩ := (operator presented).mp admitted
    obtain ⟨-, credential, member, same, -⟩ := (configured _ _ _).mp served
    exact distinct credential member (Option.some.inj same).symm
  rcases eq_or_ne credentials ∅ with rfl | nothing
  · have unkeyed := @getCurrentOrgId_of_no_keys settings config usable
    refine ⟨?_, ?_, configured _, configured _, operator,
      fun presented admitted org => ⟨separate presented admitted _ org,
        separate presented admitted _ org⟩, started, ?_⟩
    · intro apiKey org
      rw [(unkeyed apiKey).1]
      cases allowed : settings.allowInsecureNoAuth <;>
        simp [Open, Presents, allowed, clean, eq_comm]
    · intro apiKey
      rw [(unkeyed apiKey).1, (unkeyed apiKey).2]
      cases settings.allowInsecureNoAuth <;> simp
    · intro valid apiKey failure refused
      obtain ⟨-, -, keys | ⟨allowed, -⟩⟩ := started.mp valid
      · exact absurd rfl keys
      · rw [(unkeyed apiKey).1, allowed] at refused
        cases refused
  · have keyed := @getCurrentOrgId_of_keys settings config credentials usable nonempty nothing
    refine ⟨?_, ?_, configured _, configured _, operator,
      fun presented admitted org => ⟨separate presented admitted _ org,
        separate presented admitted _ org⟩, started, ?_⟩
    · intro apiKey org
      rw [(keyed apiKey).1]
      simp [Open, nothing, clean]
    · intro apiKey
      rw [(keyed apiKey).2.1]
      simp only [(keyed apiKey).1]
    · exact fun _ apiKey failure refused => (keyed apiKey).2.2 failure refused

theorem accessBoundary_of_rejected
    (rejected : present config.error = true)
    (failed : config.error ≠ none) :
    AccessBoundary settings config credentials := by
  have refused := @refused_of_rejected settings config rejected
  have unserved : ∀ unconfigured apiKey org,
      resolveConfigured unconfigured settings config apiKey = .ok org ↔
        config.error = none ∧ Presents credentials apiKey org := by
    intro unconfigured apiKey org
    rw [(refused apiKey).2.2]
    simp [failed]
  refine ⟨?_, ?_, unserved _, unserved _, ?_, ?_, ?_, ?_⟩
  · intro apiKey org
    rw [(refused apiKey).1]
    simp [failed, Open]
  · intro apiKey
    rw [(refused apiKey).1, (refused apiKey).2.1]
    simp
  · intro presented
    rw [requireSystemOperator_iff, rejected]
    simp [failed]
  · intro presented admitted
    rw [requireSystemOperator_iff, rejected] at admitted
    cases admitted.1
  · rw [validateAuthConfiguration_iff, rejected]
    simp [failed]
  · intro valid
    rw [(validateAuthConfiguration_iff.mp valid).1] at rejected
    cases rejected

end Boundary

/-- For every configuration of a process, an organization is served exactly for a key of its
own, the open mode serves `default` only, and the operator's key is no tenant's. -/
theorem api_access_fails_closed
    (letters : LetterCase)
    (read : String → Reading)
    (settingsApiKey : String)
    (environ : Dictionary)
    (legacyApiKey : Option String)
    (settings : AccessSettings) :
    AccessBoundary settings
      (loadAuthConfig letters read settingsApiKey environ legacyApiKey)
      (configured letters read environ (legacyApiKey.getD settingsApiKey)) := by
  rcases usable_or_rejected letters read settingsApiKey environ legacyApiKey with
    ⟨usable, clean⟩ | ⟨rejected, failed⟩
  · exact accessBoundary_of_usable usable clean fun _ => credential_key_ne_empty
  · exact accessBoundary_of_rejected rejected failed

end Access
end MailerAgent
