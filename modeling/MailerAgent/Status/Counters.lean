import Mathlib.Data.List.Basic

/-!
# Cycle outcomes and their counters

The vocabulary of `worker_status.py`: the kinds of cycles, their outcomes and the counters
that may be stored for each kind. A mapping of counters is stored as JSON, so it is cleaned
when it is written and again when it is read: every counter of the kind is there, and
nothing else is.
-/

namespace MailerAgent
namespace Status

/-! ## Vocabulary -/

/-- The kinds of cycles. -/
inductive CycleKind where
  | externalDispatch
  | generation
  | inboundMailbox
  | inboundLegacy
  deriving DecidableEq, Repr

/-- `CYCLE_KINDS`. -/
def cycleKinds : List CycleKind :=
  [.externalDispatch, .generation, .inboundMailbox, .inboundLegacy]

/-- The stored text of a kind. -/
def CycleKind.value : CycleKind → String
  | externalDispatch => "external_dispatch"
  | generation => "generation"
  | inboundMailbox => "inbound_mailbox"
  | inboundLegacy => "inbound_legacy"

/-- `kind in CYCLE_KINDS`. -/
def CycleKind.ofValue (text : String) : Option CycleKind :=
  cycleKinds.find? fun kind => kind.value == text

/-- The outcomes of a cycle. -/
inductive CycleOutcome where
  | completed
  | degraded
  | failed
  deriving DecidableEq, Repr

/-- The stored text of an outcome. -/
def CycleOutcome.value : CycleOutcome → String
  | completed => "completed"
  | degraded => "degraded"
  | failed => "failed"

/-- `outcome in OUTCOMES`. -/
def CycleOutcome.ofValue (text : String) : Option CycleOutcome :=
  [CycleOutcome.completed, .degraded, .failed].find? fun outcome => outcome.value == text

/-- `COUNT_KEYS`. -/
def countKeys : CycleKind → List String
  | .externalDispatch =>
      ["processed", "smtp_attempted", "smtp_accepted", "failed", "unknown",
        "outcome_not_persisted"]
  | .generation => ["processed", "generated", "failed", "outcome_not_persisted"]
  | .inboundMailbox =>
      ["mailboxes_listed", "mailboxes_ok", "mailboxes_skipped_ineligible",
        "mailboxes_credential_unavailable", "mailboxes_imap_error",
        "mailboxes_unexpected_error", "messages_marked_seen", "messages_left_unseen",
        "handled_persisted", "handled_duplicate", "handled_unmatched", "handled_ambiguous",
        "handled_unrecognized", "classification_succeeded", "classification_failed"]
  | .inboundLegacy =>
      ["emails_fetched", "handler_failures", "handled_persisted", "handled_duplicate",
        "handled_unmatched", "handled_unrecognized", "classification_succeeded",
        "classification_failed"]

/-! ## Counters -/

/-- A value of a mapping of counters. -/
inductive CountValue where
  | int (value : Int)
  | bool (value : Bool)
  | other
  deriving DecidableEq, Repr

/-- A value that counts: a non-negative `int`, and no `bool`. -/
def CountValue.count : CountValue → Nat
  | int value => value.toNat
  | _ => 0

/-- A mapping of counters, as a caller gives it or as the JSON column holds it. -/
abbrev CountMapping := List (String × CountValue)

/-- What a counter of a mapping counts. -/
def counted
    (counts : Option CountMapping)
    (key : String) : Nat :=
  ((counts.getD []).lookup key).elim 0 CountValue.count

/-- The counters of a kind, in their order. -/
def counters
    (kind : CycleKind)
    (count : String → Nat) : List (String × Nat) :=
  (countKeys kind).map fun key => (key, count key)

/-- `clean_counts`. -/
def cleanCounts
    (kind : CycleKind)
    (counts : Option CountMapping) : List (String × Nat) :=
  counters kind (counted counts)

/-- What the JSON column holds of cleaned counters. -/
def storedCounts (clean : List (String × Nat)) : CountMapping :=
  clean.map fun (key, count) => (key, .int count)

/-- `totals[key] += value` for every counter of the cycle. -/
def addCounts (totals clean : List (String × Nat)) : List (String × Nat) :=
  totals.map fun (key, total) => (key, total + (clean.lookup key).getD 0)

theorem lookup_counters
    {kind : CycleKind}
    {count : String → Nat}
    {key : String} :
    (counters kind count).lookup key = if key ∈ countKeys kind then some (count key) else none := by
  unfold counters
  induction countKeys kind with
  | nil => rfl
  | cons first rest inductionHypothesis =>
      rw [List.map_cons, List.lookup_cons, inductionHypothesis]
      by_cases same : key = first
      · simp [same]
      · simp [same, beq_eq_false_iff_ne.mpr same]

theorem lookup_storedCounts
    {clean : List (String × Nat)}
    {key : String} :
    (storedCounts clean).lookup key = (clean.lookup key).map fun count => .int count := by
  unfold storedCounts
  induction clean with
  | nil => rfl
  | cons first rest inductionHypothesis =>
      obtain ⟨name, count⟩ := first
      rw [List.map_cons, List.lookup_cons, List.lookup_cons, inductionHypothesis]
      cases key == name <;> rfl

theorem counters_congr
    {kind : CycleKind}
    {first second : String → Nat}
    (same : ∀ key ∈ countKeys kind, first key = second key) :
    counters kind first = counters kind second :=
  List.map_congr_left fun key member => by rw [same key member]

/-- Cleaned counters are stored and read back as they are. -/
@[simp] theorem cleanCounts_storedCounts
    (kind : CycleKind)
    (count : String → Nat) :
    cleanCounts kind (some (storedCounts (counters kind count))) = counters kind count := by
  refine counters_congr fun key member => ?_
  unfold counted
  rw [Option.getD_some, lookup_storedCounts, lookup_counters, if_pos member]
  exact Int.toNat_natCast (count key)

@[simp] theorem addCounts_counters
    (kind : CycleKind)
    (total count : String → Nat) :
    addCounts (counters kind total) (counters kind count) =
      counters kind fun key => total key + count key := by
  refine (List.map_map ..).trans (List.map_congr_left fun key member => ?_)
  simp only [Function.comp_apply, lookup_counters, if_pos member, Option.getD_some]

/-! ## Error types -/

/-- A character that `safe_error_type` keeps. -/
def errorTypeCharacter (character : Char) : Bool :=
  character.isAlphanum || character == '_' || character == '.'

/-- `safe_error_type`, of the class name of an exception or of a text. -/
def safeErrorType (name : Option String) : Option String :=
  name.bind fun text =>
    let cleaned := (text.toList.filter errorTypeCharacter).take 64
    if cleaned.isEmpty then none else some (String.ofList cleaned)

end Status
end MailerAgent
