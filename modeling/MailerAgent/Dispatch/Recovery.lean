import MailerAgent.Dispatch.Writes
import MailerAgent.Foundation.Counting

/-!
# The sweep over expired sends

What `recover_expired_external_dispatches` leaves of the table: the rows that it selected
are resolved, in the order of their keys, and the other rows are untouched.
-/

namespace MailerAgent
namespace Dispatch

open Relational Mail

/-- The row under a key is a send whose lease has expired. -/
def ExpiredAt
    (cutoff : Instant)
    (dispatches : Table ExternalDispatch)
    (key : Nat) : Prop :=
  ∃ row, dispatches.get key = some row ∧ sendLeaseExpired cutoff row = true

section Sweep

variable
  {services : Services}
  {lease : Nat}
  {cutoff now : Instant}
  {database : Database}

/-- The row that the sweep leaves. -/
def resolvedRow
    (services : Services)
    (lease : Nat)
    (now : Instant)
    (row : ExternalDispatch) :
    ExternalDispatch :=
  finishedRow now .unknown (some (leaseExpiredReason services lease row)) row

/-- An expired row is resolved, whatever its message is. -/
theorem recoverExpiredSend_of_expired
    {key : Nat}
    (expired : ExpiredAt cutoff database.dispatches key) :
    ∃ recovered updated, recoverExpiredSend services lease cutoff now database key =
        some (recovered, updated) ∧
      recovered.dispatchId = key ∧
      updated.dispatches = database.dispatches.modify key (resolvedRow services lease now) := by
  obtain ⟨row, found, holds⟩ := expired
  have here : database.dispatches.holdsAt key (sendLeaseExpired cutoff) = true :=
    (Table.holdsAt_iff _ key _).mpr ⟨row, found, holds⟩
  unfold recoverExpiredSend
  rw [found]
  simp only [Option.bind_some, Database.updateDispatchWhere, Table.updateWhere, here, if_true,
    Option.map_some]
  refine ⟨_, _, rfl, rfl, ?_⟩
  have rewritten : database.dispatches.modify key
      (finishedRow now .unknown (some (leaseExpiredReason services lease row))) =
        database.dispatches.modify key (resolvedRow services lease now) := by
    apply Table.ext_get
    intro other
    rw [Table.get_modify, Table.get_modify]
    split
    · next same =>
        rw [same, found]
        rfl
    · rfl
  rw [← rewritten]
  unfold modifyLinkedMessage
  split <;> rfl

/-- A sweep resolves all its candidates. -/
theorem recoverExpiredSends_of_expired
    {keys : List Nat}
    (distinct : keys.Nodup)
    (expired : ∀ key ∈ keys, ExpiredAt cutoff database.dispatches key) :
    let swept := recoverExpiredSends services lease cutoff now database keys
    swept.1.map RecoveredDispatch.dispatchId = keys ∧
      ∀ key, swept.2.dispatches.get key =
        if key ∈ keys then (database.dispatches.get key).map (resolvedRow services lease now)
        else database.dispatches.get key := by
  induction keys generalizing database with
  | nil => exact ⟨rfl, fun _ => rfl⟩
  | cons first keys inductionHypothesis =>
      obtain ⟨absent, restDistinct⟩ := List.nodup_cons.mp distinct
      obtain ⟨recovered, updated, resolved, identifier, dispatches⟩ :=
        @recoverExpiredSend_of_expired services lease cutoff now database first
          (expired first List.mem_cons_self)
      have later : ∀ key ∈ keys, ExpiredAt cutoff updated.dispatches key := by
        intro key member
        obtain ⟨row, found, holds⟩ := expired key (List.mem_cons_of_mem _ member)
        refine ⟨row, ?_, holds⟩
        rw [dispatches, Table.get_modify_of_ne _ _ (ne_of_mem_of_not_mem member absent)]
        exact found
      obtain ⟨identifiers, rows⟩ := inductionHypothesis restDistinct later
      unfold recoverExpiredSends
      rw [resolved]
      refine ⟨?_, fun key => ?_⟩
      · rw [List.map_cons, identifier, identifiers]
      · rw [rows key, dispatches, Table.get_modify]
        by_cases same : key = first
        · rw [if_pos same, if_neg (same ▸ absent), if_pos (same ▸ List.mem_cons_self)]
        · rw [if_neg same]
          simp only [List.mem_cons, same, false_or]

/-- The candidates of a sweep: the expired rows that are not locked, the oldest first. -/
def sweepCandidates
    (cutoff : Instant)
    (dispatches : Table ExternalDispatch)
    (locked : List Nat)
    (limit : Nat) : List Nat :=
  ((dispatches.keysWhere (sendLeaseExpired cutoff)).filter fun key =>
    !locked.contains key).take limit

theorem mem_sweepCandidates
    {dispatches : Table ExternalDispatch}
    {locked : List Nat}
    {limit key : Nat}
    (member : key ∈ sweepCandidates cutoff dispatches locked limit) :
    ExpiredAt cutoff dispatches key :=
  (dispatches.mem_keysWhere _ key).mp (List.mem_of_mem_filter (List.mem_of_mem_take member))

theorem nodup_sweepCandidates
    (dispatches : Table ExternalDispatch)
    (locked : List Nat)
    (limit : Nat) :
    (sweepCandidates cutoff dispatches locked limit).Nodup :=
  ((dispatches.nodup_keysWhere _).filter _).sublist (List.take_sublist ..)

/-- What `recover_expired_external_dispatches` recovers, and the table it leaves. -/
theorem recoverExpiredExternalDispatches_eq
    (locked : List Nat)
    (limit : Nat) :
    let keys :=
      sweepCandidates (now - lease * second) database.dispatches locked limit
    let swept := recoverExpiredExternalDispatches services lease database now locked limit
    swept.1.map RecoveredDispatch.dispatchId = keys ∧
      ∀ key, swept.2.dispatches.get key =
        if key ∈ keys then (database.dispatches.get key).map (resolvedRow services lease now)
        else database.dispatches.get key :=
  recoverExpiredSends_of_expired (nodup_sweepCandidates _ locked limit)
    fun _ => mem_sweepCandidates

end Sweep

end Dispatch
end MailerAgent
