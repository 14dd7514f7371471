import MailerAgent.Intake.Content
import Mathlib.Data.List.TakeWhile

/-!
# The order of a References header

`_build_references_header` collects the ids of the ancestors and of the parent by their first
occurrence. The parent's own Message-ID is therefore the last entry unless it already stands
among the ancestors, before an ancestor that is new.
-/

namespace MailerAgent

open Mail Intake

/-! ## The loop -/

section Loop

variable {seen ids : List String} {id : String}

theorem mem_collectReferences_iff :
    id ∈ collectReferences seen ids ↔ id ≠ "" ∧ id ∈ ids ∧ id ∉ seen := by
  induction ids generalizing seen with
  | nil => simp [collectReferences]
  | cons first rest inductionHypothesis =>
      unfold collectReferences
      split
      · next skipped =>
          rw [inductionHypothesis, List.mem_cons]
          constructor
          · exact fun ⟨nonempty, later, fresh⟩ => ⟨nonempty, .inr later, fresh⟩
          · rintro ⟨nonempty, rfl | later, fresh⟩
            · exact (skipped.elim nonempty fresh).elim
            · exact ⟨nonempty, later, fresh⟩
      · next taken =>
          rw [not_or] at taken
          rw [List.mem_cons, inductionHypothesis, List.mem_cons, List.mem_cons, not_or]
          constructor
          · rintro (rfl | ⟨nonempty, later, -, fresh⟩)
            · exact ⟨taken.1, .inl rfl, taken.2⟩
            · exact ⟨nonempty, .inr later, fresh⟩
          · rintro ⟨nonempty, same | later, fresh⟩
            · exact .inl same
            · by_cases same : id = first
              · exact .inl same
              · exact .inr ⟨nonempty, later, same, fresh⟩

theorem nodup_collectReferences : (collectReferences seen ids).Nodup := by
  induction ids generalizing seen with
  | nil => exact List.nodup_nil
  | cons first rest inductionHypothesis =>
      unfold collectReferences
      split
      · exact inductionHypothesis
      · refine List.nodup_cons.mpr ⟨fun again => ?_, inductionHypothesis⟩
        exact (mem_collectReferences_iff.mp again).2.2 List.mem_cons_self

/-- The collected ids stand in the order of their first occurrence. -/
theorem pairwise_collectReferences :
    (collectReferences seen ids).Pairwise fun first second =>
      ids.idxOf first < ids.idxOf second := by
  induction ids generalizing seen with
  | nil => exact List.Pairwise.nil
  | cons first rest inductionHypothesis =>
      have shifted : ∀ others : List String,
          (∀ id ∈ others, id ≠ first) →
          others.Pairwise (fun one other => rest.idxOf one < rest.idxOf other) →
          others.Pairwise fun one other =>
            (first :: rest).idxOf one < (first :: rest).idxOf other := by
        intro others apart ordered
        refine ordered.imp_of_mem fun {one other} member also before => ?_
        rw [List.idxOf_cons_ne _ (apart one member).symm,
          List.idxOf_cons_ne _ (apart other also).symm]
        exact Nat.succ_lt_succ before
      unfold collectReferences
      split
      · next skipped =>
          refine shifted _ (fun id member => ?_) inductionHypothesis
          obtain ⟨nonempty, -, fresh⟩ := mem_collectReferences_iff.mp member
          rintro rfl
          exact skipped.elim nonempty fresh
      · next taken =>
          have apart : ∀ id ∈ collectReferences (first :: seen) rest, id ≠ first := by
            rintro id member rfl
            exact (mem_collectReferences_iff.mp member).2.2 List.mem_cons_self
          refine List.pairwise_cons.mpr ⟨fun id member => ?_, shifted _ apart inductionHypothesis⟩
          rw [List.idxOf_cons_self, List.idxOf_cons_ne _ (apart id member).symm]
          exact Nat.succ_pos _

/-- What was seen counts, and not in which order. -/
theorem collectReferences_congr
    {also : List String}
    (same : ∀ id, id ≠ "" → (id ∈ seen ↔ id ∈ also)) :
    collectReferences seen ids = collectReferences also ids := by
  induction ids generalizing seen also with
  | nil => rfl
  | cons first rest inductionHypothesis =>
      have alike : first = "" ∨ first ∈ seen ↔ first = "" ∨ first ∈ also := by
        by_cases empty : first = ""
        · exact iff_of_true (.inl empty) (.inl empty)
        · exact or_congr_right (same first empty)
      unfold collectReferences
      rw [if_congr alike (inductionHypothesis same) rfl]
      refine ite_congr rfl (fun _ => rfl) fun _ => congrArg (first :: ·) ?_
      refine inductionHypothesis fun id nonempty => ?_
      rw [List.mem_cons, List.mem_cons, same id nonempty]

theorem collectReferences_append {more : List String} :
    collectReferences seen (ids ++ more) =
      collectReferences seen ids ++ collectReferences (ids ++ seen) more := by
  induction ids generalizing seen with
  | nil => rfl
  | cons first rest inductionHypothesis =>
      rw [List.cons_append, collectReferences, collectReferences]
      split
      · next skipped =>
          rw [inductionHypothesis]
          refine congrArg (_ ++ ·) (collectReferences_congr fun id nonempty => ?_)
          rw [List.cons_append, List.mem_cons]
          refine ⟨.inr, fun found => found.elim ?_ fun later => later⟩
          rintro rfl
          exact List.mem_append_right _ (skipped.resolve_left nonempty)
      · rw [inductionHypothesis, List.cons_append]
        refine congrArg (first :: _ ++ ·) (collectReferences_congr fun id _ => ?_)
        simp only [List.mem_append, List.cons_append, List.mem_cons]
        tauto

/-- A new id is the last entry. -/
theorem collectReferences_concat_of_new
    (nonempty : id ≠ "")
    (fresh : id ∉ seen)
    (new : id ∉ ids) :
    collectReferences seen (ids ++ [id]) = collectReferences seen ids ++ [id] := by
  rw [collectReferences_append, collectReferences, if_neg, collectReferences]
  rintro (empty | found)
  · exact nonempty empty
  · exact (List.mem_append.mp found).elim new fresh

/-- An id that was seen adds nothing. -/
theorem collectReferences_concat_of_old (old : id = "" ∨ id ∈ ids) :
    collectReferences seen (ids ++ [id]) = collectReferences seen ids := by
  rw [collectReferences_append, collectReferences, if_pos, collectReferences, List.append_nil]
  exact old.imp_right (List.mem_append_left _)

theorem collectReferences_eq_nil_iff :
    collectReferences seen ids = [] ↔ ∀ id ∈ ids, id = "" ∨ id ∈ seen := by
  rw [List.eq_nil_iff_forall_not_mem]
  refine forall_congr' fun id => ?_
  rw [mem_collectReferences_iff]
  tauto

end Loop

/-! ## The header -/

/-- The entries of a References header: the non-empty ids, each one once, the ancestors in
the order of their first occurrence, and the Message-ID of the parent last. -/
structure ReferenceEntries
    (ancestors : List String)
    (parent : Option String)
    (entries : List String) : Prop where
  once : entries.Nodup
  complete : ∀ id, id ∈ entries ↔ id ≠ "" ∧ id ∈ ancestors ++ parent.toList
  ordered : (entries.filter fun id => some id != parent).Pairwise fun first second =>
    ancestors.idxOf first < ancestors.idxOf second
  parentLast : ∀ id, parent = some id → id ≠ "" → entries.getLast? = some id

/-- No new id follows the parent's own Message-ID where it first stands among the
ancestors. -/
def ParentStaysLast
    (ancestors : List String)
    (parent : Option String) : Prop :=
  ∀ id, parent = some id → id ≠ "" → ∀ other ∈ ancestors.dropWhile (· != id),
    other = "" ∨ other = id ∨ other ∈ ancestors.takeWhile (· != id)

section Header

variable {ancestors : List String} {parent : Option String} {id : String}

/-- Where the parent's own Message-ID is the last entry. -/
theorem getLast?_collectReferences_iff (nonempty : id ≠ "") :
    (collectReferences [] (ancestors ++ [id])).getLast? = some id ↔
      ∀ other ∈ ancestors.dropWhile (· != id),
        other = "" ∨ other = id ∨ other ∈ ancestors.takeWhile (· != id) := by
  have new : id ∉ ancestors.takeWhile (· != id) := by
    intro member
    have apart := List.mem_takeWhile_imp member
    simp at apart
  have parts := List.takeWhile_append_dropWhile (p := (· != id)) (l := ancestors)
  generalize ancestors.takeWhile (· != id) = before at *
  cases follows : ancestors.dropWhile (· != id) with
  | nil =>
      rw [follows, List.append_nil] at parts
      rw [collectReferences_concat_of_new nonempty List.not_mem_nil (parts ▸ new),
        List.getLast?_concat]
      exact iff_of_true rfl fun other member => (List.not_mem_nil member).elim
  | cons first after =>
      obtain rfl : first = id := by
        have stopped := List.head?_dropWhile_not (· != id) ancestors
        rw [follows] at stopped
        simpa using stopped
      rw [follows] at parts
      have shape : collectReferences [] ancestors =
          collectReferences [] before ++ first :: collectReferences (first :: before) after := by
        rw [← parts, collectReferences_append, List.append_nil, collectReferences, if_neg]
        exact not_or.mpr ⟨nonempty, new⟩
      have last : (collectReferences [] ancestors).getLast? = some first ↔
          collectReferences (first :: before) after = [] := by
        rw [shape, List.getLast?_append, List.getLast?_cons, Option.some_or]
        cases rest : collectReferences (first :: before) after with
        | nil => exact iff_of_true rfl rfl
        | cons second others =>
            refine iff_of_false (fun same => ?_) nofun
            have present : first ∈ collectReferences (first :: before) after := by
              rw [rest]
              exact List.mem_of_getLast? same
            exact (mem_collectReferences_iff.mp present).2.2 List.mem_cons_self
      have old : first ∈ ancestors := by
        rw [← parts]
        exact List.mem_append_right _ List.mem_cons_self
      rw [collectReferences_concat_of_old (.inr old), last, collectReferences_eq_nil_iff,
        List.forall_mem_cons]
      simp only [List.mem_cons]
      exact ⟨fun stays => ⟨.inr (.inl trivial), stays⟩, fun stays => stays.2⟩

/-- The loop collects the entries of the header, and the parent is the last one of them where
it stays last. -/
theorem referenceEntries_iff :
    ReferenceEntries ancestors parent (collectReferences [] (ancestors ++ parent.toList)) ↔
      ParentStaysLast ancestors parent := by
  constructor
  · rintro entries id rfl nonempty
    exact (getLast?_collectReferences_iff nonempty).mp (entries.parentLast id rfl nonempty)
  · intro stays
    refine ⟨nodup_collectReferences, fun id => ?_, ?_, ?_⟩
    · rw [mem_collectReferences_iff]
      exact and_congr_right fun _ => and_iff_left List.not_mem_nil
    · refine (pairwise_collectReferences.filter _).imp_of_mem ?_
      intro first second one other before
      have ancestor : ∀ id ∈ (collectReferences [] (ancestors ++ parent.toList)).filter
          (fun id => some id != parent), id ∈ ancestors := by
        intro id member
        obtain ⟨collected, apart⟩ := List.mem_filter.mp member
        rcases List.mem_append.mp (mem_collectReferences_iff.mp collected).2.1 with here | own
        · exact here
        · exact (bne_iff_ne.mp apart (Option.mem_toList.mp own).symm).elim
      rw [List.idxOf_append_of_mem (ancestor first one),
        List.idxOf_append_of_mem (ancestor second other)] at before
      exact before
    · rintro id rfl nonempty
      exact (getLast?_collectReferences_iff nonempty).mpr (stays id rfl nonempty)

theorem buildReferencesHeader_eq
    (references : List String)
    (inReplyTo messageId : Option String) :
    buildReferencesHeader references inReplyTo messageId =
      referencesText
        (collectReferences [] (references ++ inReplyTo.toList ++ messageId.toList)) := by
  unfold buildReferencesHeader referencesText
  cases collectReferences [] (references ++ inReplyTo.toList ++ messageId.toList) with
  | nil => rfl
  | cons first rest => rfl

end Header

/-- The real Message-IDs of the References header of a stored row, and of its In-Reply-To. -/
def storedAncestors (parent : Message) : List String :=
  ((PyText.split (parent.referencesHeader.getD "")).filter fun id =>
    (realMessageId (some id)).isSome) ++ (realMessageId parent.inReplyToHeader).toList

/-- The header joins the entries that the loop collects, and these are the entries of a
References header exactly if the parent stays last. The same holds for the header of the
snapshot of a stored parent. -/
theorem references_header_parent_last_iff
    (references : List String)
    (inReplyTo messageId : Option String) :
    (buildReferencesHeader references inReplyTo messageId =
        referencesText
          (collectReferences [] (references ++ inReplyTo.toList ++ messageId.toList)) ∧
      (ReferenceEntries (references ++ inReplyTo.toList) messageId
          (collectReferences [] (references ++ inReplyTo.toList ++ messageId.toList)) ↔
        ParentStaysLast (references ++ inReplyTo.toList) messageId)) ∧
      ∀ key parent snapshot, replyParentSnapshot key parent = .ok snapshot →
        snapshot.referencesHeader =
          referencesText (collectReferences []
            (storedAncestors parent ++ (realMessageId parent.messageIdHeader).toList)) ∧
        (ReferenceEntries (storedAncestors parent) (realMessageId parent.messageIdHeader)
            (collectReferences []
              (storedAncestors parent ++ (realMessageId parent.messageIdHeader).toList)) ↔
          ParentStaysLast (storedAncestors parent)
            (realMessageId parent.messageIdHeader)) := by
  refine ⟨⟨buildReferencesHeader_eq _ _ _, referenceEntries_iff⟩, ?_⟩
  intro key parent snapshot taken
  refine ⟨?_, referenceEntries_iff⟩
  unfold replyParentSnapshot at taken
  cases threaded :
      (realMessageId parent.messageIdHeader).or (realMessageId parent.inReplyToHeader) with
  | none =>
      simp only [threaded] at taken
      cases taken
  | some threadTo =>
      simp only [threaded] at taken
      cases taken
      exact buildReferencesHeader_eq _ _ _

namespace Sample

/-- A row whose References header already contains its own Message-ID. -/
def selfReferring : Message where
  contactId := 0
  direction := .inbound
  subject := some "Hello"
  body := "Hi"
  status := .received
  messageIdHeader := some "<mid2@x>"
  referencesHeader := some "<mid2@x> <root@x>"

/-- A row at the end of its thread. -/
def latest : Message :=
  { selfReferring with
    referencesHeader := some "<root@x> <mid1@x>"
    inReplyToHeader := some "<mid1@x>" }

/-- The snapshot of a row, by its header. -/
theorem exists_snapshot
    {parent : Message}
    {header : String}
    (found : (replyParentSnapshot 0 parent).toOption.bind ReplyParent.referencesHeader =
      some header) :
    ∃ snapshot, replyParentSnapshot 0 parent = .ok snapshot ∧
      snapshot.referencesHeader = some header := by
  obtain ⟨snapshot, present, same⟩ := Option.bind_eq_some_iff.mp found
  cases taken : replyParentSnapshot 0 parent with
  | error refusal =>
      rw [taken] at present
      cases present
  | ok other =>
      rw [taken] at present
      obtain rfl := Option.some.inj present
      exact ⟨other, rfl, same⟩

end Sample

/-- The ancestors of the row contain its own Message-ID, and its header ends in another
one. -/
theorem references_header_parent_not_last :
    (buildReferencesHeader ["<mid2@x>", "<root@x>"] none (some "<mid2@x>") =
        some "<mid2@x> <root@x>" ∧
      ¬ReferenceEntries ["<mid2@x>", "<root@x>"] (some "<mid2@x>")
        (collectReferences [] ["<mid2@x>", "<root@x>", "<mid2@x>"])) ∧
    ∃ snapshot, replyParentSnapshot 0 Sample.selfReferring = .ok snapshot ∧
      snapshot.referencesHeader = some "<mid2@x> <root@x>" := by
  refine ⟨⟨by decide +kernel, fun entries => ?_⟩, Sample.exists_snapshot (by decide +kernel)⟩
  have last := entries.parentLast "<mid2@x>" rfl (by decide)
  revert last
  decide +kernel

/-- The header of the latest row of a thread ends in its Message-ID. -/
theorem references_header_of_latest :
    ∃ snapshot, replyParentSnapshot 0 Sample.latest = .ok snapshot ∧
      snapshot.referencesHeader = some "<root@x> <mid1@x> <mid2@x>" ∧
      ReferenceEntries ["<root@x>", "<mid1@x>", "<mid1@x>"] (some "<mid2@x>")
        ["<root@x>", "<mid1@x>", "<mid2@x>"] := by
  obtain ⟨snapshot, taken, header⟩ : ∃ snapshot,
      replyParentSnapshot 0 Sample.latest = .ok snapshot ∧
        snapshot.referencesHeader = some "<root@x> <mid1@x> <mid2@x>" :=
    Sample.exists_snapshot (by decide +kernel)
  have ancestors : storedAncestors Sample.latest = ["<root@x>", "<mid1@x>", "<mid1@x>"] := by
    decide +kernel
  have own : realMessageId Sample.latest.messageIdHeader = some "<mid2@x>" := by decide +kernel
  have listed := ((references_header_parent_last_iff [] none none).2 0 Sample.latest snapshot
    taken).2
  rw [ancestors, own] at listed
  refine ⟨snapshot, taken, header, listed.mpr ?_⟩
  rintro id ⟨⟩ nonempty
  decide +kernel

end MailerAgent
