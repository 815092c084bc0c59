import Mathlib.Data.Finset.Card
import PrdAgent.Runcontrol.Machine

/-!
# Batches of evidence

Evidence is identified by the key it is stored under. `AppendEvidence` checks an item only when its
loop comes to it, so an incomplete item ends the call with an error and leaves the new items before
it stored. A batch without incomplete items is united with what is stored, in any order.
-/

namespace PrdAgent.Runcontrol

open AssocMap GoText

namespace MemoryStore

variable {rt : Runtime} {call : Call} {runID : String} {items : List EvidenceItem}
  {evidence after : GoMap EvidenceRecord}

def evidenceParts (runID : String) (item : EvidenceItem) : List String :=
  [runID, item.sourceType, item.sourceID, item.locator, item.excerptHash]

def evidenceKey (runID : String) (item : EvidenceItem) : String := joinNul (evidenceParts runID item)

def recordParts (record : EvidenceRecord) : List String :=
  [record.runID, record.sourceType, record.sourceID, record.locator, record.excerptHash]

def evidenceRecord (rt : Runtime) (call : Call) (runID : String) (item : EvidenceItem) :
    EvidenceRecord where
  evidenceID := "evidence-" ++ rt.stableHash (evidenceKey runID item)
  runID := runID
  sourceType := item.sourceType
  sourceID := item.sourceID
  locator := item.locator
  excerptHash := item.excerptHash
  excerpt := item.excerpt
  createdAt := call.now

/-- An item that `AppendEvidence` does not refuse. -/
def CompleteItem (item : EvidenceItem) : Prop :=
  ¬(item.sourceType = "" ∨ item.sourceID = "" ∨ item.locator = "" ∨ item.excerptHash = "")

instance (item : EvidenceItem) : Decidable (CompleteItem item) := inferInstanceAs (Decidable ¬_)

/-- What is stored after a batch is what was stored before, united with the items of the batch. -/
structure EvidenceUnited (rt : Runtime) (call : Call) (runID : String) (items : List EvidenceItem)
    (evidence after : GoMap EvidenceRecord) : Prop where
  kept : ∀ key record, evidence.get key = some record → after.get key = some record
  each : ∀ item ∈ items, (after.get (evidenceKey runID item)).isSome
  only : ∀ key record, after.get key = some record → evidence.get key = some record ∨
    ∃ item ∈ items, evidenceKey runID item = key ∧ record = evidenceRecord rt call runID item

theorem EvidenceUnited.isSome_iff (united : EvidenceUnited rt call runID items evidence after)
    {key : String} : (after.get key).isSome ↔
      (evidence.get key).isSome ∨ key ∈ items.map (evidenceKey runID) := by
  simp only [Option.isSome_iff_exists, List.mem_map]
  constructor
  · rintro ⟨record, stored⟩
    rcases united.only key record stored with old | ⟨item, mem, is, -⟩
    · exact .inl ⟨record, old⟩
    · exact .inr ⟨item, mem, is⟩
  · rintro (⟨record, stored⟩ | ⟨item, mem, rfl⟩)
    · exact ⟨record, united.kept key record stored⟩
    · exact Option.isSome_iff_exists.mp (united.each item mem)

/-- Records stay under the keys of their own parts. What is stored under the key of an item is then of
the item, if its texts have no NUL character. -/
theorem EvidenceUnited.ofItem (united : EvidenceUnited rt call runID items evidence after)
    (keyed : evidence.Keyed (joinNul ∘ recordParts)) : after.Keyed (joinNul ∘ recordParts) ∧
      ∀ item ∈ items, (∀ part ∈ evidenceParts runID item, NulFree part) →
        ∃ record, after.get (evidenceKey runID item) = some record ∧
          recordParts record = evidenceParts runID item := by
  have keyed : after.Keyed (joinNul ∘ recordParts) := by
    intro key record stored
    rcases united.only key record stored with old | ⟨item, -, is, rfl⟩
    · exact keyed key record old
    · exact is
  refine ⟨keyed, fun item mem free => ?_⟩
  obtain ⟨record, stored⟩ := Option.isSome_iff_exists.mp (united.each item mem)
  exact ⟨record, stored, (joinNul_inj free (by rfl) (keyed _ record stored).symm).symm⟩

def newEvidence (runID : String) (items : List EvidenceItem) (evidence : GoMap EvidenceRecord) :
    Finset String :=
  (items.map (evidenceKey runID)).toFinset.filter fun key => evidence.get key = none

theorem appendItems_cons {item : EvidenceItem} (complete : CompleteItem item) (accepted : Nat) :
    appendItems rt call runID (item :: items) evidence accepted =
      if (evidence.get (evidenceKey runID item)).isSome then
        appendItems rt call runID items evidence accepted
      else appendItems rt call runID items (evidence.set (evidenceKey runID item)
        (evidenceRecord rt call runID item)) (accepted + 1) :=
  if_neg complete

theorem appendItems_incomplete {item : EvidenceItem} (incomplete : ¬CompleteItem item)
    (accepted : Nat) : appendItems rt call runID (item :: items) evidence accepted =
      (evidence, .error ⟨.invalidPayload, ""⟩) :=
  if_pos (not_not.mp incomplete)

theorem appendItems_united (complete : ∀ item ∈ items, CompleteItem item) (accepted : Nat) :
    EvidenceUnited rt call runID items evidence
      (appendItems rt call runID items evidence accepted).1 := by
  induction items generalizing evidence accepted with
  | nil => exact ⟨fun _ _ => id, nofun, fun _ _ => .inl⟩
  | cons item rest hyp =>
    obtain ⟨this, complete⟩ := List.forall_mem_cons.mp complete
    rw [appendItems_cons this]
    split
    · next stored =>
      have united := @hyp evidence complete accepted
      refine ⟨united.kept, List.forall_mem_cons.mpr ⟨united.isSome_iff.mpr (.inl stored),
        united.each⟩, fun key record found => (united.only key record found).imp_right ?_⟩
      rintro ⟨other, mem, made⟩
      exact ⟨other, .tail _ mem, made⟩
    · next unused =>
      have unused := Option.not_isSome_iff_eq_none.mp unused
      have united := @hyp (evidence.set (evidenceKey runID item)
        (evidenceRecord rt call runID item)) complete (accepted + 1)
      refine ⟨fun key record stored => united.kept key record (get_set_of_unused unused stored),
        List.forall_mem_cons.mpr ⟨Option.isSome_iff_exists.mpr
          ⟨_, united.kept _ _ (get_set_self _ _ _)⟩, united.each⟩, fun key record found => ?_⟩
      rcases united.only key record found with old | ⟨other, mem, made⟩
      · rcases get_set_eq_some old with ⟨rfl, rfl⟩ | ⟨-, old⟩
        · exact .inr ⟨item, .head _, rfl, rfl⟩
        · exact .inl old
      · exact .inr ⟨other, .tail _ mem, made⟩

theorem appendItems_reply (accepted : Nat) :
    (appendItems rt call runID items evidence accepted).2 =
      if ∀ item ∈ items, CompleteItem item then
        .ok (accepted + (newEvidence runID items evidence).card)
      else .error ⟨.invalidPayload, ""⟩ := by
  induction items generalizing evidence accepted with
  | nil => rfl
  | cons item rest hyp =>
    by_cases this : CompleteItem item
    · simp only [List.forall_mem_cons, this, true_and]
      rw [appendItems_cons this]
      split
      · next stored =>
        have same : newEvidence runID (item :: rest) evidence = newEvidence runID rest evidence := by
          simp only [newEvidence, List.map_cons, List.toFinset_cons, Finset.filter_insert]
          rw [if_neg (Option.isSome_iff_ne_none.mp stored)]
        rw [same, hyp]
      · next unused =>
        have grown : newEvidence runID (item :: rest) evidence = insert (evidenceKey runID item)
            (newEvidence runID rest (evidence.set (evidenceKey runID item)
              (evidenceRecord rt call runID item))) := by
          ext key
          simp only [newEvidence, Finset.mem_filter, Finset.mem_insert, List.map_cons,
            List.toFinset_cons, get_set]
          by_cases is : key = evidenceKey runID item
          · simp only [is, true_or, if_true, Option.not_isSome_iff_eq_none.mp unused, and_self]
          · simp only [is, false_or, if_false]
        rw [grown, Finset.card_insert_of_notMem (by simp [newEvidence]), hyp,
          Nat.add_assoc, Nat.add_comm 1]
    · rw [if_neg fun complete => this (complete item (.head _))]
      rw [appendItems_incomplete this]

/-- The items before the first incomplete one. -/
def completeFront (items : List EvidenceItem) : List EvidenceItem :=
  items.takeWhile fun item => CompleteItem item

theorem completeFront_complete {item : EvidenceItem} (mem : item ∈ completeFront items) :
    CompleteItem item := by
  simpa using List.mem_takeWhile_imp mem

theorem completeFront_cons (item : EvidenceItem) : completeFront (item :: items) =
    if CompleteItem item then item :: completeFront items else [] := by
  simp only [completeFront, List.takeWhile_cons, decide_eq_true_eq]

theorem appendItems_front (accepted : Nat) : (appendItems rt call runID items evidence accepted).1 =
    (appendItems rt call runID (completeFront items) evidence accepted).1 := by
  induction items generalizing evidence accepted with
  | nil => rfl
  | cons item rest hyp =>
    by_cases this : CompleteItem item
    · rw [completeFront_cons, if_pos this, appendItems_cons this, appendItems_cons this]
      split <;> exact hyp _
    · rw [completeFront_cons, if_neg this, appendItems_incomplete this]
      rfl

theorem appendItems_stored (stored : ∀ item ∈ completeFront items,
      evidence.get (evidenceKey runID item) ≠ none) (accepted : Nat) :
    (appendItems rt call runID items evidence accepted).1 = evidence := by
  induction items with
  | nil => rfl
  | cons item rest hyp =>
    by_cases this : CompleteItem item
    · rw [completeFront_cons, if_pos this] at stored
      rw [appendItems_cons this, if_pos (Option.isSome_iff_ne_none.mpr (stored item (.head _)))]
      exact hyp fun other mem => stored other (.tail _ mem)
    · rw [appendItems_incomplete this]

variable {lease : LeaseContext} {s t : MemoryStore}

theorem appendEvidence_ok {accepted : Nat}
    (done : (appendEvidence rt call lease items s).2 = .ok accepted) :
    EvidenceUnited rt call lease.runID items s.evidence
        (appendEvidence rt call lease items s).1.evidence ∧
      accepted = (newEvidence lease.runID items s.evidence).card := by
  unfold appendEvidence at done ⊢
  split at done
  · cases done
  · dsimp only at done ⊢
    rw [appendItems_reply, Nat.zero_add] at done
    split at done
    · next complete => exact ⟨appendItems_united complete 0, (Except.ok.inj done).symm⟩
    · cases done

/-- A batch appended under a lease, at the time of its call. -/
structure EvidenceBatch where
  call : Call
  lease : LeaseContext
  items : List EvidenceItem

/-- The state after all the batches were accepted in turn. -/
def appendBatches (rt : Runtime) : List EvidenceBatch → MemoryStore → Option MemoryStore
  | [], s => some s
  | batch :: rest, s =>
    match appendEvidence rt batch.call batch.lease batch.items s with
    | (_, .error _) => none
    | (t, .ok _) => appendBatches rt rest t

def batchKeys (batches : List EvidenceBatch) : List String :=
  batches.flatMap fun batch => batch.items.map (evidenceKey batch.lease.runID)

theorem appendBatches_stored {batches : List EvidenceBatch}
    (done : appendBatches rt batches s = some t) (key : String) :
    (t.evidence.get key).isSome ↔ (s.evidence.get key).isSome ∨ key ∈ batchKeys batches := by
  induction batches generalizing s with
  | nil =>
    cases done
    simp [batchKeys]
  | cons batch rest hyp =>
    unfold appendBatches at done
    split at done
    · cases done
    · next is =>
      have united := (appendEvidence_ok (congrArg Prod.snd is)).1
      rw [is] at united
      rw [hyp done, united.isSome_iff, or_assoc, ← List.mem_append]
      rfl

/-- A call is all or nothing except when its lease is valid and an incomplete item of the batch comes
after a new one. -/
theorem evidence_all_or_nothing_iff (rt : Runtime) (call : Call) (lease : LeaseContext)
    (items : List EvidenceItem) (s : MemoryStore) :
    ((∀ err, (appendEvidence rt call lease items s).2 = .error err →
        (appendEvidence rt call lease items s).1.evidence = s.evidence) ∧
      (∀ accepted, (appendEvidence rt call lease items s).2 = .ok accepted →
        EvidenceUnited rt call lease.runID items s.evidence
            (appendEvidence rt call lease items s).1.evidence ∧
          (s.evidence.Keyed (joinNul ∘ recordParts) →
            (appendEvidence rt call lease items s).1.evidence.Keyed (joinNul ∘ recordParts) ∧
            ∀ item ∈ items, (∀ part ∈ evidenceParts lease.runID item, NulFree part) →
              ∃ record, (appendEvidence rt call lease items s).1.evidence.get
                  (evidenceKey lease.runID item) = some record ∧
                recordParts record = evidenceParts lease.runID item) ∧
          accepted = (newEvidence lease.runID items s.evidence).card) ∧
      ∀ batches batches' t t', appendBatches rt batches s = some t →
        appendBatches rt batches' s = some t' →
        (∀ key, key ∈ batchKeys batches ↔ key ∈ batchKeys batches') →
        ∀ key, (t.evidence.get key).isSome ↔ (t'.evidence.get key).isSome) ↔
    ¬((∃ run, s.validateLeaseLocked lease call.now = .ok run) ∧
      (∃ item ∈ items, ¬CompleteItem item) ∧
      ∃ item ∈ completeFront items, s.evidence.get (evidenceKey lease.runID item) = none) := by
  constructor
  · rintro ⟨unchanged, -, -⟩ ⟨⟨run, valid⟩, ⟨bad, listed, incomplete⟩, item, mem, new⟩
    unfold appendEvidence at unchanged
    rw [valid] at unchanged
    dsimp only at unchanged
    rw [appendItems_reply, if_neg fun complete => incomplete (complete bad listed)] at unchanged
    have united : EvidenceUnited rt call lease.runID (completeFront items) s.evidence _ :=
      appendItems_united (fun _ => completeFront_complete) 0
    have stored := united.each item mem
    rw [← appendItems_front, unchanged _ rfl, new] at stored
    cases stored
  · intro early
    refine ⟨fun err failed => ?_, fun accepted done =>
        have ⟨united, count⟩ := appendEvidence_ok done
        ⟨united, united.ofItem, count⟩,
      fun batches batches' t t' done done' same key => by
        rw [appendBatches_stored done, appendBatches_stored done', same key]⟩
    unfold appendEvidence at failed ⊢
    split at failed
    · rfl
    · next run valid =>
      dsimp only at failed ⊢
      rw [appendItems_reply] at failed
      split at failed
      · cases failed
      · next incomplete =>
        push Not at incomplete
        exact appendItems_stored (fun item mem new =>
          early ⟨⟨run, valid⟩, incomplete, item, mem, new⟩) 0

def brokenBatch : List EvidenceItem := [⟨"doc", "d1", "p1", "h1", "a"⟩, ⟨"doc", "d1", "p2", "", "b"⟩]

def leasedStore : MemoryStore := stateAfter (.ofKnown {}) oneSlot [
  ⟨.at 1 "a1", .createTaskWithRun "tenant" "ann" "m" "start"⟩,
  ⟨.at 2 "b1", .acquireRun "run-a1" "worker" 2 50⟩]

theorem broken_batch_half_stored :
    (appendEvidence (.ofKnown {}) (.at 3 "c1") firstLease brokenBatch leasedStore).2 =
        .error ⟨.invalidPayload, ""⟩ ∧
      leasedStore.evidence.keys = [] ∧
      (appendEvidence (.ofKnown {}) (.at 3 "c1") firstLease brokenBatch leasedStore).1.evidence.keys =
        [joinNul ["run-a1", "doc", "d1", "p1", "h1"]] := by
  decide +kernel

end MemoryStore

end PrdAgent.Runcontrol
