import Letterbox.Snapshot
import Mathlib

/-!
# Lists of message numbers

The numbers of the entries that answer a query, in order, and the ranges that hold exactly some numbers.
-/

namespace Letterbox

/-- Numbers in order. -/
def sortedUids (uids : List Uid) : List Uid :=
  uids.mergeSort fun one other => decide (one ≤ other)

theorem mem_sortedUids {uid : Uid} {uids : List Uid} : uid ∈ sortedUids uids ↔ uid ∈ uids :=
  List.mem_mergeSort

theorem sortedUids_perm (uids : List Uid) : (sortedUids uids).Perm uids :=
  List.mergeSort_perm _ _

theorem pairwise_sortedUids (uids : List Uid) : (sortedUids uids).Pairwise (· ≤ ·) := by
  have ordered := @List.pairwise_mergeSort _ (fun one other : Uid => decide (one ≤ other))
    (by simpa using fun _ _ _ => UInt64.le_trans) (by simpa using UInt64.le_total) uids
  simpa [sortedUids] using ordered

/-- Numbers that do not repeat are in strict order. -/
theorem strict_sortedUids {uids : List Uid} (distinct : uids.Nodup) :
    (sortedUids uids).Pairwise (· < ·) := by
  have apart : (sortedUids uids).Nodup := (sortedUids_perm uids).nodup_iff.mpr distinct
  exact (pairwise_sortedUids uids).imp₂ (fun _ _ => UInt64.lt_of_le_of_ne) apart

/-- The last of some numbers in strict order is the greatest. -/
theorem getLast?_eq_some_iff_greatest {uids : List Uid} (strict : uids.Pairwise (· < ·)) {uid : Uid} :
    uids.getLast? = some uid ↔ uid ∈ uids ∧ ∀ other ∈ uids, other ≤ uid := by
  constructor
  · intro last
    obtain ⟨before, rfl⟩ := List.getLast?_eq_some_iff.mp last
    refine ⟨by simp, fun other listed => ?_⟩
    rcases List.mem_append.mp listed with listed | listed
    · exact UInt64.le_of_lt ((List.pairwise_append.mp strict).2.2 other listed uid (by simp))
    · rw [List.mem_singleton.mp listed]
      exact UInt64.le_refl uid
  · rintro ⟨listed, greatest⟩
    obtain ⟨last, found⟩ := Option.isSome_iff_exists.mp
      (List.getLast?_isSome.mpr (List.ne_nil_of_mem listed))
    obtain ⟨before, rfl⟩ := List.getLast?_eq_some_iff.mp found
    rcases List.mem_append.mp listed with early | late
    · have below := (List.pairwise_append.mp strict).2.2 uid early last (by simp)
      exact absurd (greatest last (by simp)) (UInt64.not_le.mpr below)
    · rw [List.mem_singleton.mp late]
      exact found

namespace UidRange

variable {range : UidRange} {uid number : Uid} {uids : List Uid}

@[simp] theorem contains_iff : range.contains uid = true ↔ range.first ≤ uid ∧ uid ≤ range.last := by
  simp [contains]

@[simp] theorem contains_single : (single number).contains uid = true ↔ uid = number := by
  simp only [single, contains_iff]
  exact ⟨fun h => UInt64.le_antisymm h.2 h.1, by rintro rfl; simp⟩

/-- A range lengthened by the number behind it holds that number besides. -/
theorem contains_lengthened (ordered : range.first ≤ range.last) (behind : range.last < number)
    (next : number - range.last = 1) :
    (⟨range.first, number⟩ : UidRange).contains uid = true
      ↔ range.contains uid = true ∨ uid = number := by
  have distance := UInt64.toNat_sub_of_le _ _ (UInt64.le_of_lt behind)
  rw [next] at distance
  simp only [contains_iff, UInt64.le_iff_toNat_le, UInt64.lt_iff_toNat_lt, ← UInt64.toNat_inj]
    at ordered behind distance ⊢
  simp only [UInt64.toNat_one] at distance
  omega

/-- The ranges that continue a range hold its numbers and those that are added, which are in order. -/
theorem exists_contains_extend (sorted : uids.Pairwise (· ≤ ·)) (above : ∀ one ∈ uids, range.first ≤ one)
    (ordered : range.first ≤ range.last) :
    (∃ one ∈ extend range uids, one.contains uid = true) ↔ range.contains uid = true ∨ uid ∈ uids := by
  induction uids generalizing range with
  | nil => simp [extend]
  | cons number rest ih =>
      obtain ⟨least, sorted⟩ := List.pairwise_cons.mp sorted
      have start : range.first ≤ number := above number List.mem_cons_self
      have others : ∀ one ∈ rest, range.first ≤ one := fun one h =>
        above one (List.mem_cons_of_mem _ h)
      unfold extend
      split
      · next inside =>
        rw [ih sorted others ordered, List.mem_cons]
        constructor
        · rintro (held | held)
          · exact Or.inl held
          · exact Or.inr (Or.inr held)
        · rintro (held | rfl | held)
          · exact Or.inl held
          · exact Or.inl (contains_iff.mpr ⟨start, inside⟩)
          · exact Or.inr held
      · next outside =>
        split
        · next next =>
          rw [@ih ⟨range.first, number⟩ sorted others start,
            contains_lengthened ordered (UInt64.not_le.mp outside) next, List.mem_cons, or_assoc]
        · next =>
          rw [List.exists_mem_cons_iff, @ih (single number) sorted least (UInt64.le_refl _),
            List.mem_cons, contains_single]

theorem compress_eq (uids : List Uid) :
    compress uids
      = match sortedUids uids with
        | [] => []
        | uid :: rest => extend (single uid) rest :=
  rfl

/-- Compressed numbers are those that were given. -/
theorem exists_contains_compress (uids : List Uid) (uid : Uid) :
    (∃ range ∈ compress uids, range.contains uid = true) ↔ uid ∈ uids := by
  have sorted := pairwise_sortedUids uids
  rw [← mem_sortedUids, compress_eq]
  cases listed : sortedUids uids with
  | nil => simp
  | cons first rest =>
      rw [listed] at sorted
      obtain ⟨least, sorted⟩ := List.pairwise_cons.mp sorted
      rw [@exists_contains_extend (single first) uid rest sorted least (UInt64.le_refl _),
        List.mem_cons, contains_single]

end UidRange

namespace Snapshot

variable {snapshot : Snapshot} {query : Query} {uid : Uid}

theorem mem_select {entry : Entry} :
    entry ∈ snapshot.select query ↔ entry ∈ snapshot ∧ query.selects entry = true := by
  simp [select]

theorem uids_eq (snapshot : Snapshot) (query : Query) :
    snapshot.uids query = sortedUids ((snapshot.select query).map Entry.uid) :=
  rfl

/-- The numbers of the entries that answer a query. -/
theorem mem_uids :
    uid ∈ snapshot.uids query
      ↔ ∃ entry ∈ snapshot, query.selects entry = true ∧ entry.uid = uid := by
  simp [uids_eq, mem_sortedUids, mem_select, and_assoc]

/-- If no two entries that answer a query belong to one number, the numbers are in strict order. -/
theorem strict_uids (distinct : ((snapshot.select query).map Entry.uid).Nodup) :
    (snapshot.uids query).Pairwise (· < ·) :=
  strict_sortedUids distinct

end Snapshot

end Letterbox
