import Letterbox.Proofs.UidList

/-!
# Stretches of message numbers

Numbers that follow each other without a gap are a stretch. Main statement: compressing numbers gives their
stretches in order, which are the fewest ranges that hold exactly these numbers, whatever the order in which the
numbers came and however often.
-/

namespace Letterbox.UidRange

/-- A number lies in some of the ranges. -/
def Covers (ranges : List UidRange) (uid : Uid) : Prop :=
  ∃ range ∈ ranges, range.contains uid = true

/-- At least one number is missing between two ranges. -/
def Apart (one other : UidRange) : Prop :=
  one.last.toNat + 1 < other.first.toNat

/-- The ends of each range are in order, and a number is missing between any two ranges. -/
structure AreSparse (ranges : List UidRange) : Prop where
  ordered : ∀ range ∈ ranges, range.first ≤ range.last
  apart : ranges.Pairwise Apart

/-- A range holds only numbers of a set, and the set has neither the number before it nor the one behind it. -/
structure IsStretch (held : Uid → Prop) (range : UidRange) : Prop where
  ordered : range.first ≤ range.last
  inside : ∀ uid, range.contains uid = true → held uid
  before : ∀ uid : Uid, uid.toNat + 1 = range.first.toNat → ¬ held uid
  behind : ∀ uid : Uid, uid.toNat = range.last.toNat + 1 → ¬ held uid

theorem contains_iff_toNat {range : UidRange} {uid : Uid} :
    range.contains uid = true ↔ range.first.toNat ≤ uid.toNat ∧ uid.toNat ≤ range.last.toNat := by
  rw [contains_iff, UInt64.le_iff_toNat_le, UInt64.le_iff_toNat_le]

/-- Each number of 64 bits is that of some message. -/
theorem exists_toNat_eq {number : Nat} (bound : number < 2 ^ 64) : ∃ uid : Uid, uid.toNat = number :=
  ⟨.ofNat number, UInt64.toNat_ofNat_of_lt' bound⟩

/-! ## Stretches -/

namespace IsStretch

variable {held : Uid → Prop} {range other : UidRange} {uid : Uid}

theorem contains_first (isStretch : IsStretch held range) : range.contains range.first = true :=
  contains_iff.mpr ⟨UInt64.le_refl _, isStretch.ordered⟩

/-- A stretch holds every range of the same numbers that it meets. -/
theorem encloses (isStretch : IsStretch held range) (inside : ∀ uid, other.contains uid = true → held uid)
    (here : range.contains uid = true) (there : other.contains uid = true) :
    range.first.toNat ≤ other.first.toNat ∧ other.last.toNat ≤ range.last.toNat := by
  rw [contains_iff_toNat] at here there
  have bound := other.last.toNat_lt
  -- a range that goes on beyond an end of the stretch holds the number next to it
  constructor
  · by_contra beyond
    obtain ⟨previous, place⟩ : ∃ uid : Uid, uid.toNat = range.first.toNat - 1 := exists_toNat_eq (by omega)
    exact isStretch.before previous (by omega) (inside previous (contains_iff_toNat.mpr ⟨by omega, by omega⟩))
  · by_contra beyond
    obtain ⟨next, place⟩ : ∃ uid : Uid, uid.toNat = range.last.toNat + 1 := exists_toNat_eq (by omega)
    exact isStretch.behind next place (inside next (contains_iff_toNat.mpr ⟨by omega, by omega⟩))

/-- Stretches of the same numbers that meet are one. -/
theorem eq_of_meet (one : IsStretch held range) (two : IsStretch held other)
    (here : range.contains uid = true) (there : other.contains uid = true) : range = other := by
  obtain ⟨first, last⟩ := one.encloses two.inside here there
  obtain ⟨start, stop⟩ := two.encloses one.inside there here
  cases range
  cases other
  exact UidRange.mk.injEq .. |>.mpr
    ⟨UInt64.toNat_inj.mp (Nat.le_antisymm first start), UInt64.toNat_inj.mp (Nat.le_antisymm stop last)⟩

end IsStretch

/-! ## Sparse ranges -/

namespace AreSparse

variable {ranges others : List UidRange} {range other : UidRange}

theorem nodup (sparse : AreSparse ranges) : ranges.Nodup := by
  refine sparse.apart.imp_of_mem fun {one two} listed _ apart same => ?_
  subst same
  have ordered := UInt64.le_iff_toNat_le.mp (sparse.ordered one listed)
  unfold Apart at apart
  omega

/-- Two different ranges are apart, in one order or the other. -/
theorem apart_or_apart (sparse : AreSparse ranges) (first : range ∈ ranges) (second : other ∈ ranges)
    (different : range ≠ other) : Apart range other ∨ Apart other range := by
  have either : ranges.Pairwise fun one two => Apart one two ∨ Apart two one := sparse.apart.imp Or.inl
  have symmetric : Std.Symm fun one two => Apart one two ∨ Apart two one := ⟨fun _ _ => Or.symm⟩
  exact either.forall first second different

/-- Sparse ranges are stretches of the numbers that they hold. -/
theorem isStretch (sparse : AreSparse ranges) (listed : range ∈ ranges) : IsStretch (Covers ranges) range := by
  -- a number that is not in the range lies in one that is apart from it
  have elsewhere : ∀ uid : Uid, Covers ranges uid →
      uid.toNat < range.first.toNat ∨ range.last.toNat < uid.toNat →
        uid.toNat + 1 < range.first.toNat ∨ range.last.toNat + 1 < uid.toNat := by
    rintro uid ⟨other, present, inside⟩ outside
    rw [contains_iff_toNat] at inside
    have different : range ≠ other := by
      rintro rfl
      omega
    rcases sparse.apart_or_apart listed present different with apart | apart
    · exact Or.inr (Nat.lt_of_lt_of_le apart inside.1)
    · exact Or.inl (Nat.lt_of_le_of_lt (Nat.succ_le_succ inside.2) apart)
  have ordered := UInt64.le_iff_toNat_le.mp (sparse.ordered range listed)
  refine ⟨sparse.ordered range listed, fun uid inside => ⟨range, listed, inside⟩, ?_, ?_⟩
  · intro uid place held
    have := elsewhere uid held (Or.inl (by omega))
    omega
  · intro uid place held
    have := elsewhere uid held (Or.inr (by omega))
    omega

/-- Sparse ranges are all stretches of the numbers that they hold. -/
theorem mem_iff (sparse : AreSparse ranges) : range ∈ ranges ↔ IsStretch (Covers ranges) range := by
  refine ⟨sparse.isStretch, fun stretch => ?_⟩
  obtain ⟨other, listed, here⟩ := stretch.inside _ stretch.contains_first
  rw [stretch.eq_of_meet (sparse.isStretch listed) stretch.contains_first here]
  exact listed

/-- There is one way only to hold some numbers by sparse ranges. -/
theorem eq_of_covers_iff (one : AreSparse ranges) (two : AreSparse others)
    (same : ∀ uid, Covers ranges uid ↔ Covers others uid) : ranges = others := by
  have alike : Covers ranges = Covers others := funext fun uid => propext (same uid)
  have perm : ranges.Perm others := by
    refine (List.perm_ext_iff_of_nodup one.nodup two.nodup).mpr fun range => ?_
    rw [one.mem_iff, two.mem_iff, alike]
  refine perm.eq_of_pairwise (fun first second listed present before behind => ?_) one.apart two.apart
  have start := UInt64.le_iff_toNat_le.mp (one.ordered first listed)
  have stop := UInt64.le_iff_toNat_le.mp (two.ordered second present)
  unfold Apart at before behind
  omega

/-- Other ranges that hold the same numbers are not fewer: no two stretches begin in one of them. -/
theorem length_le (sparse : AreSparse ranges) (same : ∀ uid, Covers others uid ↔ Covers ranges uid) :
    ranges.length ≤ others.length := by
  have begins : ∀ range ∈ ranges, ∃ other ∈ others, other.contains range.first = true := fun range listed =>
    (same _).mpr ⟨range, listed, (sparse.isStretch listed).contains_first⟩
  choose! home present inside using begins
  have distinct : (ranges.map home).Nodup := by
    refine List.Nodup.map_on (fun one first two second shared => ?_) sparse.nodup
    have stretch := sparse.isStretch first
    have held : ∀ uid, (home one).contains uid = true → Covers ranges uid := fun uid found =>
      (same uid).mp ⟨home one, present one first, found⟩
    have reached := inside two second
    rw [← shared] at reached
    -- the stretch that begins in the range encloses it, and so the start of the other stretch
    obtain ⟨start, stop⟩ := stretch.encloses held stretch.contains_first (inside one first)
    have place := contains_iff_toNat.mp reached
    have meets : one.contains two.first = true :=
      contains_iff_toNat.mpr ⟨start.trans place.1, place.2.trans stop⟩
    exact stretch.eq_of_meet (sparse.isStretch second) meets (sparse.isStretch second).contains_first
  have among : ranges.map home ⊆ others := by
    intro other listed
    obtain ⟨range, first, rfl⟩ := List.mem_map.mp listed
    exact present range first
  simpa using (distinct.subperm among).length_le

end AreSparse

/-! ## Compression -/

variable {range : UidRange} {uids : List Uid}

/-- The ranges that continue a range are sparse, and none starts before it. -/
theorem areSparse_extend (sorted : uids.Pairwise (· ≤ ·)) (above : ∀ uid ∈ uids, range.first ≤ uid)
    (ordered : range.first ≤ range.last) :
    AreSparse (extend range uids) ∧ ∀ one ∈ extend range uids, range.first ≤ one.first := by
  induction uids generalizing range with
  | nil =>
      refine ⟨⟨fun one listed => ?_, List.pairwise_singleton _ _⟩, fun one listed => ?_⟩
      · obtain rfl := List.mem_singleton.mp listed
        exact ordered
      · obtain rfl := List.mem_singleton.mp listed
        exact UInt64.le_refl _
  | cons uid rest ih =>
      obtain ⟨least, sorted⟩ := List.pairwise_cons.mp sorted
      obtain ⟨start, others⟩ := List.forall_mem_cons.mp above
      unfold extend
      split
      · exact ih sorted others ordered
      · next outside =>
        split
        · exact @ih ⟨range.first, uid⟩ sorted others start
        · next gap =>
          obtain ⟨sparse, behind⟩ := @ih (single uid) sorted least (UInt64.le_refl _)
          have missing : range.last.toNat + 1 < uid.toNat := by
            have before := UInt64.not_le.mp outside
            have distance := UInt64.toNat_sub_of_le _ _ (UInt64.le_of_lt before)
            have apart : (uid - range.last).toNat ≠ 1 := fun one => gap (UInt64.toNat_inj.mp one)
            have below := UInt64.lt_iff_toNat_lt.mp before
            omega
          refine ⟨⟨List.forall_mem_cons.mpr ⟨ordered, sparse.ordered⟩,
            List.pairwise_cons.mpr ⟨fun one listed => ?_, sparse.apart⟩⟩,
            List.forall_mem_cons.mpr ⟨UInt64.le_refl _, fun one listed =>
              UInt64.le_trans start (behind one listed)⟩⟩
          exact Nat.lt_of_lt_of_le missing (UInt64.le_iff_toNat_le.mp (behind one listed))

theorem areSparse_compress (uids : List Uid) : AreSparse (compress uids) := by
  have sorted := pairwise_sortedUids uids
  rw [compress_eq]
  cases listed : sortedUids uids with
  | nil => exact ⟨by simp, .nil⟩
  | cons first rest =>
      rw [listed] at sorted
      obtain ⟨least, sorted⟩ := List.pairwise_cons.mp sorted
      exact (@areSparse_extend (single first) rest sorted least (UInt64.le_refl _)).1

/--
The ranges of compressed numbers have their ends in order, ascend with a number missing between any two of them,
and hold exactly the numbers; no other ranges that hold exactly these are fewer, and the same numbers in another
order or with other repetitions give the same ranges.
-/
theorem compress_fewest (uids : List Uid) :
    (∀ range ∈ compress uids, range.isOrdered = true)
      ∧ (compress uids).Pairwise (fun one other => one.last.toNat + 1 < other.first.toNat)
      ∧ (∀ uid, (∃ range ∈ compress uids, range.contains uid = true) ↔ uid ∈ uids)
      ∧ (∀ ranges : List UidRange, (∀ uid, (∃ range ∈ ranges, range.contains uid = true) ↔ uid ∈ uids) →
          (compress uids).length ≤ ranges.length)
      ∧ ∀ others : List Uid, (∀ uid, uid ∈ others ↔ uid ∈ uids) → compress others = compress uids := by
  have sparse := areSparse_compress uids
  have exact := exists_contains_compress uids
  refine ⟨fun range listed => ?_, sparse.apart, exact, fun ranges same => ?_, fun others same => ?_⟩
  · exact decide_eq_true (sparse.ordered range listed)
  · exact sparse.length_le fun uid => (same uid).trans (exact uid).symm
  · refine (areSparse_compress others).eq_of_covers_iff sparse fun uid => ?_
    exact (exists_contains_compress others uid).trans ((same uid).trans (exact uid).symm)

/-- Numbers up to the greatest one, in two orders, are one range, and no range fewer. -/
theorem compress_fewest_lastUid :
    (∀ uid, uid ∈ [lastUid, lastUid - 2, lastUid - 1, lastUid] ↔ uid ∈ [lastUid - 1, lastUid, lastUid - 2])
      ∧ compress [lastUid, lastUid - 2, lastUid - 1, lastUid] = compress [lastUid - 1, lastUid, lastUid - 2]
      ∧ (compress [lastUid - 1, lastUid, lastUid - 2]).length
        ≤ [UidRange.mk (lastUid - 2) (lastUid - 1), UidRange.startingAt (lastUid - 1)].length := by
  obtain ⟨-, -, -, fewest, same⟩ := compress_fewest [lastUid - 1, lastUid, lastUid - 2]
  have alike : ∀ uid, uid ∈ [lastUid, lastUid - 2, lastUid - 1, lastUid]
      ↔ uid ∈ [lastUid - 1, lastUid, lastUid - 2] := by
    intro uid
    simp only [List.mem_cons, List.not_mem_nil, or_false]
    tauto
  refine ⟨alike, same _ alike, fewest _ fun uid => ?_⟩
  rw [List.exists_mem_cons_iff, List.exists_mem_cons_iff]
  simp only [contains_iff_toNat, startingAt, List.mem_cons, List.not_mem_nil, false_and, exists_false, or_false,
    ← UInt64.toNat_inj]
  have last : lastUid.toNat = 18446744073709551615 := rfl
  have next : (lastUid - 1).toNat = 18446744073709551614 := rfl
  have third : (lastUid - 2).toNat = 18446744073709551613 := rfl
  omega

end Letterbox.UidRange
