import Letterbox.Proofs.SearchAnswer

/-!
# Collecting message numbers

An index counts the entries that answer a query, or gives those with the lowest numbers up to a limit that is not
zero. Main statement: counting first and then asking for that many gives all numbers in order, a number once for each
entry, and any other limit gives a start of that list; a limit of zero is taken as one.
-/

namespace Letterbox

/--
What a collection of the lowest entries gives: as many as the limit allows, in the order of their numbers, and none
that is left out has a lower number than one that is given.
-/
structure IsLowest (uids : List Uid) (limit : Nat) (given : List Uid) : Prop where
  length : given.length = min limit uids.length
  ordered : given.Pairwise (· ≤ ·)
  lowest : ∃ rest, (given ++ rest).Perm uids ∧ ∀ one ∈ given, ∀ other ∈ rest, one ≤ other

/--
How an index is searched: entries are counted, and the lowest are given by their numbers with their addresses. A
limit of zero is not allowed. The law of `lowest` is asked for every other limit; a collector that reserves places for
about twice the limit beforehand meets it as long as there is memory for these places.
-/
structure Collectors (Address : Type) where
  count : Snapshot → Query → Nat
  lowest : Snapshot → Query → Nat → List (Uid × Address)
  count_eq : ∀ snapshot query, count snapshot query = (snapshot.select query).length
  isLowest : ∀ snapshot query limit, 1 ≤ limit →
    IsLowest ((snapshot.select query).map Entry.uid) limit ((lowest snapshot query limit).map Prod.fst)

namespace Collectors

variable {Address : Type}

/-- The numbers of the first entries that answer a query. -/
def firstUids (collectors : Collectors Address) (snapshot : Snapshot) (query : Query) (limit : Nat) : List Uid :=
  (collectors.lowest snapshot query (max limit 1)).map Prod.fst

/-- The numbers of all entries that answer a query: as many as were counted before, if there are any. -/
def allUids (collectors : Collectors Address) (snapshot : Snapshot) (query : Query) : List Uid :=
  match collectors.count snapshot query with
  | 0 => []
  | total => collectors.firstUids snapshot query total

end Collectors

/-! ## The lowest numbers -/

section Lowest

variable {uids given other : List Uid} {limit : Nat}

/-- Two lists in order with the same numbers are the same. -/
theorem eq_of_perm_of_ordered (perm : given.Perm other) (one : given.Pairwise (· ≤ ·))
    (two : other.Pairwise (· ≤ ·)) : given = other :=
  perm.eq_of_pairwise (fun _ _ _ _ => UInt64.le_antisymm) one two

/-- The lowest numbers are those with which the list in order starts. -/
theorem IsLowest.eq_take (isLowest : IsLowest uids limit given) : given = (sortedUids uids).take limit := by
  obtain ⟨length, ordered, rest, perm, below⟩ := isLowest
  have whole : given ++ sortedUids rest = sortedUids uids := by
    refine eq_of_perm_of_ordered ?_ ?_ (pairwise_sortedUids uids)
    · exact ((sortedUids_perm rest).append_left given).trans (perm.trans (sortedUids_perm uids).symm)
    · refine List.pairwise_append.mpr ⟨ordered, pairwise_sortedUids rest, ?_⟩
      intro one mine other theirs
      exact below one mine other (mem_sortedUids.mp theirs)
  rw [← whole]
  rcases Nat.le_total limit uids.length with within | beyond
  · rw [Nat.min_eq_left within] at length
    rw [← length, List.take_left]
  · -- with room for all, nothing is left out
    rw [Nat.min_eq_right beyond] at length
    have none : rest = [] := by
      have total := perm.length_eq
      rw [List.length_append] at total
      exact List.eq_nil_of_length_eq_zero (by omega)
    rw [none, sortedUids, List.mergeSort_nil, List.append_nil, List.take_of_length_le (by omega)]

theorem isLowest_take (uids : List Uid) (limit : Nat) : IsLowest uids limit ((sortedUids uids).take limit) where
  length := by rw [List.length_take, (sortedUids_perm uids).length_eq]
  ordered := (pairwise_sortedUids uids).sublist (List.take_sublist _ _)
  lowest := by
    refine ⟨(sortedUids uids).drop limit, ?_, ?_⟩
    · rw [List.take_append_drop]
      exact sortedUids_perm uids
    · have ordered := pairwise_sortedUids uids
      rw [← List.take_append_drop limit (sortedUids uids)] at ordered
      exact (List.pairwise_append.mp ordered).2.2

end Lowest

/-! ## Collecting segment by segment -/

section Segments

variable {uids more : List Uid} {limit : Nat} {uid : Uid}

/-- The lowest of some numbers, in order. -/
def lowestUids (limit : Nat) (uids : List Uid) : List Uid :=
  (sortedUids uids).take limit

theorem lowestUids_perm (perm : uids.Perm more) : lowestUids limit uids = lowestUids limit more := by
  have same : sortedUids uids = sortedUids more := eq_of_perm_of_ordered
    ((sortedUids_perm uids).trans (perm.trans (sortedUids_perm more).symm))
    (pairwise_sortedUids uids) (pairwise_sortedUids more)
  rw [lowestUids, same, lowestUids]

/-- What is beyond the limit before an insertion is beyond it afterwards. -/
theorem take_orderedInsert_take (limit : Nat) (uid : Uid) (uids : List Uid) :
    ((uids.take limit).orderedInsert (· ≤ ·) uid).take limit = (uids.orderedInsert (· ≤ ·) uid).take limit := by
  induction uids generalizing limit with
  | nil => rw [List.take_nil]
  | cons first rest ih =>
      cases limit with
      | zero => rfl
      | succ limit =>
          rw [List.take_succ_cons, List.orderedInsert_cons, List.orderedInsert_cons]
          split
          · have again : (first :: rest.take limit).take limit = (first :: rest).take limit := by
              rw [← List.take_succ_cons, List.take_take, Nat.min_eq_left (Nat.le_succ limit)]
            rw [List.take_succ_cons, List.take_succ_cons, again]
          · rw [List.take_succ_cons, List.take_succ_cons, ih]

/-- The lowest numbers after one more came are those of the lowest before and the one that came. -/
theorem lowestUids_cons (limit : Nat) (uid : Uid) (uids : List Uid) :
    lowestUids limit (uid :: uids) = ((lowestUids limit uids).orderedInsert (· ≤ ·) uid).take limit := by
  have inserted : (sortedUids uids).orderedInsert (· ≤ ·) uid = sortedUids (uid :: uids) := by
    refine eq_of_perm_of_ordered ?_ ((pairwise_sortedUids uids).orderedInsert uid _) (pairwise_sortedUids _)
    calc (sortedUids uids).orderedInsert (· ≤ ·) uid
        |>.Perm (uid :: sortedUids uids) := List.perm_orderedInsert _ _ _
      _ |>.Perm (uid :: uids) := (sortedUids_perm uids).cons uid
      _ |>.Perm (sortedUids (uid :: uids)) := (sortedUids_perm _).symm
  rw [lowestUids, lowestUids, take_orderedInsert_take, inserted]

theorem lowestUids_lowestUids (limit : Nat) (uids : List Uid) :
    lowestUids limit (lowestUids limit uids) = lowestUids limit uids := by
  have kept : sortedUids (lowestUids limit uids) = lowestUids limit uids :=
    eq_of_perm_of_ordered (sortedUids_perm _) (pairwise_sortedUids _) (isLowest_take uids limit).ordered
  rw [lowestUids, kept, lowestUids, List.take_take, Nat.min_self]

/-- Of some numbers only the lowest matter for the lowest of these and others. -/
theorem lowestUids_append (limit : Nat) (uids more : List Uid) :
    lowestUids limit (lowestUids limit uids ++ more) = lowestUids limit (uids ++ more) := by
  induction more with
  | nil => rw [List.append_nil, List.append_nil, lowestUids_lowestUids]
  | cons uid rest ih =>
      rw [lowestUids_perm List.perm_middle, lowestUids_cons, ih, ← lowestUids_cons,
        lowestUids_perm List.perm_middle.symm]

theorem lowestUids_flatMap (limit : Nat) (segments : List (List Uid)) :
    lowestUids limit (segments.flatMap (lowestUids limit)) = lowestUids limit segments.flatten := by
  induction segments with
  | nil => rfl
  | cons segment rest ih =>
      rw [List.flatMap_cons, List.flatten_cons, lowestUids_append, lowestUids_perm List.perm_append_comm,
        ← lowestUids_append, ih, lowestUids_append, lowestUids_perm List.perm_append_comm]

/-- An entry comes into a collection of the lowest ones: it takes its place, and the last may have to go. -/
def keepLowest (limit : Nat) (entry : Entry) (kept : List Entry) : List Entry :=
  (kept.orderedInsert (fun one other => one.uid ≤ other.uid) entry).take limit

/-- The lowest of some entries; of one number, those that come first. -/
def lowestEntries (limit : Nat) (entries : List Entry) : List Entry :=
  entries.foldr (keepLowest limit) []

theorem uids_lowestEntries (limit : Nat) (entries : List Entry) :
    (lowestEntries limit entries).map Entry.uid = lowestUids limit (entries.map Entry.uid) := by
  induction entries with
  | nil => simp [lowestEntries, lowestUids, sortedUids]
  | cons entry rest ih =>
      rw [List.map_cons, lowestUids_cons, ← ih, lowestEntries, List.foldr_cons, keepLowest, List.map_take,
        List.map_orderedInsert (fun one other => one.uid ≤ other.uid) (· ≤ ·) Entry.uid _ _
          (fun _ _ => Iff.rfl) (fun _ _ => Iff.rfl)]
      rfl

/-- The lowest entries that answer a query: those of each segment, and of these the lowest. -/
def lowestBySegments (segments : List Snapshot) (query : Query) (limit : Nat) : List Entry :=
  lowestEntries limit (segments.flatMap fun segment => lowestEntries limit (segment.select query))

/-- It does not matter in which segments the entries are. -/
theorem uids_lowestBySegments (segments : List Snapshot) (query : Query) (limit : Nat) :
    (lowestBySegments segments query limit).map Entry.uid
      = lowestUids limit ((Snapshot.select segments.flatten query).map Entry.uid) := by
  have each : (segments.flatMap fun segment => lowestEntries limit (segment.select query)).map Entry.uid
      = (segments.map fun segment => (segment.select query).map Entry.uid).flatMap (lowestUids limit) := by
    rw [List.map_flatMap, List.flatMap_map]
    exact List.flatMap_congr fun segment _ => uids_lowestEntries limit _
  have whole : (segments.map fun segment => (segment.select query).map Entry.uid).flatten
      = (Snapshot.select segments.flatten query).map Entry.uid := by
    rw [Snapshot.select, List.filter_flatten, List.map_flatten, List.map_map]
    rfl
  rw [lowestBySegments, uids_lowestEntries, each, lowestUids_flatMap, whole]

/-- An index that keeps its entries in segments counts and collects in each of them. -/
def Collectors.bySegments (segments : Snapshot → List Snapshot)
    (whole : ∀ snapshot, (segments snapshot).flatten.Perm snapshot) : Collectors Entry where
  count := fun snapshot query => ((segments snapshot).map fun segment => (segment.select query).length).sum
  lowest := fun snapshot query limit =>
    (lowestBySegments (segments snapshot) query limit).map fun entry => (entry.uid, entry)
  count_eq := fun snapshot query => by
    have counted := ((whole snapshot).filter query.selects).length_eq
    rwa [List.filter_flatten, List.length_flatten, List.map_map] at counted
  isLowest := fun snapshot query limit _ => by
    have selected := ((whole snapshot).filter query.selects).map Entry.uid
    rw [List.map_map]
    have uids := (uids_lowestBySegments (segments snapshot) query limit).trans (lowestUids_perm selected)
    exact uids ▸ isLowest_take _ limit

end Segments

/-! ## Both ways to ask -/

namespace Collectors

variable {Address : Type} (collectors : Collectors Address) (snapshot : Snapshot) (query : Query)

theorem firstUids_eq (limit : Nat) :
    collectors.firstUids snapshot query limit = snapshot.firstUids query limit :=
  (collectors.isLowest snapshot query _ (Nat.le_max_right limit 1)).eq_take

/-- Who asks for as many as there are gets all. -/
theorem allUids_eq : collectors.allUids snapshot query = snapshot.uids query := by
  have counted := collectors.count_eq snapshot query
  have length : (snapshot.uids query).length = (snapshot.select query).length := by
    rw [Snapshot.uids_eq, (sortedUids_perm _).length_eq, List.length_map]
  rw [← length] at counted
  unfold allUids
  split
  · next none =>
    rw [none] at counted
    exact (List.eq_nil_of_length_eq_zero counted.symm).symm
  · next total some =>
    rw [firstUids_eq, Snapshot.firstUids]
    exact List.take_of_length_le (by omega)

/--
All numbers are those of the entries that answer, in order, a number once for each entry; the first ones are a start
of them, of the length that was asked for, but of one if none was asked for. However an index counts and collects, the
answers are those of the snapshot.
-/
theorem collect_exact :
    (collectors.allUids snapshot query).Pairwise (· ≤ ·)
      ∧ (collectors.allUids snapshot query).Perm ((snapshot.select query).map Entry.uid)
      ∧ (∀ limit, collectors.firstUids snapshot query limit
          = (collectors.allUids snapshot query).take (if limit = 0 then 1 else limit))
      ∧ collectors.allUids snapshot query = snapshot.uids query
      ∧ ∀ limit, collectors.firstUids snapshot query limit = snapshot.firstUids query limit := by
  rw [allUids_eq]
  refine ⟨pairwise_sortedUids _, sortedUids_perm _, fun limit => ?_, rfl, collectors.firstUids_eq snapshot query⟩
  rw [firstUids_eq, Snapshot.firstUids]
  cases limit with
  | zero => rfl
  | succ limit => rw [if_neg (Nat.succ_ne_zero limit), Nat.max_eq_left (Nat.succ_pos limit)]

/-- The entries of three messages of two mailboxes, of which two have one number. -/
def threeMessages : Snapshot :=
  (Index.ofOneMessage ⟨⟨"inbox"⟩, 2, .empty⟩).committed ++ (Index.ofOneMessage ⟨⟨"work"⟩, 2, .empty⟩).committed
    ++ (Index.ofOneMessage ⟨⟨"inbox"⟩, 1, .empty⟩).committed

/-- An index that keeps its first entries in a segment of their own. -/
def inTwoSegments : Collectors Entry :=
  .bySegments (fun snapshot => [snapshot.take 3, snapshot.drop 3]) fun snapshot => by simp

theorem uids_threeMessages : threeMessages.uids .anything = [1, 1, 2, 2, 2, 2] := by
  have numbers : (threeMessages.select .anything).map Entry.uid = [2, 2, 2, 2, 1, 1] := by rfl
  rw [Snapshot.uids_eq, numbers]
  exact eq_of_perm_of_ordered ((sortedUids_perm _).trans (by decide)) (pairwise_sortedUids _) (by decide)

/-- Both documents of a message count, and so do messages of other mailboxes. -/
theorem collect_exact_threeMessages :
    inTwoSegments.allUids threeMessages .anything = [1, 1, 2, 2, 2, 2]
      ∧ inTwoSegments.firstUids threeMessages .anything 3 = [1, 1, 2] := by
  obtain ⟨-, -, first, all, -⟩ := inTwoSegments.collect_exact threeMessages .anything
  rw [all, uids_threeMessages] at first
  exact ⟨all.trans uids_threeMessages, first 3⟩

/-- Who asks for no numbers gets the lowest one. -/
theorem firstUids_of_none_asked :
    inTwoSegments.firstUids threeMessages .anything 0 = [1]
      ∧ inTwoSegments.firstUids threeMessages .anything 0
        ≠ (inTwoSegments.allUids threeMessages .anything).take 0 := by
  have given : inTwoSegments.firstUids threeMessages .anything 0 = [1] := by
    rw [firstUids_eq, Snapshot.firstUids, uids_threeMessages]
    rfl
  rw [given]
  exact ⟨rfl, List.cons_ne_nil _ _⟩

end Collectors

end Letterbox
