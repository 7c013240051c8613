import Letterbox.Proofs.DateOrder
import Letterbox.Proofs.FoundMessages

/-!
# Searches for dates

Main statement: a message is never found before an earlier moment or after a later one, and it is found on the
unit of the calendar in which it came, for moments that the unit is cut off.
-/

namespace Letterbox

namespace Index

variable {index : Index} {content : ContentDocument}

/-- A date test selects a message if it holds of the date of the message. -/
theorem selects_internalDate (paired : index.committed.Paired)
    (live : .content content ∈ index.committed.documents) (test : DateTest) :
    index.Selects (.internalDate test) content
      ↔ test.order.holds (test.resolution.truncate content.date) (test.resolution.truncate test.date) = true := by
  have translated : (Criterion.internalDate test).query? index.committed content.mailbox index.analysis
      = .ok test.query := rfl
  have holds : ∀ entry ∈ index.committed, entry.document = .content content →
      (test.query.selects entry = true ↔ test.order.holds (test.resolution.truncate content.date)
        (test.resolution.truncate test.date) = true) := by
    intro entry listed document
    obtain ⟨message, held, rfl⟩ := paired.exists_message listed (congrArg Document.kind document)
    obtain rfl : message.content = content := Document.content.inj document
    exact (Expresses.dateTest test).on_content message held rfl
  constructor
  · rintro ⟨query, same, entry, listed, document, selected⟩
    obtain rfl := Except.ok.inj (translated.symm.trans same)
    exact (holds entry listed document).mp selected
  · intro held
    obtain ⟨entry, listed, document⟩ := List.mem_map.mp live
    exact ⟨test.query, translated, entry, listed, document, (holds entry listed document).mpr held⟩

/-- What searches for dates tell of a message that came at the one or at the other of two moments. -/
structure KeepsTime (index : Index) (content : ContentDocument) (resolution : Resolution)
    (earlier later : Instant) : Prop where
  before : content.date = later →
    index.Omits content.mailbox (.internalDate ⟨.before, resolution, earlier⟩) content.uid
  after : content.date = earlier →
    index.Omits content.mailbox (.internalDate ⟨.after, resolution, later⟩) content.uid
  on : content.date = earlier → resolution.Reaches later → resolution.SameUnit earlier later →
    index.Selects (.internalDate ⟨.on, resolution, later⟩) content
      ∧ (isKept content.mailbox.name.toList = true →
        index.Finds content.mailbox (.internalDate ⟨.on, resolution, later⟩) content.uid)

/--
A message of the later of two moments is not found before the earlier one, and one of the earlier moment is
not found after the later one but on its unit. If both are in one unit that is cut off the later one, it must
be cut off the earlier one, too.
-/
theorem keepsTime (paired : index.committed.Paired) (live : .content content ∈ index.committed.documents)
    (resolution : Resolution) {earlier later : Instant} (plain : earlier.IsPlain) (sound : later.IsPlain)
    (ordered : earlier.totalNanos ≤ later.totalNanos)
    (reach : resolution.SameUnit earlier later → resolution.Reaches later → resolution.Reaches earlier) :
    index.KeepsTime content resolution earlier later where
  before := by
    rintro rfl
    have cut := resolution.truncate_mono plain sound ordered reach
    refine omits_of_not_selects paired live rfl fun selected => ?_
    rw [selects_internalDate paired live, DateOrder.holds, decide_eq_true_eq] at selected
    exact Int.not_lt.mpr cut selected
  after := by
    rintro rfl
    have cut := resolution.truncate_mono plain sound ordered reach
    refine omits_of_not_selects paired live rfl fun selected => ?_
    rw [selects_internalDate paired live, DateOrder.holds, decide_eq_true_eq] at selected
    exact Int.not_lt.mpr cut selected
  on := by
    rintro rfl reached same
    have cut := resolution.truncate_eq_of_sameUnit plain sound (reach same reached) reached same
    have selected : index.Selects (.internalDate ⟨.on, resolution, later⟩) content :=
      (selects_internalDate paired live _).mpr (beq_iff_eq.mpr cut)
    exact ⟨selected, selected.finds rfl⟩

/-- A letter without text that came at a moment. -/
def letterOf (date : Instant) : ContentDocument :=
  ⟨⟨"inbox"⟩, 1, 0, 0, date, [], []⟩

/-- An index of that letter. -/
def ofDate (date : Instant) : Index :=
  .ofSnapshot .small Mime.readEvents
    [.ofDocument Config.small.analysis (.content (letterOf date)),
      .ofDocument Config.small.analysis (.flags ⟨⟨"inbox"⟩, 1, .empty⟩)]

theorem keepsTime_leapDay :
    (ofDate ⟨951782400, 0, by decide⟩).KeepsTime (letterOf ⟨951782400, 0, by decide⟩) .day
        ⟨951782400, 0, by decide⟩ ⟨951868799, 999999999, by decide⟩
      ∧ Resolution.day.Reaches ⟨951868799, 999999999, by decide⟩
      ∧ Resolution.day.SameUnit ⟨951782400, 0, by decide⟩ ⟨951868799, 999999999, by decide⟩ := by
  have reached : Resolution.day.Reaches ⟨951782400, 0, by decide⟩ := by
    rw [Resolution.Reaches]
    decide
  refine ⟨keepsTime (Snapshot.paired_message _ rfl rfl) List.mem_cons_self .day (by decide) (by decide)
    (by decide) fun _ _ => reached, ?_, ?_⟩
  · rw [Resolution.Reaches]
    decide
  · rw [Resolution.SameUnit]
    decide

/-- An hour past the start of the year 3000. -/
def farHour : Instant :=
  ⟨32503683600, 0, by decide⟩

/-- The hour after it. -/
def nextHour : Instant :=
  ⟨32503687200, 0, by decide⟩

/-- Days are not cut off moments whose nanoseconds need more than 64 bits, so two of one day are told apart. -/
theorem misses_far_day :
    (ofDate farHour).committed.Paired ∧ .content (letterOf farHour) ∈ (ofDate farHour).committed.documents
      ∧ farHour.IsPlain ∧ nextHour.IsPlain ∧ farHour.totalNanos ≤ nextHour.totalNanos
      ∧ Resolution.day.SameUnit farHour nextHour
      ∧ ¬ (ofDate farHour).Selects (.internalDate ⟨.on, .day, nextHour⟩) (letterOf farHour)
      ∧ (ofDate farHour).Omits ⟨"inbox"⟩ (.internalDate ⟨.on, .day, nextHour⟩) 1 := by
  have paired : (ofDate farHour).committed.Paired := Snapshot.paired_message _ rfl rfl
  have live : .content (letterOf farHour) ∈ (ofDate farHour).committed.documents := List.mem_cons_self
  have apart : ¬ (ofDate farHour).Selects (.internalDate ⟨.on, .day, nextHour⟩) (letterOf farHour) := by
    rw [selects_internalDate paired live]
    decide
  refine ⟨paired, live, by decide, by decide, by decide, ?_, apart, omits_of_not_selects paired live rfl apart⟩
  rw [Resolution.SameUnit]
  decide

end Index

end Letterbox
