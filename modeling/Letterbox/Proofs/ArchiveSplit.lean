import Letterbox.Import
import Mathlib

/-!
# Archives are split into their letters

An archive of letters is each separator line followed by its message. Main statement: an import of such a file
hands the messages to the index one by one, each with its own bytes, and reports on each in its place. All but
the last come from a reader of archives; the last is read from the file again.
-/

namespace Letterbox

namespace Archive

/-- The byte that ends a line. -/
def lineFeed : UInt8 := 0x0A

/-! ## Lines -/

theorem lines_ne_nil {bytes : Bytes} (nonempty : bytes ≠ []) : lines bytes ≠ [] := by
  cases bytes with
  | nil => contradiction
  | cons byte rest =>
      unfold lines
      split
      · exact List.cons_ne_nil _ _
      · split <;> exact List.cons_ne_nil _ _

theorem flatten_lines (bytes : Bytes) : (lines bytes).flatten = bytes := by
  induction bytes with
  | nil => rfl
  | cons byte rest ih =>
      unfold lines
      split
      · rw [List.flatten_cons, ih]
        rfl
      · split
        · next none =>
          rw [none] at ih
          rw [← ih]
          rfl
        · next line later found =>
          rw [found] at ih
          rw [← ih]
          rfl

/-- Lines do not reach over a line feed. -/
theorem lines_append (text rest : Bytes) :
    lines (text ++ lineFeed :: rest) = lines (text ++ [lineFeed]) ++ lines rest := by
  induction text with
  | nil => rfl
  | cons byte text ih =>
      rw [List.cons_append, List.cons_append, lines, lines]
      split
      · rw [ih, List.cons_append]
      · rw [ih]
        obtain ⟨line, later, found⟩ := List.exists_cons_of_ne_nil
          (lines_ne_nil (List.append_ne_nil_of_right_ne_nil text (List.cons_ne_nil lineFeed [])))
        rw [found]
        rfl

/-- A text with a line feed at its end only is one line. -/
theorem lines_single {words : Bytes} (unbroken : lineFeed ∉ words) :
    lines (words ++ [lineFeed]) = [words ++ [lineFeed]] := by
  induction words with
  | nil => rfl
  | cons byte words ih =>
      obtain ⟨other, unbroken⟩ : ¬ lineFeed = byte ∧ lineFeed ∉ words := by simpa using unbroken
      rw [List.cons_append, lines, if_neg fun same => other same.symm, ih unbroken]

/-! ## Letters -/

/-- A letter of an archive: its separator line and its message. -/
structure Letter where
  separator : Bytes
  message : Bytes
  opens : isSeparator separator = true
  /-- The separator is one line. -/
  isLine : ∃ words, lineFeed ∉ words ∧ separator = words ++ [lineFeed]
  /-- The message is not empty, and ends in a line feed. -/
  ends : ∃ text, message = text ++ [lineFeed]
  /-- No line of the message looks like a separator. -/
  plain : ∀ line ∈ lines message, isSeparator line = false

namespace Letter

/-- The bytes of a letter. -/
def bytes (letter : Letter) : Bytes :=
  letter.separator ++ letter.message

theorem message_ne_nil (letter : Letter) : letter.message ≠ [] := by
  obtain ⟨text, ends⟩ := letter.ends
  simp [ends]

/-- The lines of a letter are its separator and those of its message. -/
theorem lines_bytes_append (letter : Letter) (rest : Bytes) :
    lines (letter.bytes ++ rest) = letter.separator :: (lines letter.message ++ lines rest) := by
  obtain ⟨words, unbroken, isLine⟩ := letter.isLine
  obtain ⟨text, ends⟩ := letter.ends
  rw [bytes, isLine, ends]
  simp only [List.append_assoc, List.cons_append, List.nil_append]
  rw [lines_append words, lines_single unbroken, lines_append text]
  rfl

end Letter

/-- The file of some letters. -/
def ofLetters (letters : List Letter) : Bytes :=
  (letters.map Letter.bytes).flatten

/-- The entries of letters, from an offset on. -/
def letterEntries (offset : Nat) : List Letter → List Entry
  | [] => []
  | letter :: rest => ⟨offset, letter.message⟩ :: letterEntries (offset + letter.bytes.length) rest

/-- The file of some letters starts with a separator, if it is not empty. -/
theorem isSeparator_of_first {letters : List Letter} {line : Bytes}
    (first : (lines (ofLetters letters)).head? = some line) : isSeparator line = true := by
  cases letters with
  | nil => simp [ofLetters, lines] at first
  | cons letter rest =>
      rw [ofLetters, List.map_cons, List.flatten_cons, letter.lines_bytes_append, List.head?_cons] at first
      exact Option.some.inj first ▸ letter.opens

/-- Up to the next separator there are the lines of the message. -/
theorem stretches_ofLetters (offset : Nat) (letter : Letter) (rest : List Letter) :
    stretches offset (lines (ofLetters (letter :: rest)))
      = ⟨offset, letter.separator, lines letter.message⟩
        :: stretches (offset + letter.bytes.length) (lines (ofLetters rest)) := by
  have kept : ∀ line ∈ lines letter.message, (! isSeparator line) = true := by
    intro line listed
    rw [letter.plain line listed]
    rfl
  have stops : (lines (ofLetters rest)).takeWhile (! isSeparator ·) = []
      ∧ (lines (ofLetters rest)).dropWhile (! isSeparator ·) = lines (ofLetters rest) := by
    cases found : lines (ofLetters rest) with
    | nil => exact ⟨rfl, rfl⟩
    | cons line later =>
        have first : (lines (ofLetters rest)).head? = some line := by rw [found]; rfl
        simp [isSeparator_of_first first]
  have all : lines (ofLetters (letter :: rest))
      = letter.separator :: (lines letter.message ++ lines (ofLetters rest)) := by
    rw [ofLetters, List.map_cons, List.flatten_cons, letter.lines_bytes_append]
    rfl
  rw [all, stretches, List.takeWhile_append_of_pos kept, List.dropWhile_append_of_pos kept, stops.1, stops.2,
    List.append_nil]
  simp [Stretch.bytes, Stretch.rest, flatten_lines, Letter.bytes]

theorem entriesOf_letters (offset : Nat) (letters : List Letter) :
    entriesOf (stretches offset (lines (ofLetters letters))) = letterEntries offset letters := by
  induction letters generalizing offset with
  | nil => simp [ofLetters, lines, stretches, entriesOf, letterEntries]
  | cons letter rest ih =>
      rw [stretches_ofLetters, letterEntries, ← ih]
      cases rest with
      | nil =>
          simp [ofLetters, lines, stretches, entriesOf, entryOfLast?, letter.opens, Stretch.rest, flatten_lines]
      | cons next rest =>
          rw [stretches_ofLetters, entriesOf, Stretch.rest, flatten_lines]
          simp

/-- The entries of the file of some letters are the letters. -/
theorem entries_ofLetters (letters : List Letter) : entries (ofLetters letters) = letterEntries 0 letters :=
  entriesOf_letters 0 letters

/-! ## The reader and the rest of the file -/

/-- What a reader of archives yields: a message, and the offset of the separator behind it. -/
structure Yield where
  message : Bytes
  next : Nat
deriving DecidableEq, Repr

/-- The reader yields every stretch but the last. -/
def yields : List Stretch → List Yield
  | [] => []
  | [_] => []
  | stretch :: next :: rest => ⟨stretch.rest, next.offset⟩ :: yields (next :: rest)

/-- The message at the end of the file, without its separator line. -/
def stripSeparator (tail : Bytes) : Bytes :=
  if isSeparator tail then (tail.dropWhile (· ≠ lineFeed)).drop 1 else tail

/-- The entries of a file: those that the reader yields, and what is left of the file unless it is blank. -/
def entriesRead (archive : Bytes) (start : Nat) : List Yield → List Entry
  | [] =>
    let tail := archive.drop start
    if tail.all isBlank then [] else [⟨start, stripSeparator tail⟩]
  | yielded :: rest => ⟨start, yielded.message⟩ :: entriesRead archive yielded.next rest

section

variable {bytes line : Bytes} {later : List Bytes}

/-- The first line of a text ends at its first line feed, or with the text; the further lines are lines again. -/
theorem exists_first_line (found : lines bytes = line :: later) :
    ∃ words, lineFeed ∉ words ∧ lines later.flatten = later
      ∧ (line = words ++ [lineFeed] ∧ bytes = words ++ lineFeed :: later.flatten
        ∨ line = words ∧ bytes = words ∧ later = []) := by
  induction bytes generalizing line with
  | nil => simp [lines] at found
  | cons byte rest ih =>
      unfold lines at found
      split at found
      · next same =>
        obtain ⟨rfl, rfl⟩ := List.cons.inj found
        obtain rfl : byte = lineFeed := same
        exact ⟨[], List.not_mem_nil, by rw [flatten_lines], Or.inl ⟨rfl, by rw [flatten_lines]; rfl⟩⟩
      · next other =>
        have other : ¬ lineFeed = byte := fun same => other same.symm
        split at found
        · next none =>
          obtain ⟨rfl, rfl⟩ := List.cons.inj found
          have empty : rest = [] := by
            rw [← flatten_lines rest, none]
            rfl
          exact ⟨[byte], by simpa using other, rfl, Or.inr ⟨rfl, by rw [empty], rfl⟩⟩
        · next head others split =>
          obtain ⟨rfl, rfl⟩ := List.cons.inj found
          obtain ⟨words, unbroken, kept, ends⟩ := ih split
          refine ⟨byte :: words, by simp [other, unbroken], kept, ends.imp ?_ ?_⟩
          · rintro ⟨rfl, rfl⟩
            exact ⟨rfl, rfl⟩
          · rintro ⟨rfl, rfl, last⟩
            exact ⟨rfl, rfl, last⟩

/-- A row of bytes without a line feed is looked for only up to the first line feed. -/
theorem isPrefixOf_append_lineFeed {start words : Bytes} (unbroken : lineFeed ∉ start) (rest : Bytes) :
    start.isPrefixOf (words ++ lineFeed :: rest) = start.isPrefixOf words := by
  induction words generalizing start with
  | nil =>
      cases start with
      | nil => rfl
      | cons first start =>
          obtain ⟨other, -⟩ : ¬ lineFeed = first ∧ lineFeed ∉ start := by simpa using unbroken
          simp [List.isPrefixOf, beq_false_of_ne (Ne.symm other)]
  | cons byte words ih =>
      cases start with
      | nil => rfl
      | cons first start => simp only [List.cons_append, List.isPrefixOf, ih (List.not_mem_of_not_mem_cons unbroken)]

/-- A row of bytes without a line feed starts a text just if it starts its first line. -/
theorem isPrefixOf_line {start : Bytes} (unbroken : lineFeed ∉ start) (found : lines bytes = line :: later) :
    start.isPrefixOf bytes = start.isPrefixOf line := by
  obtain ⟨words, -, -, ⟨rfl, rfl⟩ | ⟨rfl, rfl, -⟩⟩ := exists_first_line found
  · rw [isPrefixOf_append_lineFeed unbroken, isPrefixOf_append_lineFeed unbroken]
  · rfl

/-- Behind its first line feed a text goes on with its further lines. -/
theorem drop_line (found : lines bytes = line :: later) :
    (bytes.dropWhile (· ≠ lineFeed)).drop 1 = later.flatten := by
  obtain ⟨words, unbroken, -, ends⟩ := exists_first_line found
  have passed : ∀ byte ∈ words, decide (byte ≠ lineFeed) = true := by
    intro byte listed
    exact decide_eq_true fun same => unbroken (same ▸ listed)
  rcases ends with ⟨-, rfl⟩ | ⟨-, rfl, rfl⟩
  · rw [List.dropWhile_append_of_pos passed]
    simp
  · rw [List.dropWhile_eq_nil_iff.mpr passed]
    rfl

/-- The further lines of a text are the lines of what they make together. -/
theorem lines_flatten_later (found : lines bytes = line :: later) : lines later.flatten = later := by
  obtain ⟨-, -, kept, -⟩ := exists_first_line found
  exact kept

end

theorem lines_flatten_suffix {before : List Bytes} {later : List Bytes}
    (whole : lines (before ++ later).flatten = before ++ later) : lines later.flatten = later := by
  induction before with
  | nil => exact whole
  | cons line before ih => exact ih (lines_flatten_later whole)

/-- What is left of a file loses its separator as the last stretch does. -/
theorem stripSeparator_eq {bytes line : Bytes} {later : List Bytes} (found : lines bytes = line :: later) :
    stripSeparator bytes = if isSeparator line then later.flatten else bytes := by
  have same : isSeparator bytes = isSeparator line := isPrefixOf_line (by decide) found
  rw [stripSeparator, same, drop_line found]

/-- The last stretch, read again from the file, gives the entry that it gives by itself. -/
theorem entriesRead_last (before : Bytes) {line : Bytes} {later : List Bytes}
    (whole : lines (line :: later).flatten = line :: later) :
    entriesRead (before ++ (line :: later).flatten) before.length []
      = (entryOfLast? ⟨before.length, line, later⟩).toList := by
  have tail : (before ++ (line :: later).flatten).drop before.length = (line :: later).flatten := by
    rw [List.drop_left]
  simp only [entriesRead, tail, stripSeparator_eq whole, entryOfLast?]
  by_cases opens : isSeparator line = true
  · -- A line that starts with a separator is not blank, so neither is the text.
    have dark : (line :: later).flatten.all isBlank = false := by
      obtain ⟨rest, split⟩ := List.isPrefixOf_iff_prefix.mp opens
      rw [List.flatten_cons, ← split]
      rfl
    rw [if_pos opens, if_pos opens, dark]
    rfl
  · rw [if_neg opens, if_neg opens]
    cases blank : (line :: later).flatten.all isBlank with
    | false => simp [Stretch.bytes, Stretch.rest, ← List.flatten_cons, blank]
    | true => simp [Stretch.bytes, Stretch.rest, ← List.flatten_cons, blank]

/-- Reading on from the offset of a stretch gives the entries from there on. -/
theorem entriesRead_stretches (offset : Nat) (rows : List Bytes) (before : Bytes) (reached : before.length = offset)
    (whole : lines rows.flatten = rows) :
    entriesRead (before ++ rows.flatten) offset (yields (stretches offset rows))
      = entriesOf (stretches offset rows) := by
  induction offset, rows using stretches.induct generalizing before with
  | case1 offset =>
      subst reached
      simp [stretches, yields, entriesRead, entriesOf]
  | case2 offset line rest stretch ih =>
      subst reached
      have split : rest.takeWhile (! isSeparator ·) ++ rest.dropWhile (! isSeparator ·) = rest :=
        List.takeWhile_append_dropWhile
      have bytes : (line :: rest).flatten = stretch.bytes ++ (rest.dropWhile (! isSeparator ·)).flatten := by
        rw [List.flatten_cons, Stretch.bytes, Stretch.rest, List.append_assoc, ← List.flatten_append, split]
      have later : lines (rest.dropWhile (! isSeparator ·)).flatten = rest.dropWhile (! isSeparator ·) := by
        have rows := lines_flatten_later whole
        rw [← split] at rows
        exact lines_flatten_suffix rows
      have found := ih (before ++ stretch.bytes) (by rw [List.length_append]) later
      rw [stretches]
      cases next : rest.dropWhile (! isSeparator ·) with
      | nil =>
          rw [next, List.append_nil] at split
          simp only [stretches, yields, entriesOf, split]
          exact entriesRead_last before whole
      | cons opening more =>
          rw [next, stretches] at found
          rw [bytes, next, stretches, ← List.append_assoc]
          simp only [yields, entriesRead, entriesOf]
          exact congrArg _ found

/--
What the reader yields, and the rest of the file behind the last separator that it finds, are the entries of
the file.
-/
theorem entriesRead_eq (archive : Bytes) :
    entriesRead archive 0 (yields (stretches 0 (lines archive))) = entries archive := by
  have found := entriesRead_stretches 0 (lines archive) [] rfl (by rw [flatten_lines])
  rwa [flatten_lines] at found

/-- A letter starts behind the letters before it. -/
theorem getElem?_letterEntries (offset : Nat) (letters : List Letter) (position : Nat) :
    (letterEntries offset letters)[position]?
      = letters[position]?.map fun letter =>
        ⟨offset + (ofLetters (letters.take position)).length, letter.message⟩ := by
  induction letters generalizing offset position with
  | nil => rfl
  | cons letter rest ih =>
      cases position with
      | zero => simp [letterEntries, ofLetters]
      | succ position =>
          simp only [letterEntries, List.getElem?_cons_succ, ih, List.take_succ_cons]
          simp [ofLetters, Nat.add_assoc]

theorem message_ne_nil_of_letter {offset : Nat} {letters : List Letter} {entry : Entry}
    (listed : entry ∈ letterEntries offset letters) : entry.message ≠ [] := by
  induction letters generalizing offset with
  | nil => simp [letterEntries] at listed
  | cons letter rest ih =>
      rw [letterEntries] at listed
      rcases List.mem_cons.mp listed with rfl | later
      · exact letter.message_ne_nil
      · exact ih later

theorem map_message_letterEntries (offset : Nat) (letters : List Letter) :
    (letterEntries offset letters).map (·.message) = letters.map (·.message) := by
  induction letters generalizing offset with
  | nil => rfl
  | cons letter rest ih => rw [letterEntries, List.map_cons, List.map_cons, ih]

theorem length_letterEntries (offset : Nat) (letters : List Letter) :
    (letterEntries offset letters).length = letters.length := by
  induction letters generalizing offset with
  | nil => rfl
  | cons letter rest ih => rw [letterEntries, List.length_cons, List.length_cons, ih]

end Archive

/-! ## Imports of archives -/

namespace Index

/-- Hands a message to the index: what the index is then, and what the report says. -/
def hand (index : Index) (target : ImportTarget) (uid : Uid) (entry : Archive.Entry) : Index × ImportOutcome :=
  match index.add target.mailbox (target.message uid entry.message) with
  | .error cause => (index, .failed (.unindexedEntry entry.offset cause))
  | .ok next => (next, .imported uid)

/-- The first of some entries is handed to the index, and the others after it. -/
theorem importFrom_cons (index : Index) (target : ImportTarget) (uid : Uid) {entry : Archive.Entry}
    (nonempty : entry.message ≠ []) (rest : List ImportSource) :
    index.importFrom target uid (.entry entry :: rest)
      = let last := (index.hand target uid entry).1.importFrom (target.after entry.message) (nextUid uid) rest
        (last.1, (index.hand target uid entry).2 :: last.2) := by
  have content : (ImportSource.entry entry).content = .ok entry.message := by
    simp [ImportSource.content, nonempty]
  cases added : index.add target.mailbox (target.message uid entry.message) with
  | error cause => simp only [importFrom, content, hand, added, ImportSource.blame]
  | ok next => simp only [importFrom, content, hand, added]

/--
The steps of an import: `held` is the index before each of them, and the message at each position is handed to
it under the number that is due, with the clock as the messages before it leave it.
-/
structure Hands (target : ImportTarget) (uid : Uid) (entries : List Archive.Entry) (held : Nat → Index)
    (report : ImportReport) : Prop where
  length : report.length = entries.length
  hands : ∀ position entry, entries[position]? = some entry → ∃ outcome, report[position]? = some outcome
    ∧ (held position).hand (target.afterAll ((entries.take position).map (·.message))) (nextUid^[position] uid) entry
      = (held (position + 1), outcome)

theorem hands_importFrom (index : Index) (target : ImportTarget) (uid : Uid) (entries : List Archive.Entry)
    (nonempty : ∀ entry ∈ entries, entry.message ≠ []) :
    ∃ held report, index.importFrom target uid (entries.map .entry) = (held entries.length, report)
      ∧ held 0 = index ∧ Hands target uid entries held report := by
  induction entries generalizing index target uid with
  | nil => exact ⟨fun _ => index, [], rfl, rfl, rfl, by simp⟩
  | cons entry rest ih =>
      obtain ⟨held, report, done, start, length, hands⟩ := ih (index.hand target uid entry).1
        (target.after entry.message) (nextUid uid)
        fun other listed => nonempty other (List.mem_cons_of_mem _ listed)
      refine ⟨fun position => if position = 0 then index else held (position - 1),
        (index.hand target uid entry).2 :: report, ?_, rfl, by simp [length], ?_⟩
      · rw [List.map_cons, importFrom_cons _ _ _ (nonempty entry List.mem_cons_self), done]
        rfl
      · intro position other found
        cases position with
        | zero =>
            obtain rfl : entry = other := by simpa using found
            exact ⟨_, rfl, by simp [start, ImportTarget.afterAll]⟩
        | succ position =>
            obtain ⟨outcome, reported, handed⟩ := hands position other (by simpa using found)
            exact ⟨outcome, by simpa using reported, by simpa [ImportTarget.afterAll] using handed⟩

/--
A file of letters is read as these letters, by the reader and from the rest of the file. An import hands their
messages to the index one after the other, each as it is and under the next number, and reports on each in its
place; those that give no date read the clock in turn. An empty file is the file of no letters.
-/
theorem importArchive_letters (index : Index) {files : FileTree} (target : ImportTarget) {path : String}
    {letters : List Archive.Letter} (read : files.read path = .ok (Archive.ofLetters letters)) :
    Archive.entriesRead (Archive.ofLetters letters) 0
        (Archive.yields (Archive.stretches 0 (Archive.lines (Archive.ofLetters letters))))
        = Archive.letterEntries 0 letters
      ∧ ∃ (held : Nat → Index) (report : ImportReport),
        index.importArchive files target path = .ok (held letters.length, report)
        ∧ held 0 = index ∧ report.length = letters.length
        ∧ ∀ position letter, letters[position]? = some letter → ∃ outcome, report[position]? = some outcome
          ∧ (held position).hand (target.afterAll ((letters.take position).map (·.message)))
              (nextUid^[position] (index.firstFreeUid target.mailbox))
              ⟨(Archive.ofLetters (letters.take position)).length, letter.message⟩
            = (held (position + 1), outcome) := by
  refine ⟨by rw [Archive.entriesRead_eq, Archive.entries_ofLetters], ?_⟩
  obtain ⟨held, report, done, start, length, hands⟩ := index.hands_importFrom target
    (index.firstFreeUid target.mailbox) (Archive.letterEntries 0 letters)
    fun entry listed => Archive.message_ne_nil_of_letter listed
  rw [Archive.length_letterEntries] at done length
  refine ⟨held, report, ?_, start, length, ?_⟩
  · simp only [importArchive, read, Archive.entries_ofLetters, done]
  · intro position letter found
    have place : (Archive.letterEntries 0 letters)[position]?
        = some ⟨(Archive.ofLetters (letters.take position)).length, letter.message⟩ := by
      rw [Archive.getElem?_letterEntries, found, Option.map_some, Nat.zero_add]
    have before : ((Archive.letterEntries 0 letters).take position).map (·.message)
        = (letters.take position).map (·.message) := by
      rw [List.map_take, Archive.map_message_letterEntries, List.map_take]
    rw [← before]
    exact hands position _ place

/-- A letter of a blank line. -/
def blankLetter : Archive.Letter where
  separator := "From \n".toUTF8.toList
  message := "\n".toUTF8.toList
  opens := by decide +kernel
  isLine := ⟨"From ".toUTF8.toList, by decide +kernel, by decide +kernel⟩
  ends := ⟨[], by decide +kernel⟩
  plain := by decide +kernel

/-- A letter of which a line almost looks like a separator. -/
def quotingLetter : Archive.Letter where
  separator := "From me Fri Jul  8 12:08:34 2011\n".toUTF8.toList
  message := "Subject: quoted\n\n>From you\nFrom\n".toUTF8.toList
  opens := by decide +kernel
  isLine := ⟨"From me Fri Jul  8 12:08:34 2011".toUTF8.toList, by decide +kernel, by decide +kernel⟩
  ends := ⟨"Subject: quoted\n\n>From you\nFrom".toUTF8.toList, by decide +kernel⟩
  plain := by decide +kernel

/-- A file of two letters. -/
def twoLetters : FileTree :=
  ⟨[], [(["m"], .file (Archive.ofLetters [blankLetter, quotingLetter]))]⟩

/-- A clock that is read once a second. -/
def secondHand : Clock :=
  fun reading => (Instant.of? reading 0).getD .epoch

/--
The second of two letters comes with its own bytes, from behind the first one, and is number 2. Neither gives a
date, so the clock is read again for it.
-/
theorem importArchive_letters_two :
    twoLetters.read "m" = .ok (Archive.ofLetters [blankLetter, quotingLetter])
      ∧ ∃ (held : Nat → Index) (report : ImportReport),
        (ofSnapshot .small Mime.readEvents []).importArchive twoLetters ⟨⟨"inbox"⟩, .empty, secondHand⟩ "m"
            = .ok (held 2, report)
          ∧ report.length = 2
          ∧ ∃ outcome, report[1]? = some outcome
            ∧ (held 1).hand ⟨⟨"inbox"⟩, .empty, secondHand.later⟩ 2 ⟨7, quotingLetter.message⟩
              = (held 2, outcome) := by
  have read : twoLetters.read "m" = .ok (Archive.ofLetters [blankLetter, quotingLetter]) := by decide +kernel
  have uid : nextUid^[1] ((ofSnapshot .small Mime.readEvents []).firstFreeUid ⟨"inbox"⟩) = 2 := by decide +kernel
  have offset : (Archive.ofLetters ([blankLetter, quotingLetter].take 1)).length = 7 := by decide +kernel
  have undated : Mime.dateOf? blankLetter.message = none := by decide +kernel
  have clock : ImportTarget.afterAll ⟨⟨"inbox"⟩, .empty, secondHand⟩
      (([blankLetter, quotingLetter].take 1).map (·.message)) = ⟨⟨"inbox"⟩, .empty, secondHand.later⟩ := by
    simp [ImportTarget.afterAll, ImportTarget.after, undated]
  obtain ⟨-, held, report, done, -, length, hands⟩ := importArchive_letters (ofSnapshot .small Mime.readEvents [])
    ⟨⟨"inbox"⟩, .empty, secondHand⟩ read
  obtain ⟨outcome, reported, handed⟩ := hands 1 quotingLetter rfl
  rw [uid, offset, clock] at handed
  exact ⟨read, held, report, done, length, outcome, reported, handed⟩

end Index

end Letterbox
