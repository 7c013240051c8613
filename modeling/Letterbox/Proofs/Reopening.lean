import Letterbox.Disk
import Letterbox.Proofs.History
import Letterbox.Proofs.WordRuns

/-!
# Indexes that are opened again

Tokens that were stored with one configuration meet the query terms of another. Main statement: after an index
is closed and opened again in its directory, each message that was added before is found by a value whose windows
start tokens of before. Where these were pieces of sentences, too, the value occurs in a sentence of a body and its
windows fit into them; where these were words, the windows start words.
-/

namespace Letterbox

open Text

/-! ## Directories -/

namespace FileTree

variable {tree : FileTree} {path : String} {place : Place}

/-- A directory that is reached through some names is not made again. -/
theorem haveDirectory_of_reached {start : Place} {names : List String}
    (reached : names.foldlM tree.step start = .ok place) (directory : tree.isDirectoryAt place = true) :
    tree.haveDirectory start names = .ok tree := by
  have refused : ∃ fault, tree.makeDirectory start names = .error fault := by
    unfold makeDirectory
    split
    · exact ⟨_, rfl⟩
    · next last around split =>
      -- the names are those around the last one, the last one, and empty ones
      have whole : names = around.reverse ++ (last :: (names.reverse.takeWhile (· = "")).reverse) := by
        have parts := congrArg List.reverse (List.takeWhile_append_dropWhile (p := (· = "")) (l := names.reverse))
        rw [split, List.reverse_append, List.reverse_reverse, List.reverse_cons] at parts
        simpa using parts.symm
      rw [whole, List.foldlM_append] at reached
      cases outer : around.reverse.foldlM tree.step start with
      | error fault => exact ⟨fault, rfl⟩
      | ok middle =>
          rw [outer] at reached
          change (last :: _).foldlM tree.step middle = .ok place at reached
          rw [List.foldlM_cons] at reached
          cases found : tree.step middle last with
          | ok next => exact ⟨.alreadyThere, by simp only [found]⟩
          | error fault =>
              rw [found] at reached
              exact absurd reached (by simp [bind, Except.bind])
  obtain ⟨fault, refused⟩ := refused
  rw [haveDirectory, refused]
  simp only [reached, directory, if_true]

/-- A directory that a path leads to is not made again. -/
theorem makeDirectories_of_located (located : tree.locate path = .ok place)
    (directory : tree.isDirectoryAt place = true) : tree.makeDirectories path = (tree, .ok ()) := by
  unfold makeDirectories
  split
  · rfl
  · unfold locate at located
    split at located
    · simp at located
    · next proper =>
      simp only [haveDirectories, haveDirectory_of_reached located directory]

end FileTree

/-! ## Indexes at rest -/

namespace Config

/-- What stands at the directory of a valid configuration is a directory. -/
theorem isDirectoryAt_of_validate {config : Config} {files : FileTree} {directory : String} {place : Place}
    (valid : config.validate files = .ok ()) (own : config.directory = some directory)
    (located : files.locate directory = .ok place) : files.isDirectoryAt place = true := by
  have known : files.exists? directory = true := by
    rw [FileTree.exists?, located]
    rfl
  have same : files.isDirectory directory = files.isDirectoryAt place := by
    rw [FileTree.isDirectory, located]
  rw [validate, own] at valid
  split at valid
  · simp at valid
  · next absent => simp at absent
  · next proper other =>
    obtain rfl := Option.some.inj other
    rw [known, same] at valid
    cases held : files.isDirectoryAt place with
    | true => rfl
    | false => simp [held] at valid

end Config

namespace Disk

variable {disk next : Disk} {config : Config} {decoder : Mime.Decoder} {opened : OpenIndex}
  {directory : String} {place : Place}

/-- A directory that was made, or was there, has its place; the indexes at rest stay. -/
theorem makeDirectory_ok (made : disk.makeDirectory directory = (next, .ok place)) :
    next.files.locate directory = .ok place ∧ next.stored = disk.stored := by
  unfold makeDirectory at made
  split at made
  · simp at made
  · next files done =>
    obtain ⟨rfl, found⟩ := Prod.mk.inj made
    refine ⟨?_, rfl⟩
    unfold placeOf at found
    split at found
    · next reached located =>
      split at found
      · rw [located, Except.ok.inj found]
      · simp at found
    · simp at found

/-- A directory that is there is not made again. -/
theorem makeDirectory_of_located {target : Place} (located : disk.files.locate directory = .ok place)
    (isDirectory : disk.files.isDirectoryAt place = true)
    (made : disk.makeDirectory directory = (next, .ok target)) : next = disk ∧ target = place := by
  have files := FileTree.makeDirectories_of_located located isDirectory
  obtain ⟨reached, -⟩ := makeDirectory_ok made
  rw [makeDirectory, files] at made
  obtain rfl : disk = next := (Prod.mk.inj made).1
  exact ⟨rfl, Except.ok.inj (reached.symm.trans located)⟩

/-- An index that was opened in a directory holds what rests there. -/
theorem openIndex_ok (own : config.directory = some directory)
    (done : disk.openIndex config decoder = (next, .ok opened)) :
    config.validate disk.files = .ok ()
      ∧ ∃ made place entries, disk.makeDirectory directory = (made, .ok place)
        ∧ made.entriesAt directory place = .ok entries
        ∧ next = { made.store place ⟨.messages, entries⟩ with held := place :: made.held }
        ∧ opened = ⟨.ofSnapshot config decoder entries, some place⟩ := by
  unfold openIndex at done
  rw [own] at done
  split at done
  · simp at done
  · next absent => simp at absent
  · next valid other =>
    obtain rfl := Option.some.inj other
    refine ⟨valid, ?_⟩
    unfold openInDirectory at done
    split at done
    · simp at done
    · next made place reached =>
      split at done
      · simp at done
      · next entries found =>
        simp only at done
        split at done
        · simp at done
        · obtain ⟨rfl, same⟩ := Prod.mk.inj done
          exact ⟨made, place, entries, reached, found, rfl, (Except.ok.inj same).symm⟩

/-- An open index that is closed leaves its entries in its directory, and the files alone. -/
theorem closeIndex_eq (isOpen : opened.index.isOpen = true) (inPlace : opened.place = some place) :
    (disk.closeIndex opened).1.files = disk.files
      ∧ (disk.closeIndex opened).1.stored.lookup place = some ⟨.messages, opened.index.close.committed⟩ := by
  rw [closeIndex, if_pos isOpen, inPlace]
  exact ⟨rfl, List.lookup_cons_self⟩

theorem ensureCompatible_messages : Schema.messages.ensureCompatible = .ok () := by
  rfl

end Disk

/--
An index is opened in a directory, called and closed, and then opened there again with another configuration.
-/
structure Reopening where
  directory : String
  first : Config
  second : Config
  decoder : Mime.Decoder
  other : Mime.Decoder
  /-- The disk before the first opening, while the index is open, and after the second opening. -/
  disk : Disk
  held : Disk
  last : Disk
  opened : OpenIndex
  calls : List Call
  reopened : OpenIndex
  own : first.directory = some directory
  same : second.directory = some directory
  opens : disk.openIndex first decoder = (held, .ok opened)
  isOpen : (opened.index.after calls).isOpen = true
  reopens : (held.closeIndex { opened with index := opened.index.after calls }).1.openIndex second other
    = (last, .ok reopened)

namespace Reopening

variable (reopening : Reopening)

/-- The index when it is closed. -/
def live (reopening : Reopening) : Index :=
  reopening.opened.index.after reopening.calls

/-- The messages that were added and not deleted before the close. -/
def told (reopening : Reopening) : Ledger :=
  reopening.opened.index.told (fun _ _ => none) reopening.calls

theorem exists_opened_eq :
    ∃ entries place, reopening.opened = ⟨.ofSnapshot reopening.first reopening.decoder entries, some place⟩ := by
  obtain ⟨-, made, place, entries, -, -, -, opened⟩ := Disk.openIndex_ok reopening.own reopening.opens
  exact ⟨entries, place, opened⟩

/-- What was committed at the close is there again. -/
theorem index_eq :
    reopening.reopened.index = .ofSnapshot reopening.second reopening.other reopening.live.close.committed := by
  obtain ⟨-, made, place, entries, reached, -, held, opened⟩ := Disk.openIndex_ok reopening.own reopening.opens
  obtain ⟨located, -⟩ := Disk.makeDirectory_ok reached
  obtain ⟨files, kept⟩ := @Disk.closeIndex_eq reopening.held
    { reopening.opened with index := reopening.live } place reopening.isOpen (by rw [opened])
  have before : reopening.held.files = made.files := by rw [held]; rfl
  obtain ⟨valid, again, target, found, arrived, stored, -, same⟩ :=
    Disk.openIndex_ok reopening.same reopening.reopens
  rw [← before, ← files] at located
  obtain ⟨rfl, rfl⟩ := Disk.makeDirectory_of_located located
    (Config.isDirectoryAt_of_validate valid reopening.same located) arrived
  rw [Disk.entriesAt, kept] at stored
  simp only [Disk.ensureCompatible_messages, Except.ok.injEq] at stored
  rw [same, stored]

end Reopening

/-! ## Entries of the messages that were added -/

namespace Index

theorem mem_reflag {analysis : Analysis} {snapshot : Snapshot} {mailbox : Mailbox} {flags : Flags}
    {uids : List Uid} {entry : Entry} (listed : entry ∈ snapshot) (content : entry.document.kind = .message) :
    entry ∈ uids.foldl
      (fun snapshot uid => replace analysis snapshot (.flags ⟨mailbox, uid, flags⟩)) snapshot := by
  induction uids generalizing snapshot with
  | nil => exact listed
  | cons uid rest ih =>
      refine ih (mem_replace listed fun same => ?_)
      have kind : entry.document.kind = .flags := congrArg DocumentLabel.kind same
      rw [content] at kind
      simp at kind

/-- The content of each message that was told of is written with one analysis. -/
structure Tracks (analysis : Analysis) (index : Index) (held : Ledger) : Prop where
  analysed : index.analysis = analysis
  clean : index.isDirty = false → index.committed = index.written
  own : ∀ {mailbox uid message}, held mailbox uid = some message →
    message.content.mailbox = mailbox ∧ message.content.uid = uid
  written : ∀ {mailbox uid message}, held mailbox uid = some message →
    Entry.ofDocument analysis (.content message.content) ∈ index.written

namespace Tracks

variable {analysis : Analysis} {index next : Index} {held : Ledger} {mailbox : Mailbox} {range : UidRange}

theorem commitPending (tracks : index.Tracks analysis held) : index.commitPending.Tracks analysis held := by
  refine ⟨?_, fun _ => ?_, tracks.own, ?_⟩
  · rw [analysis_commitPending]
    exact tracks.analysed
  · rw [committed_commitPending tracks.clean, written_commitPending]
  · rw [written_commitPending]
    exact tracks.written

theorem add (tracks : index.Tracks analysis held) {message : Message}
    (added : index.add mailbox message = .ok next) :
    next.Tracks analysis (held.enter index.decoder mailbox message) := by
  obtain ⟨rfl, content, decoded, put⟩ := add_ok added
  obtain ⟨-, rfl⟩ := put_ok put
  have own := ContentDocument.own_of_ofMessage decoded
  have entered : held.enter index.decoder message.mailbox message
      = held.put message.mailbox message.uid ⟨content, message.flags⟩ := by
    rw [Ledger.enter, decoded]
  rw [entered]
  refine ⟨(analysis_afterWrite ..).trans tracks.analysed, clean_afterWrite index _, ?_, ?_⟩
  · intro mailbox uid other found
    unfold Ledger.put at found
    split at found
    · next same =>
      obtain ⟨rfl, rfl⟩ := same
      obtain rfl := Option.some.inj found
      exact own
    · exact tracks.own found
  · intro mailbox uid other found
    -- the flags of a message do not take the place of a content
    rw [written_afterWrite, tracks.analysed]
    refine mem_replace ?_ fun same => DocumentKind.noConfusion (congrArg DocumentLabel.kind same)
    unfold Ledger.put at found
    split at found
    · obtain rfl := Option.some.inj found
      exact mem_replace_self _ _ _
    · next apart =>
      refine mem_replace (tracks.written found) fun same => apart ?_
      obtain ⟨-, place, number⟩ := DocumentLabel.mk.inj same
      obtain ⟨rfl, rfl⟩ := tracks.own found
      exact ⟨place.trans own.1, number.trans own.2⟩

theorem update (tracks : index.Tracks analysis held) {flags : Flags} {count : Nat}
    (updated : index.update mailbox range flags = .ok (next, count)) :
    next.Tracks analysis (held.reflag mailbox range flags) := by
  obtain ⟨-, rfl, -⟩ := update_ok updated
  -- each message there is had its content before
  have former : ∀ {other uid message}, held.reflag mailbox range flags other uid = some message →
      ∃ before, held other uid = some before ∧ before.content = message.content := by
    intro other uid message found
    unfold Ledger.reflag at found
    split at found
    · obtain ⟨before, present, rfl⟩ := Option.map_eq_some_iff.mp found
      exact ⟨before, present, rfl⟩
    · exact ⟨message, found, rfl⟩
  refine ⟨?_, clean_afterWrite _ _, fun found => ?_, fun found => ?_⟩
  · rw [analysis_afterWrite, analysis_commitPending]
    exact tracks.analysed
  · obtain ⟨before, present, same⟩ := former found
    rw [← same]
    exact tracks.own present
  · obtain ⟨before, present, same⟩ := former found
    rw [written_afterWrite, reflagged, ← same]
    exact mem_reflag (tracks.commitPending.written present) rfl

theorem delete (tracks : index.Tracks analysis held) (deleted : index.delete mailbox range = .ok next) :
    next.Tracks analysis (held.remove mailbox range) := by
  obtain ⟨-, rfl⟩ := delete_ok deleted
  have former : ∀ {other uid message}, held.remove mailbox range other uid = some message →
      ¬ (other = mailbox ∧ range.contains uid = true) ∧ held other uid = some message := by
    intro other uid message found
    unfold Ledger.remove at found
    split at found
    · simp at found
    · next outside => exact ⟨outside, found⟩
  refine ⟨(analysis_afterWrite ..).trans tracks.analysed, clean_afterWrite index _,
    fun found => tracks.own (former found).2, fun found => ?_⟩
  obtain ⟨outside, present⟩ := former found
  obtain ⟨rfl, rfl⟩ := tracks.own present
  rw [written_afterWrite]
  refine List.mem_filter.mpr ⟨tracks.written present, ?_⟩
  rw [Bool.not_eq_true', ← Bool.not_eq_true, rangeQuery, Query.selects_both, Query.selects_inMailbox,
    Query.selects_inRange]
  rintro ⟨⟨own, -⟩, inside⟩
  exact outside ⟨own, inside⟩

end Tracks

/-- Writes and commits keep track of the contents of the messages that they tell of. -/
theorem keptByWrites_tracks (analysis : Analysis) : KeptByWrites (fun _ _ => True) (Tracks analysis) where
  add := fun tracks _ added => tracks.add added
  update := fun tracks updated => tracks.update updated
  delete := fun tracks deleted => tracks.delete deleted
  commit := Tracks.commitPending
  shut := fun tracks => ⟨tracks.analysed, tracks.clean, tracks.own, tracks.written⟩

/-- The close of an open index commits all that was written. -/
theorem Tracks.committed_close {analysis : Analysis} {index : Index} {held : Ledger}
    (tracks : index.Tracks analysis held) (isOpen : index.isOpen = true) :
    index.close.committed = index.written := by
  rw [close, if_pos isOpen]
  exact committed_commitPending tracks.clean

end Index

/-! ## Main statement -/

theorem Config.validateNumbers_of_validate {config : Config} {files : FileTree}
    (valid : config.validate files = .ok ()) : config.validateNumbers = .ok () := by
  unfold validate at valid
  split at valid
  · simp at valid
  · next proper _ => exact proper
  · next proper _ => exact proper

theorem Config.bySubstrings_of_validate {config : Config} {files : FileTree}
    (valid : config.validate files = .ok ()) (chosen : config.substrings = true) : config.BySubstrings := by
  have numbers := validateNumbers_of_validate valid
  unfold validateNumbers at numbers
  split at numbers
  · simp at numbers
  · split at numbers
    · simp at numbers
    · next proper => exact ⟨chosen, by omega, by omega⟩

theorem byteSize_le (text : List Char) : byteSize text ≤ 4 * text.length := by
  induction text with
  | nil => exact Nat.le_refl 0
  | cons letter rest ih =>
      have size := letter.utf8Size_le_four
      rw [byteSize, List.length_cons]
      omega

/-- A token that a kept window starts is kept: it is the window, or of a length that always is. -/
theorem isKept_of_starts {shortest : Nat} {window token : Term} (starts : window <+: token)
    (length : token.length ≤ max shortest window.length) (kept : isKept window = true)
    (fits : window.length < shortest → 4 * shortest ≤ maxTermBytes) : isKept token = true := by
  rcases Nat.lt_or_ge window.length shortest with brief | long
  · have bytes := byteSize_le token
    have limit := fits brief
    rw [Nat.max_eq_left (Nat.le_of_lt brief)] at length
    rw [isKept, decide_eq_true_eq]
    omega
  · rw [Nat.max_eq_right long] at length
    rw [← starts.eq_of_length_le length]
    exact kept

theorem Config.analysis_of_words {config : Config} (chosen : config.substrings = false) : config.analysis = .words := by
  rw [analysis, chosen]
  rfl

/--
What a value needs to be looked up in a message whose tokens are of another configuration. Where these are pieces of
sentences, the value stands in a sentence of a body; its windows must not be longer than the pieces, and there must
be room for a piece at each of them. Where these are words, each window starts a word in lower case.
-/
inductive Config.Recalls (first second : Config) (content : ContentDocument) (value : String) : Prop
  | inSentence (chosen : first.substrings = true) {body : String} (listed : body ∈ content.bodies)
      {sentence : Piece} (cut : sentence ∈ sentences (lower body.toList)) {before after : List Char}
      (split : sentence.text = before ++ lower value.toList ++ after) {width : Nat}
      (windows : width = min second.longestToken (lower value.toList).length) (most : width ≤ first.longestToken)
      (room : HasRoom first.shortestToken width before (lower value.toList) after)
      (fits : width < first.shortestToken → 4 * first.shortestToken ≤ maxTermBytes)
  | atWords (chosen : first.substrings = false)
      (starts : ∀ window ∈ second.analysis.queryTerms value.toList, (Document.content content).HasRun .body window)

/-- Each window of a value that is recalled starts a token of the bodies. -/
theorem Config.Recalls.hasStart {first second : Config} {content : ContentDocument} {value : String}
    (recalls : first.Recalls second content value) (before : first.substrings = true → first.BySubstrings)
    (again : second.BySubstrings) {window : Term} (wanted : window ∈ second.analysis.queryTerms value.toList)
    (kept : isKept window = true) : (Document.content content).HasStart first.analysis .body window := by
  cases recalls with
  | inSentence chosen listed cut split windows most room fits =>
      have mode := before chosen
      rw [again.analysis_eq] at wanted
      have isWindow := Analysis.mem_queryTerms.mp wanted
      obtain rfl := isWindow.length_eq.trans windows.symm
      obtain ⟨token, found, starts, length⟩ :=
        exists_token_of_window mode.positive mode.ordered cut split isWindow most room
      rw [mode.analysis_eq]
      exact ⟨token.text, Document.mem_terms.mpr ⟨⟨_, List.mem_map_of_mem listed, List.mem_map_of_mem found⟩,
        isKept_of_starts starts length kept fits⟩, starts⟩
  | atWords chosen starts =>
      have analysed : Field.body.IsAnalysed := trivial
      rw [analysis_of_words chosen]
      exact (Document.hasStart_words_iff analysed).mpr (starts window wanted)

namespace Reopening

variable (reopening : Reopening)

theorem first_bySubstrings (chosen : reopening.first.substrings = true) : reopening.first.BySubstrings :=
  Config.bySubstrings_of_validate (Disk.openIndex_ok reopening.own reopening.opens).1 chosen

theorem second_bySubstrings (chosen : reopening.second.substrings = true) : reopening.second.BySubstrings :=
  Config.bySubstrings_of_validate (Disk.openIndex_ok reopening.same reopening.reopens).1 chosen

/-- A message that was told of is there again, as it was analysed when it was added. -/
theorem content_mem {mailbox : Mailbox} {uid : Uid} {message : HeldMessage}
    (added : reopening.told mailbox uid = some message) :
    (message.content.mailbox = mailbox ∧ message.content.uid = uid)
      ∧ Entry.ofDocument reopening.first.analysis (.content message.content)
        ∈ reopening.reopened.index.committed := by
  obtain ⟨entries, place, opened⟩ := reopening.exists_opened_eq
  have start : reopening.opened.index.Tracks reopening.first.analysis fun _ _ => none := by
    rw [opened]
    exact ⟨rfl, fun _ => rfl, fun found => by simp at found, fun found => by simp at found⟩
  have tracks : reopening.live.Tracks reopening.first.analysis reopening.told :=
    (Index.keptByWrites_tracks reopening.first.analysis).after start (Index.brings_any _ _)
  refine ⟨tracks.own added, ?_⟩
  rw [reopening.index_eq]
  change _ ∈ reopening.live.close.committed
  rw [tracks.committed_close reopening.isOpen]
  exact tracks.written added

/--
Each message that was added before is found again by a value that the tokens of before recall, also with other token
lengths than before, or after words.
-/
theorem finds_again (again : reopening.second.substrings = true) {mailbox : Mailbox} {uid : Uid}
    {message : HeldMessage} (added : reopening.told mailbox uid = some message)
    (indexed : isKept mailbox.name.toList = true) {value : String}
    (keeps : reopening.reopened.index.KeepsTerms [] value)
    (recalls : reopening.first.Recalls reopening.second message.content value) :
    reopening.reopened.index.Finds mailbox (.text .body value) uid := by
  have analysis : reopening.reopened.index.analysis = reopening.second.analysis := by
    rw [reopening.index_eq]
    rfl
  obtain ⟨⟨rfl, rfl⟩, present⟩ := reopening.content_mem added
  refine Index.finds_of_selects rfl rfl present indexed
    (Query.selects_startingAll_ofDocument.mpr fun window wanted => ?_)
  have kept := keeps window wanted
  rw [analysis] at wanted
  exact recalls.hasStart (fun chosen => reopening.first_bySubstrings chosen) (reopening.second_bySubstrings again)
    wanted kept

/-- A disk with an empty directory. -/
def emptyDirectory : Disk :=
  { files := ⟨[], [(["index"], .directory)]⟩ }

/-- The disk while a new index is open in that directory. -/
def heldDirectory : Disk :=
  { emptyDirectory with stored := [(["index"], ⟨.messages, []⟩)], held := [["index"]] }

/-- A configuration for that directory. -/
def inDirectory (config : Config) : Config :=
  { config with directory := some "index" }

/-- A decoder that tells of one text. -/
def helloDecoder : Mime.Decoder :=
  fun _ => .ok [Index.plainBody "hello"]

/-- The open index with one letter in it. -/
def helloIndex (config : Config) : Index :=
  (Index.ofSnapshot (inDirectory config) helloDecoder []).after [.add ⟨"inbox"⟩ emptyLetter]

/-- The disk after that index was closed. -/
def helloDisk (config : Config) : Disk :=
  (heldDirectory.closeIndex ⟨helloIndex config, some ["index"]⟩).1

/-- The index that is opened after that. -/
def helloAgain (config second : Config) : OpenIndex :=
  ⟨.ofSnapshot (inDirectory second) helloDecoder (helloIndex config).close.committed, some ["index"]⟩

/-- The letter as it is held. -/
def helloMessage : HeldMessage :=
  ⟨.ofEvents emptyLetter [Index.plainBody "hello"], .empty⟩

/-- An index with that letter is opened again, if both configurations are taken. -/
def ofHello (first second : Config)
    (opens : emptyDirectory.openIndex (inDirectory first) helloDecoder
      = (heldDirectory, .ok ⟨.ofSnapshot (inDirectory first) helloDecoder [], some ["index"]⟩))
    (isOpen : (helloIndex first).isOpen = true)
    (reopens : ((helloDisk first).openIndex (inDirectory second) helloDecoder).2
      = .ok (helloAgain first second)) : Reopening where
  directory := "index"
  first := inDirectory first
  second := inDirectory second
  decoder := helloDecoder
  other := helloDecoder
  disk := emptyDirectory
  held := heldDirectory
  last := ((helloDisk first).openIndex (inDirectory second) helloDecoder).1
  opened := ⟨.ofSnapshot (inDirectory first) helloDecoder [], some ["index"]⟩
  calls := [.add ⟨"inbox"⟩ emptyLetter]
  reopened := helloAgain first second
  own := rfl
  same := rfl
  opens := opens
  isOpen := isOpen
  reopens := Prod.ext rfl reopens

/-- Tokens of three or four characters. -/
def narrowTokens : Config :=
  { Config.small with longestToken := 4 }

/-- Tokens that are words. -/
def wordTokens : Config :=
  { Config.small with substrings := false }

/--
A text of five characters is looked up through two windows of four, among tokens of up to forty; and the start of
a word, among words.
-/
theorem finds_hello :
    (ofHello .small narrowTokens rfl rfl rfl).reopened.index.Finds ⟨"inbox"⟩ (.text .body "HELLO") 1
      ∧ (ofHello wordTokens .small rfl rfl rfl).reopened.index.Finds ⟨"inbox"⟩ (.text .body "HELL") 1 := by
  have listed : "hello" ∈ helloMessage.content.bodies := by decide +kernel
  constructor
  · have added : (ofHello .small narrowTokens rfl rfl rfl).told ⟨"inbox"⟩ 1 = some helloMessage := rfl
    have cut : (⟨0, "hello".toList⟩ : Piece) ∈ sentences (lower "hello".toList) := by decide +kernel
    have split : "hello".toList = [] ++ lower "HELLO".toList ++ [] := by decide +kernel
    have windows : 4 = min narrowTokens.longestToken (lower "HELLO".toList).length := by decide +kernel
    exact finds_again _ rfl added (by decide) (by decide +kernel)
      (.inSentence rfl listed cut split windows (by decide) (Or.inl (by decide)) (by decide))
  · have added : (ofHello wordTokens .small rfl rfl rfl).told ⟨"inbox"⟩ 1 = some helloMessage := rfl
    have run : IsRun 0 "hello".toList ⟨0, "hello".toList⟩ := mem_words_iff.mp (by decide +kernel)
    have starts : ∀ window ∈ Config.small.analysis.queryTerms "HELL".toList, window <+: lower "hello".toList := by
      decide +kernel
    exact finds_again _ rfl added (by decide) (by decide +kernel) (.atWords rfl fun window wanted =>
      ⟨"hello", List.mem_map_of_mem listed, _, run, by decide +kernel, starts window wanted⟩)

/-- A value that occurs in a body of a message that was added is not found, although it can be looked up. -/
structure Loses (reopening : Reopening) (mailbox : Mailbox) (uid : Uid) (value : String) : Prop where
  again : reopening.second.substrings = true
  added : ∃ message, reopening.told mailbox uid = some message
    ∧ ∃ body ∈ message.content.bodies, OccursIn value.toList body.toList
  indexed : isKept mailbox.name.toList = true
  enough : reopening.reopened.index.IsLongEnough value
  keeps : reopening.reopened.index.KeepsTerms [] value
  missed : ¬ reopening.reopened.index.Finds mailbox (.text .body value) uid

/-- Tokens of six to eight characters. -/
def wideTokens : Config :=
  { Config.small with shortestToken := 6, longestToken := 8 }

/--
Nothing tells that a text is not found again: it may be longer than the tokens of before, stand inside a word
where these are words, or stand where they have no room.
-/
theorem misses_hello :
    (ofHello Index.shortTokens .small rfl rfl rfl).Loses ⟨"inbox"⟩ 1 "hello"
      ∧ (ofHello wordTokens .small rfl rfl rfl).Loses ⟨"inbox"⟩ 1 "ello"
      ∧ (ofHello wideTokens .small rfl rfl rfl).Loses ⟨"inbox"⟩ 1 "ello" := by
  have listed : "hello" ∈ helloMessage.content.bodies := by decide +kernel
  refine ⟨⟨rfl, ⟨helloMessage, rfl, "hello", listed, ?_⟩, ?_, ?_, ?_, Index.not_finds_of_nothing ?_ ?_⟩,
    ⟨rfl, ⟨helloMessage, rfl, "hello", listed, ?_⟩, ?_, ?_, ?_, Index.not_finds_of_nothing ?_ ?_⟩,
    ⟨rfl, ⟨helloMessage, rfl, "hello", listed, ?_⟩, ?_, ?_, ?_, Index.not_finds_of_nothing ?_ ?_⟩⟩
  all_goals decide +kernel

end Reopening

end Letterbox
