import Letterbox.Program
import Letterbox.Proofs.Calls
import Letterbox.Proofs.IntervalLeftOut
import Letterbox.Proofs.Reopening

/-!
# Commit intervals

A run of the program writes at once or, with a commit interval, commits what is pending each time its clock
strikes and when it ends. Main statement: invocations whose settings differ in nothing but the commit interval
end alike and leave the same disk, whenever the clocks strike; so do invocations that are refused.
-/

namespace Letterbox

/-- The configuration with another commit interval. -/
def Config.withInterval (config : Config) (interval : Option Nat) : Config :=
  { config with commitInterval := interval }

/-- When the clock of a run strikes: before which of the calls on the index. -/
abbrev Strikes := Nat → Bool

/-- When the clock strikes after the first call. -/
def Strikes.later (strikes : Strikes) : Strikes :=
  fun call => strikes (call + 1)

/-- A clock that never strikes. -/
def Strikes.silent : Strikes :=
  fun _ => false

namespace Index

/-- The index when the next call comes: the clock may have struck. -/
def await (index : Index) (strikes : Strikes) : Index :=
  if strikes 0 then index.requestCommit else index

/-- Imports messages while the clock strikes. -/
def importStruck (index : Index) (target : ImportTarget) (strikes : Strikes) (uid : Uid) :
    List ImportSource → Index × ImportReport
  | [] => (index.await strikes, [])
  | source :: rest =>
    match source.content with
    | .error fault =>
      let (last, report) := index.importStruck target strikes uid rest
      (last, .failed fault :: report)
    | .ok content =>
      match (index.await strikes).add target.mailbox (target.message uid content) with
      | .error cause =>
        let (last, report) :=
          (index.await strikes).importStruck (target.after content) strikes.later (nextUid uid) rest
        (last, .failed (source.blame cause) :: report)
      | .ok next =>
        let (last, report) := next.importStruck (target.after content) strikes.later (nextUid uid) rest
        (last, .imported uid :: report)

/-- Two indexes hold the same writes; they may have committed them at different times. -/
structure SameWrites (one other : Index) : Prop where
  config : ∃ interval, other.config = one.config.withInterval interval
  decoder : other.decoder = one.decoder
  written : other.written = one.written
  isOpen : other.isOpen = one.isOpen
  clean : one.isDirty = false → one.committed = one.written
  otherClean : other.isDirty = false → other.committed = other.written

namespace SameWrites

variable {one other : Index}

theorem analysis (same : one.SameWrites other) : other.analysis = one.analysis := by
  obtain ⟨interval, config⟩ := same.config
  rw [Index.analysis, config]
  rfl

theorem symm (same : one.SameWrites other) : other.SameWrites one := by
  obtain ⟨interval, config⟩ := same.config
  exact
    { config := ⟨one.config.commitInterval, by rw [config]; rfl⟩
      decoder := same.decoder.symm
      written := same.written.symm
      isOpen := same.isOpen.symm
      clean := same.otherClean
      otherClean := same.clean }

theorem afterWrite (same : one.SameWrites other) (written : Snapshot) :
    (one.afterWrite written).SameWrites (other.afterWrite written) where
  config := by simpa using same.config
  decoder := by rw [decoder_afterWrite, decoder_afterWrite, same.decoder]
  written := by simp
  isOpen := by rw [isOpen_afterWrite, isOpen_afterWrite, same.isOpen]
  clean := clean_afterWrite one written
  otherClean := clean_afterWrite other written

/-- A commit on one side changes nothing that the two share. -/
theorem commitPending (same : one.SameWrites other) : one.commitPending.SameWrites other where
  config := by simpa using same.config
  decoder := by
    rw [same.decoder, Index.commitPending]
    split <;> rfl
  written := by simpa using same.written
  isOpen := by simpa using same.isOpen
  clean _ := by rw [committed_commitPending same.clean, written_commitPending]
  otherClean := same.otherClean

/-- A strike of one clock changes nothing that the two share. -/
theorem struck (same : one.SameWrites other) (strikes : Strikes) : (one.await strikes).SameWrites other := by
  unfold Index.await Index.requestCommit
  split_ifs
  · exact same.commitPending
  · exact same
  · exact same

theorem await (same : one.SameWrites other) (strikes ticks : Strikes) :
    (one.await strikes).SameWrites (other.await ticks) :=
  ((same.struck strikes).symm.struck ticks).symm

/-- A message is added to both or refused by both. -/
theorem add (same : one.SameWrites other) (mailbox : Mailbox) (message : Message) :
    (∃ cause, one.add mailbox message = .error cause ∧ other.add mailbox message = .error cause)
      ∨ ∃ next later, one.add mailbox message = .ok next ∧ other.add mailbox message = .ok later
        ∧ next.SameWrites later := by
  unfold Index.add
  rw [same.decoder]
  split
  · exact Or.inl ⟨_, rfl, rfl⟩
  · cases MessageDocuments.ofMessage one.decoder message with
    | error cause => exact Or.inl ⟨cause, rfl, rfl⟩
    | ok documents =>
        simp only [put_eq, same.isOpen, same.analysis, same.written]
        split
        · exact Or.inr ⟨_, _, rfl, rfl, same.afterWrite _⟩
        · exact Or.inl ⟨_, rfl, rfl⟩

/-- An import reports the same, and brings the same writes. -/
theorem importStruck (same : one.SameWrites other) (target : ImportTarget) (strikes ticks : Strikes) (uid : Uid)
    (sources : List ImportSource) :
    (one.importStruck target strikes uid sources).2 = (other.importStruck target ticks uid sources).2
      ∧ (one.importStruck target strikes uid sources).1.SameWrites
        (other.importStruck target ticks uid sources).1 := by
  induction sources generalizing one other target strikes ticks uid with
  | nil => exact ⟨rfl, same.await strikes ticks⟩
  | cons source rest ih =>
      simp only [Index.importStruck]
      cases source.content with
      | error fault =>
          obtain ⟨report, last⟩ := ih same target strikes ticks uid
          exact ⟨by simp only [report], last⟩
      | ok content =>
          have awaited := same.await strikes ticks
          rcases awaited.add target.mailbox (target.message uid content) with
            ⟨cause, refused, also⟩ | ⟨next, later, added, also, kept⟩
          · obtain ⟨report, last⟩ := ih awaited (target.after content) strikes.later ticks.later (nextUid uid)
            simp only [refused, also]
            exact ⟨by rw [report], last⟩
          · obtain ⟨report, last⟩ := ih kept (target.after content) strikes.later ticks.later (nextUid uid)
            simp only [added, also]
            exact ⟨by rw [report], last⟩

/-- When both are closed, both show the same entries. -/
theorem committed_close (same : one.SameWrites other) (isOpen : one.isOpen = true) :
    other.close.committed = one.close.committed := by
  have otherOpen : other.isOpen = true := same.isOpen.trans isOpen
  rw [close, close, if_pos isOpen, if_pos otherOpen]
  exact (committed_commitPending same.otherClean).trans (same.written.trans (committed_commitPending same.clean).symm)

end SameWrites

/-- Indexes that were opened with the same entries hold the same writes. -/
theorem sameWrites_ofSnapshot (config : Config) (interval : Option Nat) (decoder : Mime.Decoder)
    (snapshot : Snapshot) :
    (ofSnapshot config decoder snapshot).SameWrites (ofSnapshot (config.withInterval interval) decoder snapshot) :=
  ⟨⟨interval, rfl⟩, rfl, rfl, rfl, fun _ => rfl, fun _ => rfl⟩

/-- On an index without pending writes the clock has nothing to commit. -/
theorem await_ofSnapshot (config : Config) (decoder : Mime.Decoder) (snapshot : Snapshot) (strikes : Strikes) :
    (ofSnapshot config decoder snapshot).await strikes = ofSnapshot config decoder snapshot := by
  have clean : (ofSnapshot config decoder snapshot).commitPending = ofSnapshot config decoder snapshot := rfl
  unfold await requestCommit
  split_ifs
  · exact clean
  · rfl
  · rfl

end Index

/-! ## Commands while the clock strikes -/

/-- Whether a command adds messages. -/
def CommandLine.Command.isImport : CommandLine.Command → Bool
  | .append .. | .importArchive .. => true
  | _ => false

namespace Program

open CommandLine

/-- The output for an import. -/
def reported (done : Index × ImportReport) : Index × Except Failure String :=
  (done.1, .ok (jsonOutput done.2.toJson))

/-- The answer of a command after which the clock may strike. -/
def awaited (strikes : Strikes) (done : Index × Except Failure String) : Index × Except Failure String :=
  (done.1.await strikes.later, done.2)

/-- Carries out a command while the clock strikes. -/
def executeStruck (files : FileTree) (clock : Clock) (strikes : Strikes) (index : Index) :
    Command → Index × Except Failure String
  | .append mailbox first flags paths =>
    let target : ImportTarget := ⟨.named mailbox, flagsNamed flags, clock⟩
    let index := index.await strikes
    reported (index.importStruck target strikes.later (first.getD (index.firstFreeUid target.mailbox))
      (paths.map fun path => .file path (files.read path)))
  | .importArchive mailbox flags path =>
    let target : ImportTarget := ⟨.named mailbox, flagsNamed flags, clock⟩
    let index := index.await strikes
    match files.read path with
    | .ok archive =>
      reported (index.importStruck target strikes.later (index.firstFreeUid target.mailbox)
        ((Archive.entries archive).map .entry))
    | .error .isADirectory => (index, .error (.archive path .cannotBeMapped))
    | .error fault => (index, .error (.file fault))
  | command => awaited strikes (execute files clock (index.await strikes) command)

/-- Two answers are the same, and they come with the same writes. -/
def EndAlike (one other : Index × Except Failure String) : Prop :=
  one.2 = other.2 ∧ one.1.SameWrites other.1

theorem EndAlike.awaited {one other : Index × Except Failure String} (alike : EndAlike one other)
    (strikes ticks : Strikes) : EndAlike (Program.awaited strikes one) (Program.awaited ticks other) :=
  ⟨alike.1, alike.2.await strikes.later ticks.later⟩

/-- Imports into two indexes with the same writes end alike. -/
theorem endAlike_reported {one other : Index} (same : one.SameWrites other) (target : ImportTarget)
    (strikes ticks : Strikes) (uid : Uid) (sources : List ImportSource) :
    EndAlike (reported (one.importStruck target strikes uid sources))
      (reported (other.importStruck target ticks uid sources)) := by
  obtain ⟨report, last⟩ := same.importStruck target strikes ticks uid sources
  exact ⟨by rw [reported, reported, report], last⟩

section

variable (files : FileTree) (clock : Clock) (config : Config) (interval : Option Nat) (decoder : Mime.Decoder)
  (snapshot : Snapshot)

/-- A search, an update, a removal and a count end alike on indexes that were opened with the same entries. -/
theorem execute_ofSnapshot (command : Command) (plain : command.isImport = false) :
    EndAlike (execute files clock (.ofSnapshot config decoder snapshot) command)
      (execute files clock (.ofSnapshot (config.withInterval interval) decoder snapshot) command) := by
  have same := Index.sameWrites_ofSnapshot config interval decoder snapshot
  cases command with
  | append mailbox first flags paths => contradiction
  | importArchive mailbox flags path => contradiction
  | search mailbox text =>
      have found : ∀ criterion, (Index.ofSnapshot (config.withInterval interval) decoder snapshot).search
          (.named mailbox) criterion = (Index.ofSnapshot config decoder snapshot).search (.named mailbox) criterion :=
        fun _ => rfl
      simp only [execute, found]
      split
      · exact ⟨rfl, same⟩
      · split
        · exact ⟨rfl, same⟩
        · exact ⟨rfl, same⟩
  | setFlags mailbox one other flags =>
      simp only [execute, Index.update_eq]
      exact ⟨rfl, same.commitPending.symm.commitPending.symm.afterWrite _⟩
  | expunge mailbox one other =>
      simp only [execute, Index.delete_eq]
      exact ⟨rfl, same.afterWrite _⟩
  | statistics => exact ⟨rfl, same⟩

/-- Each command ends alike on indexes that were opened with the same entries, whenever the clocks strike. -/
theorem executeStruck_ofSnapshot (strikes ticks : Strikes) (command : Command) :
    EndAlike (executeStruck files clock strikes (.ofSnapshot config decoder snapshot) command)
      (executeStruck files clock ticks (.ofSnapshot (config.withInterval interval) decoder snapshot) command) := by
  have same := Index.sameWrites_ofSnapshot config interval decoder snapshot
  have free : (Index.ofSnapshot (config.withInterval interval) decoder snapshot).firstFreeUid
      = (Index.ofSnapshot config decoder snapshot).firstFreeUid := rfl
  have plain (plain : command.isImport = false) :=
    (execute_ofSnapshot files clock config interval decoder snapshot command plain).awaited strikes ticks
  cases command with
  | append mailbox first flags paths =>
      simp only [executeStruck, Index.await_ofSnapshot, free]
      exact endAlike_reported same _ strikes.later ticks.later _ _
  | importArchive mailbox flags path =>
      simp only [executeStruck, Index.await_ofSnapshot, free]
      split
      · exact endAlike_reported same _ strikes.later ticks.later _ _
      · exact ⟨rfl, same⟩
      · exact ⟨rfl, same⟩
  | _ =>
      simp only [executeStruck, Index.await_ofSnapshot]
      exact plain rfl

end

end Program

/-! ## Opening and closing -/

namespace Config

variable {config : Config} {interval : Option Nat}

/-- No interval is zero. -/
theorem validate_of_zero (zero : config.commitInterval = some 0) (files : FileTree) :
    ∃ cause, config.validate files = .error cause := by
  obtain ⟨cause, refused⟩ : ∃ cause, config.validateNumbers = .error cause := by
    unfold validateNumbers
    split_ifs
    all_goals exact ⟨_, rfl⟩
  exact ⟨cause, by rw [validate, refused]⟩

/-- One interval is as valid as another, but for zero. -/
theorem validate_withInterval (proper : config.commitInterval ≠ some 0) (valid : interval ≠ some 0)
    (files : FileTree) : (config.withInterval interval).validate files = config.validate files := by
  have numbers : (config.withInterval interval).validateNumbers = config.validateNumbers := by
    simp [validateNumbers, withInterval, proper, valid]
  rw [validate, validate, numbers]
  rfl

end Config

namespace Disk

variable {config : Config} {interval : Option Nat}

/-- Both configurations open the same entries in the same place, or neither opens an index. -/
theorem openIndex_withInterval (proper : config.commitInterval ≠ some 0) (valid : interval ≠ some 0) (disk : Disk)
    (decoder : Mime.Decoder) :
    (∃ next cause, disk.openIndex config decoder = (next, .error cause)
        ∧ disk.openIndex (config.withInterval interval) decoder = (next, .error cause))
      ∨ ∃ next entries place, disk.openIndex config decoder = (next, .ok ⟨.ofSnapshot config decoder entries, place⟩)
        ∧ disk.openIndex (config.withInterval interval) decoder
          = (next, .ok ⟨.ofSnapshot (config.withInterval interval) decoder entries, place⟩) := by
  have directory : (config.withInterval interval).directory = config.directory := rfl
  have writer : ∀ (disk : Disk) (place : Option Place),
      disk.requireWriter (config.withInterval interval) place = disk.requireWriter config place := fun _ _ => rfl
  unfold openIndex
  rw [Config.validate_withInterval proper valid, directory]
  split
  · exact Or.inl ⟨_, _, rfl, rfl⟩
  · simp only [openInMemory, writer]
    split
    · exact Or.inl ⟨_, _, rfl, rfl⟩
    · exact Or.inr ⟨_, _, _, rfl, rfl⟩
  · simp only [openInDirectory, writer]
    split
    · exact Or.inl ⟨_, _, rfl, rfl⟩
    · split
      · exact Or.inl ⟨_, _, rfl, rfl⟩
      · split
        · exact Or.inl ⟨_, _, rfl, rfl⟩
        · exact Or.inr ⟨_, _, _, rfl, rfl⟩

/-- A directory keeps the writes of the index that is closed, however they were committed. -/
theorem closeIndex_sameWrites {one other : Index} (same : one.SameWrites other) (disk : Disk) (place : Option Place) :
    (disk.closeIndex ⟨one, place⟩).1 = (disk.closeIndex ⟨other, place⟩).1 := by
  unfold closeIndex
  simp only [same.isOpen]
  split
  · next isOpen =>
    cases place with
    | none => rfl
    | some place => simp only [same.committed_close isOpen]
  · rfl

end Disk

/-! ## Runs -/

namespace Program

open CommandLine

section

variable (decoder : Mime.Decoder) (disk : Disk) (clock : Clock)

/-- Opens the index, carries out the command while the clock strikes, and closes the index. -/
def runSettingsStruck (strikes : Strikes) (settings : Settings) : Disk × Outcome :=
  match disk.openIndex settings.config decoder with
  | (disk, .error cause) => (disk, .failed cause)
  | (disk, .ok opened) =>
    let (index, result) := executeStruck disk.files clock strikes opened.index settings.command
    let (closed, _) := disk.closeIndex { opened with index }
    match result with
    | .ok output => (closed, .done output)
    | .error cause => (closed, .failed cause)

/-- Runs whose settings differ in nothing but the commit interval end alike and leave the same disk. -/
theorem runSettingsStruck_withInterval (strikes ticks : Strikes) {settings : Settings} {interval : Option Nat}
    (proper : settings.commitInterval ≠ some 0) (valid : interval ≠ some 0) :
    runSettingsStruck decoder disk clock strikes settings
      = runSettingsStruck decoder disk clock ticks { settings with commitInterval := interval } := by
  have config : ({ settings with commitInterval := interval } : Settings).config
      = settings.config.withInterval interval := rfl
  unfold runSettingsStruck
  rw [config]
  have properConfig : settings.config.commitInterval ≠ some 0 := proper
  rcases disk.openIndex_withInterval properConfig valid decoder with
    ⟨next, cause, refused, also⟩ | ⟨next, entries, place, opened, also⟩
  · rw [refused, also]
  · obtain ⟨answer, last⟩ := executeStruck_ofSnapshot next.files clock settings.config interval decoder entries
      strikes ticks settings.command
    rw [opened, also]
    simp only [answer, next.closeIndex_sameWrites last]

/-- Runs with alike settings end alike. If the interval is zero no index is opened. -/
theorem runSettingsStruck_alike (strikes ticks : Strikes) {one other : Settings} (alike : one.Alike other) :
    runSettingsStruck decoder disk clock strikes one = runSettingsStruck decoder disk clock ticks other := by
  obtain ⟨interval, rfl, rfl | ⟨proper, valid⟩⟩ := alike
  · by_cases zero : one.commitInterval = some 0
    · obtain ⟨cause, refused⟩ := Config.validate_of_zero (show one.config.commitInterval = some 0 from zero) disk.files
      have closed : disk.openIndex one.config decoder = (disk, .error cause) := by
        rw [Disk.openIndex, refused]
      unfold runSettingsStruck
      simp only [closed]
    · exact runSettingsStruck_withInterval decoder disk clock strikes ticks zero zero
  · exact runSettingsStruck_withInterval decoder disk clock strikes ticks proper valid

end

/-- An outcome without the page that explains the program: the page shows the environment. -/
def Outcome.withoutPage : Outcome → Outcome
  | usage fault _ => usage fault ""
  | outcome => outcome

end Program

/-- One start of the program, and its clock. -/
structure Invocation where
  surroundings : Program.Surroundings
  arguments : List String
  strikes : Strikes

namespace Invocation

open CommandLine Program

/-- What an invocation asks for on the files that it finds, or why it is refused. -/
def settings (files : FileTree) (invocation : Invocation) : Except UsageFault Settings :=
  readSettings files invocation.surroundings.environment invocation.arguments

/-- Two invocations whose clocks show the same, and that differ at most in valid commit intervals on some files. -/
structure SameButInterval (files : FileTree) (one other : Invocation) : Prop where
  clock : one.surroundings.clock = other.surroundings.clock
  /-- Both ask for the same but for the interval, or both are refused for the same reason. -/
  settings : ReadAlike Settings.Alike (one.settings files) (other.settings files)

section

variable (decoder : Mime.Decoder)

/-- Runs the program while its clock strikes. -/
def run (disk : Disk) (invocation : Invocation) : Disk × Outcome :=
  match invocation.settings disk.files with
  | .error fault => (disk, .usage fault (requestedText invocation.surroundings.environment fault))
  | .ok settings =>
    match prepareLog disk settings with
    | (disk, .error cause) => (disk, .failed cause)
    | (disk, .ok ()) => runSettingsStruck decoder disk invocation.surroundings.clock invocation.strikes settings

/-- Two such invocations leave the same disk and end alike, but for the page that one may have asked for. -/
theorem SameButInterval.run {disk : Disk} {one other : Invocation} (same : SameButInterval disk.files one other) :
    (one.run decoder disk).1 = (other.run decoder disk).1
      ∧ (one.run decoder disk).2.withoutPage = (other.run decoder disk).2.withoutPage := by
  obtain ⟨clock, settings⟩ := same
  unfold Invocation.run
  generalize one.settings disk.files = first at settings
  generalize other.settings disk.files = second at settings
  cases settings with
  | refused fault =>
      -- the pages are not compared: they would be written out
      simp only [Outcome.withoutPage, and_self]
  | @read asked wanted alike =>
      have log : prepareLog disk wanted = prepareLog disk asked := by
        obtain ⟨interval, rfl, -⟩ := alike
        rfl
      simp only [log, clock]
      split
      · exact ⟨rfl, rfl⟩
      · rw [runSettingsStruck_alike decoder _ _ one.strikes other.strikes alike]
        exact ⟨rfl, rfl⟩

namespace SameButIntervals

variable {decoder} {disk : Disk} {ones others : List Invocation}

end SameButIntervals

end

/-- A tree with one letter and an archive of two. -/
def letters : FileTree :=
  ⟨[], [(["a"], .file "Subject: a\n\nhello".toUTF8.toList),
    (["m"], .file "From a\nSubject: b\n\nhi\nFrom b\n\nho\n".toUTF8.toList)]⟩

/-- An invocation on an index in the directory `d`. The clock goes on by a second with each reading. -/
def inDirectory (options words : List String) (strikes : Strikes) : Invocation :=
  ⟨⟨[], fun reading => (Instant.of? reading 0).getD .epoch⟩, ["--mailsearch-index-dir", "d"] ++ options ++ words,
    strikes⟩

end Invocation

end Letterbox
