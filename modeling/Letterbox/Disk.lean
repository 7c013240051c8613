import Letterbox.Index
import Letterbox.Json.Reader
import Letterbox.Schema
import Letterbox.Text.Utf8

/-!
# Indexes on disk

The files a program sees and the indexes kept in their directories. A directory has one writer at a
time: an index holds it from its opening to its closing, when its entries are kept for the next one.
-/

namespace Letterbox

/-- An index at rest. -/
structure StoredIndex where
  schema : Schema
  entries : Snapshot

/-- The files and the indexes in their directories. -/
structure Disk where
  files : FileTree
  stored : List (Place × StoredIndex) := []
  /-- The directories whose indexes are open for writing. -/
  held : List Place := []

/-- An index that was opened, with its directory if it has one. -/
structure OpenIndex where
  index : Index
  place : Option Place

namespace Disk

/-- The file by which a directory is known to hold an index. -/
def markerName : String := "meta.json"

/-- The disk with an index at rest in a directory. -/
def store (disk : Disk) (place : Place) (stored : StoredIndex) : Disk :=
  { disk with stored := (place, stored) :: disk.stored.filter (·.1 ≠ place) }

/-- The file that lists the other files of an index. -/
def listName : String := ".managed.json"

/-- Whether the list of files in a directory can be read, if there is one. -/
def hasGoodList (disk : Disk) (place : Place) : Bool :=
  match disk.files.nodeAt? (place ++ [listName]) with
  | none => true
  | some .directory => false
  | some (.file content) =>
    match (Json.ofString? (Text.Utf8.decodeString content)).bind Json.items? with
    | none => false
    | some names => names.all fun name => name.text?.isSome

/-- The place of a directory that can hold an index. -/
def placeOf (disk : Disk) (directory : String) : Except Failure Place :=
  match disk.files.locate directory with
  | .ok place => if disk.hasGoodList place then .ok place else .error (.unreadableIndex directory)
  | .error _ => .error (.unreadableIndex directory)

/-- The disk and the place of a directory, which is made if it is missing. -/
def makeDirectory (disk : Disk) (directory : String) : Disk × Except Failure Place :=
  match disk.files.makeDirectories directory with
  | (files, .error fault) => ({ disk with files }, .error (.file fault))
  | (files, .ok ()) => ({ disk with files }, { disk with files }.placeOf directory)

/-- The entries of the index in a directory; a new index has none. -/
def entriesAt (disk : Disk) (directory : String) (place : Place) : Except Failure Snapshot :=
  match disk.stored.lookup place with
  | some stored =>
    match stored.schema.ensureCompatible with
    | .ok () => .ok stored.entries
    | .error failure => .error failure
  | none =>
    if (disk.files.nodeAt? (place ++ [markerName])).isSome then .error (.unreadableIndex directory)
    else .ok []

/-- A writer needs memory within bounds and a directory that no other writer holds. -/
def requireWriter (disk : Disk) (config : Config) (place : Option Place) : Except Failure Unit :=
  if place.any disk.held.contains then .error (.writerRefused "another writer holds the index")
  else if mostThreadMemory ≤ config.writerMemory / config.writerThreads then
    .error (.writerRefused "the memory of a thread is out of bounds")
  else .ok ()

/-- Opens an index in memory. -/
def openInMemory (disk : Disk) (config : Config) (decoder : Mime.Decoder) :
    Except Failure OpenIndex :=
  match disk.requireWriter config none with
  | .error failure => .error failure
  | .ok () => .ok ⟨.ofSnapshot config decoder [], none⟩

/-- Opens the index in a directory, or makes one there. The directory stays if that fails. -/
def openInDirectory (disk : Disk) (config : Config) (decoder : Mime.Decoder) (directory : String) :
    Disk × Except Failure OpenIndex :=
  match disk.makeDirectory directory with
  | (disk, .error failure) => (disk, .error failure)
  | (disk, .ok place) =>
    match disk.entriesAt directory place with
    | .error failure => (disk, .error failure)
    | .ok entries =>
      let disk := disk.store place ⟨.messages, entries⟩
      match disk.requireWriter config (some place) with
      | .error failure => (disk, .error failure)
      | .ok () =>
        ({ disk with held := place :: disk.held },
          .ok ⟨.ofSnapshot config decoder entries, some place⟩)

/-- Opens the index of a configuration. -/
def openIndex (disk : Disk) (config : Config) (decoder : Mime.Decoder) :
    Disk × Except Failure OpenIndex :=
  match config.validate disk.files, config.directory with
  | .error failure, _ => (disk, .error failure)
  | .ok (), none => (disk, disk.openInMemory config decoder)
  | .ok (), some directory => disk.openInDirectory config decoder directory

/-- Closes an index: its pending writes are committed, and its directory keeps them and is let go. -/
def closeIndex (disk : Disk) (opened : OpenIndex) : Disk × OpenIndex :=
  if opened.index.isOpen then
    let closed := opened.index.close
    match opened.place with
    | none => (disk, { opened with index := closed })
    | some place =>
      let disk := disk.store place ⟨.messages, closed.committed⟩
      ({ disk with held := disk.held.filter (· ≠ place) }, { opened with index := closed })
  else (disk, opened)

/-- Puts an index without entries but with fields of its own into a directory. -/
def plant (disk : Disk) (directory : String) (schema : Schema) : Except Failure Disk :=
  match disk.makeDirectory directory with
  | (_, .error failure) => .error failure
  | (disk, .ok place) => .ok (disk.store place ⟨schema, []⟩)

end Disk

end Letterbox
