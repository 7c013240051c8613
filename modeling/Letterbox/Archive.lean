import Letterbox.Mailbox

/-!
# Mail archives

An archive is a file of messages, each behind a line that starts with "From ". The entries of an archive
lie between such lines; what stands before the first one is an entry, too.
-/

namespace Letterbox.Archive

/-- The start of a separator line. -/
def separatorStart : Bytes := [0x46, 0x72, 0x6F, 0x6D, 0x20]

/-- Whether a line separates messages. -/
def isSeparator (line : Bytes) : Bool :=
  separatorStart.isPrefixOf line

/-- The lines of a text, each with its line feed. -/
def lines : Bytes → List Bytes
  | [] => []
  | byte :: rest =>
    if byte = 0x0A then [byte] :: lines rest
    else
      match lines rest with
      | [] => [[byte]]
      | line :: later => (byte :: line) :: later

/-- A stretch of an archive: its first line and the lines up to the next separator. -/
structure Stretch where
  offset : Nat
  opening : Bytes
  body : List Bytes
deriving DecidableEq, Repr

namespace Stretch

/-- The bytes behind the first line. -/
def rest (stretch : Stretch) : Bytes :=
  stretch.body.flatten

/-- All bytes. -/
def bytes (stretch : Stretch) : Bytes :=
  stretch.opening ++ stretch.rest

end Stretch

/-- The stretches of lines that start at an offset. Every separator opens a stretch. -/
def stretches (offset : Nat) : List Bytes → List Stretch
  | [] => []
  | line :: rest =>
    let stretch : Stretch := ⟨offset, line, rest.takeWhile (! isSeparator ·)⟩
    stretch :: stretches (offset + stretch.bytes.length) (rest.dropWhile (! isSeparator ·))
termination_by lines => lines.length
decreasing_by exact Nat.lt_succ_of_le (List.dropWhile_sublist _).length_le

/-- An entry of an archive: where it starts, and its message. -/
structure Entry where
  offset : Nat
  message : Bytes
deriving DecidableEq, Repr

/-- The bytes that count as blank. -/
def isBlank (byte : UInt8) : Bool :=
  byte == 0x20 || byte == 0x09 || byte == 0x0A || byte == 0x0C || byte == 0x0D

/-- The entry of the last stretch. Without a separator line all of it is message, unless it is blank. -/
def entryOfLast? (stretch : Stretch) : Option Entry :=
  if isSeparator stretch.opening then some ⟨stretch.offset, stretch.rest⟩
  else if stretch.bytes.all isBlank then none
  else some ⟨stretch.offset, stretch.bytes⟩

/-- The entries of stretches. All but the last lose their first line, whatever it is. -/
def entriesOf : List Stretch → List Entry
  | [] => []
  | [last] => (entryOfLast? last).toList
  | stretch :: rest => ⟨stretch.offset, stretch.rest⟩ :: entriesOf rest

/-- The entries of an archive. -/
def entries (archive : Bytes) : List Entry :=
  entriesOf (stretches 0 (lines archive))

end Letterbox.Archive
