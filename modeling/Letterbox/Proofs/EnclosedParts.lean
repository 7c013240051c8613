import Letterbox.Mime.Event
import Mathlib

/-!
# Parts of enclosed messages

A part of a message may be a message of its own, whose parts may be messages again. Main statement: the body events
of a message are told, in the order of the document, by the leaves with text that lie in at most ten enclosed
messages, one event by each, and by nothing else; header events are those of the outermost message.
-/

namespace Letterbox.Mime

/-! ## Paths to parts -/

/--
A part is found in another one by a path: the places of the messages in one another that lead to it, and then its
own. The path to a part itself is empty.
-/
inductive Part.Holds : Part → List Nat → Part → Prop
  | here (part : Part) : Holds part [] part
  | inside {parts : List Part} {place : Nat} {next found : Part} {path : List Nat} :
      parts[place]? = some next → Holds next path found → Holds (.message parts) (place :: path) found

/-- The event that a leaf tells: texts in UTF-8, and other bytes as they are where they are called text. -/
inductive Part.Tells : Part → BodyPart → Prop
  | text (type : Option ContentType) (letters : List Char) :
      Tells (.leaf type (.text letters))
        ⟨(mediaOf type).1, (mediaOf type).2.1, some "utf-8", letters.flatMap Text.Utf8.encodeLetter⟩
  | html (type : Option ContentType) (letters : List Char) :
      Tells (.leaf type (.html letters)) ⟨"text", "html", some "utf-8", letters.flatMap Text.Utf8.encodeLetter⟩
  | binary {type : Option ContentType} (bytes : Bytes) : (mediaOf type).1 = "text" →
      Tells (.leaf type (.binary bytes)) ⟨"text", (mediaOf type).2.1, (mediaOf type).2.2, bytes⟩

/-- An event is told by the part at a path. -/
def Part.TellsAt (part : Part) (path : List Nat) (event : BodyPart) : Prop :=
  ∃ found, part.Holds path found ∧ found.Tells event

/-- An event is told by the part at a path into parts whose places begin at `start`. -/
def TellsFrom (start : Nat) (parts : List Part) (path : List Nat) (event : BodyPart) : Prop :=
  ∃ offset next rest, parts[offset]? = some next ∧ path = (start + offset) :: rest ∧ next.TellsAt rest event

/-- Events are listed with their paths: every path up to a length at which an event is told, once and in order. -/
structure IsListing (tells : List Nat → BodyPart → Prop) (length : Nat) (paths : List (List Nat))
    (events : List BodyPart) : Prop where
  ordered : paths.Pairwise (· < ·)
  mem_iff : ∀ path, path ∈ paths ↔ path.length ≤ length ∧ ∃ event, tells path event
  told : List.Forall₂ tells paths events

variable {part : Part} {parts : List Part} {type : Option ContentType} {content : Content} {path : List Nat}
  {event : BodyPart} {start length : Nat}

theorem Part.tellsAt_nil : part.TellsAt [] event ↔ part.Tells event := by
  constructor
  · rintro ⟨found, holds, tells⟩
    cases holds
    exact tells
  · intro tells
    exact ⟨part, .here part, tells⟩

/-- Nothing lies in a leaf but the leaf. -/
theorem Part.tellsAt_leaf : (leaf type content).TellsAt path event ↔ path = [] ∧ (leaf type content).Tells event := by
  constructor
  · rintro ⟨found, holds, tells⟩
    cases holds
    exact ⟨rfl, tells⟩
  · rintro ⟨rfl, tells⟩
    exact tellsAt_nil.mpr tells

/-- What a message tells is told by its parts. -/
theorem Part.tellsAt_message : (message parts).TellsAt path event ↔ TellsFrom 0 parts path event := by
  constructor
  · rintro ⟨found, holds, tells⟩
    cases holds with
    | here => cases tells
    | @inside _ place next _ rest listed holds =>
        exact ⟨place, next, rest, listed, by rw [Nat.zero_add], found, holds, tells⟩
  · rintro ⟨offset, next, rest, listed, rfl, found, holds, tells⟩
    rw [Nat.zero_add]
    exact ⟨found, .inside listed holds, tells⟩

theorem not_tellsFrom_nil : ¬ TellsFrom start [] path event := by
  rintro ⟨offset, next, rest, listed, -⟩
  simp at listed

/-- The first of some parts tells what its place starts, and the others what later places start. -/
theorem tellsFrom_cons :
    TellsFrom start (part :: parts) path event
      ↔ (∃ rest, path = start :: rest ∧ part.TellsAt rest event) ∨ TellsFrom (start + 1) parts path event := by
  constructor
  · rintro ⟨offset, next, rest, listed, rfl, told⟩
    cases offset with
    | zero =>
        obtain rfl : part = next := by simpa using listed
        exact Or.inl ⟨rest, rfl, told⟩
    | succ offset =>
        rw [List.getElem?_cons_succ] at listed
        exact Or.inr ⟨offset, next, rest, listed, by rw [Nat.add_right_comm, Nat.add_assoc], told⟩
  · rintro (⟨rest, rfl, told⟩ | ⟨offset, next, rest, listed, rfl, told⟩)
    · exact ⟨0, part, rest, rfl, rfl, told⟩
    · exact ⟨offset + 1, next, rest, listed, by rw [Nat.add_right_comm, Nat.add_assoc], told⟩

/-- Parts are told of at their own places. -/
theorem TellsFrom.exists_place (tells : TellsFrom start parts path event) :
    ∃ place rest, path = place :: rest ∧ start ≤ place := by
  obtain ⟨offset, next, rest, -, rfl, -⟩ := tells
  exact ⟨start + offset, rest, rfl, Nat.le_add_right _ _⟩

theorem Part.Holds.unique {found other : Part} (one : part.Holds path found) (two : part.Holds path other) :
    found = other := by
  induction one with
  | here part =>
      cases two
      rfl
  | inside listed _ ih =>
      cases two with
      | inside again holds =>
          obtain rfl := Option.some.inj (listed.symm.trans again)
          exact ih holds

theorem Part.Tells.unique {other : BodyPart} (one : part.Tells event) (two : part.Tells other) : event = other := by
  cases one <;> cases two <;> rfl

/-- At most one event is told at a path. -/
theorem Part.tellsAt_unique : Relator.RightUnique part.TellsAt := by
  rintro path event other ⟨found, holds, tells⟩ ⟨again, same, told⟩
  obtain rfl := holds.unique same
  exact tells.unique told

/-! ## Listings -/

namespace IsListing

theorem nothing {tells : List Nat → BodyPart → Prop}
    (silent : ∀ path event, path.length ≤ length → ¬ tells path event) :
    IsListing tells length [] [] where
  ordered := .nil
  mem_iff := fun path => by
    refine iff_of_false List.not_mem_nil ?_
    rintro ⟨short, event, told⟩
    exact silent path event short told
  told := .nil

/-- A leaf lists the events that it tells, of which there is at most one. -/
theorem leaf (tells : Part.Tells (.leaf type content) event) :
    IsListing (Part.TellsAt (.leaf type content)) length [[]] [event] where
  ordered := List.pairwise_singleton _ _
  mem_iff := fun path => by
    rw [List.mem_singleton]
    constructor
    · rintro rfl
      exact ⟨Nat.zero_le _, event, Part.tellsAt_nil.mpr tells⟩
    · rintro ⟨-, other, told⟩
      exact (Part.tellsAt_leaf.mp told).1
  told := .cons (Part.tellsAt_nil.mpr tells) .nil

/-- The listing of a part, behind its place, goes before that of the parts that follow. -/
theorem cons {paths others : List (List Nat)} {events more : List BodyPart}
    (own : IsListing part.TellsAt length paths events)
    (later : IsListing (TellsFrom (start + 1) parts) (length + 1) others more) :
    IsListing (TellsFrom start (part :: parts)) (length + 1) (paths.map (start :: ·) ++ others) (events ++ more) where
  ordered := by
    refine List.pairwise_append.mpr ⟨?_, later.ordered, ?_⟩
    · rw [List.pairwise_map]
      exact own.ordered.imp fun less => List.Lex.cons less
    · intro one mine other theirs
      obtain ⟨path, -, rfl⟩ := List.mem_map.mp mine
      obtain ⟨-, event, told⟩ := (later.mem_iff other).mp theirs
      obtain ⟨place, rest, rfl, after⟩ := told.exists_place
      exact List.Lex.rel (Nat.lt_of_succ_le after)
  mem_iff := fun path => by
    rw [List.mem_append, List.mem_map, later.mem_iff]
    simp only [tellsFrom_cons, exists_or, and_or_left]
    refine or_congr_left ?_
    constructor
    · rintro ⟨rest, listed, rfl⟩
      obtain ⟨short, event, told⟩ := (own.mem_iff rest).mp listed
      exact ⟨Nat.succ_le_succ short, event, rest, rfl, told⟩
    · rintro ⟨short, event, rest, rfl, told⟩
      exact ⟨rest, (own.mem_iff rest).mpr ⟨Nat.le_of_succ_le_succ short, event, told⟩, rfl⟩
  told := by
    refine List.rel_append ?_ ?_
    · rw [List.forall₂_map_left_iff]
      exact own.told.imp fun path event told => tellsFrom_cons.mpr (Or.inl ⟨path, rfl, told⟩)
    · exact later.told.imp fun path event told => tellsFrom_cons.mpr (Or.inr told)

/-- There is one listing of what is told. -/
theorem unique {tells : List Nat → BodyPart → Prop} {paths others : List (List Nat)} {events more : List BodyPart}
    (single : Relator.RightUnique tells) (one : IsListing tells length paths events)
    (two : IsListing tells length others more) : events = more := by
  have strict : ∀ {paths : List (List Nat)}, paths.Pairwise (· < ·) → paths.Nodup := fun ordered =>
    ordered.imp fun less => ne_of_lt less
  have perm : paths.Perm others := (List.perm_ext_iff_of_nodup (strict one.ordered) (strict two.ordered)).mpr
    fun path => (one.mem_iff path).trans (two.mem_iff path).symm
  obtain rfl : paths = others := perm.eq_of_pairwise
    (fun first second _ _ less more => absurd more (lt_asymm less)) one.ordered two.ordered
  exact single.forall₂ one.told two.told

end IsListing

/-! ## Events -/

theorem decoderOf_of_read {α : Type} {field : α → HeaderField} {read : Bytes → Option (List α × List Part)}
    {message : Bytes} {headers : List α} (found : read message = some (headers, parts)) :
    decoderOf field read message
      = .ok (headers.map (fun header => .header (field header))
        ++ (eventsOfParts messageDepth parts).map Event.body) := by
  rw [decoderOf, found]

theorem Content.exists_listing (type : Option ContentType) (content : Content) (length : Nat) :
    ∃ paths, IsListing (Part.TellsAt (.leaf type content)) length paths (content.events type) := by
  cases content with
  | text letters => exact ⟨[[]], .leaf (.text type letters)⟩
  | html letters => exact ⟨[[]], .leaf (.html type letters)⟩
  | binary bytes =>
      by_cases isText : (mediaOf type).1 = "text"
      · have told : Content.events type (.binary bytes)
            = [⟨"text", (mediaOf type).2.1, (mediaOf type).2.2, bytes⟩] := by
          simp only [Content.events, isText, if_true]
        rw [told]
        exact ⟨[[]], .leaf (.binary bytes isText)⟩
      · have silent : Content.events type (.binary bytes) = [] := by
          simp only [Content.events, isText, if_false]
        rw [silent]
        refine ⟨[], .nothing fun path event _ told => ?_⟩
        obtain ⟨-, tells⟩ := Part.tellsAt_leaf.mp told
        cases tells
        exact isText ‹_›

mutual

/-- What a part tells down to a depth is listed with the paths up to that length. -/
theorem Part.exists_listing : ∀ (part : Part) (depth : Nat),
    ∃ paths, IsListing part.TellsAt depth paths (part.events depth)
  | .leaf type content, depth => by
      rw [Part.events]
      exact content.exists_listing type depth
  | .container, depth => by
      rw [Part.events]
      refine ⟨[], .nothing fun path event _ ⟨found, holds, tells⟩ => ?_⟩
      cases holds
      cases tells
  | .message parts, 0 => by
      -- the only path of no length leads to the message, which is no leaf
      rw [Part.events]
      refine ⟨[], .nothing fun path event short told => ?_⟩
      obtain rfl := List.eq_nil_of_length_eq_zero (Nat.le_zero.mp short)
      cases Part.tellsAt_nil.mp told
  | .message parts, depth + 1 => by
      rw [Part.events]
      obtain ⟨paths, listing⟩ := exists_listing_parts parts depth 0
      have same : Part.TellsAt (.message parts) = TellsFrom 0 parts :=
        funext fun path => funext fun event => propext Part.tellsAt_message
      exact ⟨paths, same ▸ listing⟩

/-- What parts tell is listed with the paths that their places start. -/
theorem exists_listing_parts : ∀ (parts : List Part) (depth start : Nat),
    ∃ paths, IsListing (TellsFrom start parts) (depth + 1) paths (eventsOfParts depth parts)
  | [], depth, start => by
      rw [eventsOfParts]
      exact ⟨[], .nothing fun path event _ => not_tellsFrom_nil⟩
  | part :: rest, depth, start => by
      rw [eventsOfParts]
      obtain ⟨paths, own⟩ := part.exists_listing depth
      obtain ⟨others, later⟩ := exists_listing_parts rest depth (start + 1)
      exact ⟨paths.map (start :: ·) ++ others, own.cons later⟩

end

/--
The body events of a message are those that its parts tell at paths of at most eleven places, which lead through at
most ten enclosed messages, in the order of the paths. However the message is read, header events stand before them,
one for each of its own headers in turn, and there are no others.
-/
theorem events_exact (parts : List Part) :
    (∀ events, events = eventsOfParts messageDepth parts
        ↔ ∃ paths, IsListing (Part.TellsAt (.message parts)) 11 paths events)
      ∧ (∀ {α : Type} (field : α → HeaderField) (read : Bytes → Option (List α × List Part)) message headers,
          read message = some (headers, parts) →
          decoderOf field read message
            = .ok (headers.map (fun header => .header (field header))
              ++ (eventsOfParts messageDepth parts).map Event.body))
      ∧ ∀ message headers, readMessage? message = some (headers, parts) →
          readEvents message
            = .ok (headers.map (Event.header ·.field) ++ (eventsOfParts messageDepth parts).map Event.body) := by
  obtain ⟨paths, listing⟩ := (Part.message parts).exists_listing 11
  have same : (Part.message parts).events 11 = eventsOfParts messageDepth parts := by rw [Part.events]; rfl
  rw [same] at listing
  refine ⟨fun events => ⟨?_, ?_⟩, fun field read message headers found => decoderOf_of_read found,
    fun message headers found => decoderOf_of_read found⟩
  · rintro rfl
    exact ⟨paths, listing⟩
  · rintro ⟨others, other⟩
    exact other.unique Part.tellsAt_unique listing

/-- A letter that was forwarded as a part of another one. -/
def forwardedLetter : Bytes :=
  Text.Utf8.encode "Subject: outer\nContent-Type: message/rfc822\n\nSubject: inner\n\nhello"

/-- The parts of the forwarding letter. -/
def forwardedParts : List Part :=
  [.message [.leaf none (.text ['h', 'e', 'l', 'l', 'o'])]]

/-- The text of the enclosed letter is told, and its subject is not. -/
theorem events_exact_forwarded :
    ∃ headers, readMessage? forwardedLetter = some (headers, forwardedParts)
      ∧ readEvents forwardedLetter = .ok [.header ⟨"Subject", "outer", none⟩,
          .header ⟨"Content-Type", "message/rfc822", none⟩,
          .body ⟨"text", "plain", some "utf-8", Text.Utf8.encode "hello"⟩] := by
  have read : readMessage? forwardedLetter
      = some (((readMessage? forwardedLetter).map (·.1)).getD [], forwardedParts) := by cbv
  refine ⟨_, read, ?_⟩
  rw [(events_exact forwardedParts).2.2 _ _ read]
  decide +kernel

example :
    let letter : List Part := [.leaf none (.text ['x'])]
    let enclosed (depth : Nat) : List Part := (fun parts => [.message parts])^[depth] letter
    eventsOfParts messageDepth (enclosed 10) = eventsOfParts messageDepth letter
      ∧ eventsOfParts messageDepth (enclosed 11) = [] := by decide

end Letterbox.Mime
