import Letterbox.Program
import Letterbox.Proofs.FlagSearch

/-!
# Flags that texts name

A text names a system flag if it is the text of one up to the case of its letters, and else a keyword. So no text
names the keyword that is spelled like the token of a system flag. Main statement: a flag that a text names is
named by its own text, no two such flags share a token, and the index finds each of them among flags that texts
name only where it is.
-/

namespace Letterbox

open Text

namespace SystemFlag

theorem lowerAscii_text_inj {one other : SystemFlag} :
    lowerAscii one.text = lowerAscii other.text ↔ one = other := by
  cases one <;> cases other <;> decide

/-- The token of a flag is its text up to case. -/
theorem lowerAscii_token (flag : SystemFlag) : lowerAscii flag.token = lowerAscii flag.text := by
  cases flag <;> decide

theorem mem_all (flag : SystemFlag) : flag ∈ all := by
  cases flag <;> decide

end SystemFlag

namespace Flag

/-- A text names a system flag if it is its text up to case. -/
theorem ofText_eq_system_iff {text : String} {flag : SystemFlag} :
    ofText text = system flag ↔ lowerAscii flag.text = lowerAscii text := by
  unfold ofText
  constructor
  · intro named
    split at named
    · next found =>
      obtain rfl := Flag.system.inj named
      have same := List.find?_some found
      exact beq_iff_eq.mp same
    · exact Flag.noConfusion named
  · intro same
    split
    · next other found =>
      have alike := List.find?_some found
      rw [SystemFlag.lowerAscii_text_inj.mp ((beq_iff_eq.mp alike).trans same.symm)]
    · next none =>
      have differs := List.find?_eq_none.mp none flag flag.mem_all
      exact absurd (beq_iff_eq.mpr same) differs

/-- A text names no keyword but itself, and this one only if it names no system flag. -/
theorem ofText_eq_keyword_iff {text name : String} :
    ofText text = keyword name ↔ name = text ∧ ∀ flag : SystemFlag, lowerAscii flag.text ≠ lowerAscii text := by
  constructor
  · intro named
    refine ⟨?_, fun flag same => ?_⟩
    · unfold ofText at named
      split at named
      · exact Flag.noConfusion named
      · exact (Flag.keyword.inj named).symm
    · rw [ofText_eq_system_iff.mpr same] at named
      exact Flag.noConfusion named
  · rintro ⟨rfl, none⟩
    cases named : ofText name with
    | system flag => exact absurd (ofText_eq_system_iff.mp named) (none flag)
    | keyword other =>
        unfold ofText at named
        split at named
        · exact Flag.noConfusion named
        · exact named.symm

/-- The text of a flag that a text names, names the flag. -/
theorem ofText_text_ofText (text : String) : ofText (ofText text).text = ofText text := by
  cases named : ofText text with
  | system flag => exact ofText_eq_system_iff.mpr rfl
  | keyword name =>
      obtain ⟨rfl, -⟩ := ofText_eq_keyword_iff.mp named
      exact named

/-- The keyword that shares the token of a system flag is named by no text. -/
theorem ofText_ne_keyword_token (text : String) (flag : SystemFlag) : ofText text ≠ keyword flag.token := by
  intro named
  obtain ⟨rfl, none⟩ := ofText_eq_keyword_iff.mp named
  exact none flag flag.lowerAscii_token.symm

/-- Flags that texts name have one token only if they are the same. -/
theorem token_ofText_inj {one other : String} :
    (ofText one).token = (ofText other).token ↔ ofText one = ofText other := by
  rw [token_eq_iff, or_iff_left]
  intro twins
  cases first : ofText other with
  | system flag =>
      rw [first, twin?, Option.some.injEq] at twins
      exact ofText_ne_keyword_token one flag twins.symm
  | keyword name =>
      rw [first, twin?, Option.map_eq_some_iff] at twins
      obtain ⟨flag, found, -⟩ := twins
      rw [SystemFlag.find?_token] at found
      exact ofText_ne_keyword_token other flag (found ▸ first)

theorem ofText_text_system (flag : SystemFlag) : ofText (system flag).text = system flag :=
  ofText_eq_system_iff.mpr rfl

/-- No text names a flag that is mistaken for a system flag. -/
theorem token_ofText_eq_system_iff {text : String} {flag : SystemFlag} :
    (ofText text).token = (system flag).token ↔ ofText text = system flag := by
  rw [← ofText_text_system flag]
  exact token_ofText_inj

end Flag

theorem Flags.mem_ofList {flag : Flag} {flags : List Flag} : flag ∈ (ofList flags).toList ↔ flag ∈ flags := by
  have all : ∀ set : Flags, flag ∈ (flags.foldl insert set).toList ↔ flag ∈ set.toList ∨ flag ∈ flags := by
    induction flags with
    | nil => simp
    | cons head rest ih =>
        intro set
        rw [List.foldl_cons, ih, insert, Flag.mem_insertInto, List.mem_cons]
        tauto
  rw [ofList, all]
  simp [empty]

namespace Program

/-- Each flag of a command line is named by a text. -/
theorem exists_text_of_flagsNamed {texts : List String} {flag : Flag} (listed : flag ∈ (flagsNamed texts).toList) :
    ∃ text, Flag.ofText text = flag := by
  obtain ⟨letters, -, named⟩ := List.mem_map.mp (Flags.mem_ofList.mp listed)
  exact ⟨_, named⟩

/-- Of a document with the flags of a command line, the token of a flag that a text names is indexed for it only. -/
theorem mem_terms_flagsNamed_iff (analysis : Analysis) (mailbox : Mailbox) (uid : Uid) (texts : List String)
    (text : String) :
    (Flag.ofText text).token.toList ∈ (Document.flags ⟨mailbox, uid, flagsNamed texts⟩).terms analysis .flags
      ↔ Flag.ofText text ∈ (flagsNamed texts).toList ∧ isKept (Flag.ofText text).token.toList = true := by
  rw [Document.mem_terms]
  refine and_congr_left fun _ => ?_
  simp only [Document.values, Document.flagsValues, Flags.tokens, Analysis.termsOf, List.mem_singleton,
    List.mem_map, Value.text.injEq, String.toList_inj]
  constructor
  · rintro ⟨token, ⟨same, ⟨flag, listed, rfl⟩, rfl⟩, form⟩
    obtain ⟨other, rfl⟩ := exists_text_of_flagsNamed listed
    rwa [Flag.token_ofText_inj.mp form]
  · exact fun listed => ⟨_, ⟨_, ⟨_, listed, rfl⟩, rfl⟩, rfl⟩

/--
A flag that a text names is named by its own text, too, and so is each system flag. Flags that texts name have the
same token only if they are the same flag; none but a system flag has the token of a system flag. So, of a document
with the flags of a command line, the token of such a flag is indexed only if the flag is one of them, and that of a
system flag only if the system flag is.
-/
theorem ofText_token_exact :
    (∀ text, Flag.ofText (Flag.ofText text).text = Flag.ofText text)
      ∧ (∀ flag : SystemFlag, Flag.ofText (Flag.system flag).text = .system flag)
      ∧ (∀ one other, (Flag.ofText one).token = (Flag.ofText other).token ↔ Flag.ofText one = Flag.ofText other)
      ∧ (∀ text (flag : SystemFlag), (Flag.ofText text).token = (Flag.system flag).token
        ↔ Flag.ofText text = .system flag)
      ∧ ∀ (analysis : Analysis) (mailbox : Mailbox) (uid : Uid) (texts : List String),
        (∀ text, (Flag.ofText text).token.toList
              ∈ (Document.flags ⟨mailbox, uid, flagsNamed texts⟩).terms analysis .flags
            ↔ Flag.ofText text ∈ (flagsNamed texts).toList ∧ isKept (Flag.ofText text).token.toList = true)
          ∧ ∀ flag : SystemFlag, (Flag.system flag).token.toList
              ∈ (Document.flags ⟨mailbox, uid, flagsNamed texts⟩).terms analysis .flags
            ↔ Flag.system flag ∈ (flagsNamed texts).toList := by
  refine ⟨Flag.ofText_text_ofText, Flag.ofText_text_system, fun one other => Flag.token_ofText_inj,
    fun text flag => Flag.token_ofText_eq_system_iff, fun analysis mailbox uid texts => ⟨?_, fun flag => ?_⟩⟩
  · exact mem_terms_flagsNamed_iff analysis mailbox uid texts
  · have kept : isKept (Flag.system flag).token.toList = true := by
      cases flag <;> decide
    have indexed := mem_terms_flagsNamed_iff analysis mailbox uid texts (Flag.system flag).text
    rw [Flag.ofText_text_system] at indexed
    exact indexed.trans (and_iff_left kept)

end Program

end Letterbox
