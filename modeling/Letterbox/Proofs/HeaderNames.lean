import Letterbox.Entry
import Letterbox.Proofs.Sentences
import Letterbox.Proofs.Trimming

/-!
# Names of headers

A header is asked for by a name in any case, with blanks around it or not. Main statements: names that are
the same up to these have one scope, and the same role if the name of the header has no blanks around it; of
names without colons only the same ones have terms that start with one scope.
-/

namespace Letterbox

open Text

/-- Two names are the same up to the blanks around them and case. -/
def SameName (one other : String) : Prop :=
  lower (trim one.toList) = lower (trim other.toList)

instance (one other : String) : Decidable (SameName one other) :=
  inferInstanceAs (Decidable (lower (trim one.toList) = lower (trim other.toList)))

theorem SameName.headerScope_eq {one other : String} (same : SameName one other) :
    headerScope one.toList = headerScope other.toList := by
  rw [headerScope, headerScope, same]

/-- What stands before the first colon of a text. -/
def beforeColon (text : List Char) : List Char :=
  text.takeWhile (· ≠ ':')

theorem colon_not_mem_beforeColon (text : List Char) : ':' ∉ beforeColon text := by
  intro listed
  simpa using List.mem_takeWhile_imp listed

theorem forall_ne_colon {name : List Char} (plain : ':' ∉ name) :
    ∀ letter ∈ name, decide (letter ≠ ':') = true := by
  intro letter listed
  rw [decide_eq_true_iff]
  rintro rfl
  exact plain listed

theorem beforeColon_of_plain {name : List Char} (plain : ':' ∉ name) : beforeColon name = name :=
  List.takeWhile_eq_self_iff.mpr (forall_ne_colon plain)

theorem beforeColon_append (name value : List Char) : beforeColon (name ++ ':' :: value) = beforeColon name := by
  induction name with
  | nil => rfl
  | cons letter rest ih =>
      rw [List.cons_append, beforeColon, beforeColon, List.takeWhile_cons, List.takeWhile_cons]
      split
      · exact congrArg (letter :: ·) ih
      · rfl

theorem cutHeaderLine_fst (line : List Char) : (cutHeaderLine line).1 = beforeColon line := by
  unfold cutHeaderLine
  simp only
  split <;> rfl

/-- A header line is cut behind a name without colons. -/
theorem cutHeaderLine_of_plain {name : List Char} (plain : ':' ∉ name) (value : List Char) :
    cutHeaderLine (name ++ ':' :: value) = (name, ⟨byteSize name + ':'.utf8Size, value⟩) := by
  have first : (name ++ ':' :: value).takeWhile (· ≠ ':') = name :=
    (beforeColon_append name value).trans (beforeColon_of_plain plain)
  have second : (name ++ ':' :: value).dropWhile (· ≠ ':') = ':' :: value := by
    rw [List.dropWhile_append_of_pos (forall_ne_colon plain)]
    simp
  simp only [cutHeaderLine, first, second]

theorem colon_isSourceless : isSourceless ':'.toNat = true := by
  decide +kernel

/-- A name without colons has none in lower case. -/
theorem colon_not_mem_lower_trim {name : List Char} (plain : ':' ∉ name) : ':' ∉ lower (trim name) := by
  intro listed
  have kept := mem_of_mem_lowerAfter listed (by decide) colon_isSourceless (by decide)
  exact plain (mem_of_mem_trim kept)

/-- Only names without colons are the same as one without colons. -/
theorem SameName.plain {one other : String} (same : SameName one other) (plain : ':' ∉ other.toList) :
    ':' ∉ one.toList := by
  intro listed
  refine colon_not_mem_lower_trim plain ?_
  rw [← same]
  exact mem_lowerAfter_of_alone (fun _ _ => rfl) (mem_trim_of_dark (by decide) listed)

/-- Of names without colons, only the same ones have scopes of which one starts the other's terms. -/
theorem lower_trim_eq_of_scope_prefix {one other : List Char} {term : Term} (plain : ':' ∉ one)
    (clean : ':' ∉ other) (starts : headerScope one <+: term) (behind : headerScope other <+: term) :
    lower (trim other) = lower (trim one) := by
  obtain ⟨more, rfl⟩ := starts
  obtain ⟨rest, whole⟩ := behind
  rw [headerScope, headerScope, List.append_assoc, List.append_assoc, List.singleton_append,
    List.singleton_append] at whole
  -- both sides are cut at the first colon
  have first := beforeColon_append (lower (trim one)) more
  have second := beforeColon_append (lower (trim other)) rest
  rw [beforeColon_of_plain (colon_not_mem_lower_trim plain)] at first
  rw [beforeColon_of_plain (colon_not_mem_lower_trim clean), whole, first] at second
  exact second.symm

/-- A header line has its name, a colon and its value. -/
theorem Document.toList_namedLine (field : Mime.HeaderField) :
    (namedLine field).toList = field.name.toList ++ ':' :: field.value.toList := by
  rw [namedLine, String.toList_append, String.toList_append, List.append_assoc]
  rfl

/-- The terms of a header are its bare scope and the tokens of its value behind the scope. -/
theorem Analysis.mem_headerTerms (analysis : Analysis) {field : Mime.HeaderField}
    (plain : ':' ∉ field.name.toList) {term : Term} :
    term ∈ analysis.termsOf .header (Document.namedLine field).toList
      ↔ term = headerScope field.name.toList
        ∨ ∃ token ∈ analysis.tokens field.value.toList, headerScope field.name.toList ++ token.text = term := by
  rw [termsOf, Document.toList_namedLine, headerTokens, cutHeaderLine_of_plain plain]
  simp [Token.inHeader]

/-- Each term of a header starts with the scope of what stands before the first colon of its name. -/
theorem Analysis.scope_prefix_of_mem_headerTerms {analysis : Analysis} {field : Mime.HeaderField} {term : Term}
    (produced : term ∈ analysis.termsOf .header (Document.namedLine field).toList) :
    headerScope (beforeColon field.name.toList) <+: term := by
  have name := cutHeaderLine_fst (field.name.toList ++ ':' :: field.value.toList)
  rw [beforeColon_append] at name
  rw [termsOf, Document.toList_namedLine, headerTokens] at produced
  cases cut : cutHeaderLine (field.name.toList ++ ':' :: field.value.toList) with
  | mk first value =>
  rw [cut] at name produced
  obtain rfl : first = beforeColon field.name.toList := name
  rw [List.map_cons, List.map_map] at produced
  rcases List.mem_cons.mp produced with rfl | behind
  · exact List.prefix_rfl
  · obtain ⟨token, -, rfl⟩ := List.mem_map.mp behind
    exact List.prefix_append _ _

/-! ## Roles -/

namespace AddressRole

/-- The letters of the names of roles. -/
def letters : List Char :=
  all.flatMap (·.name.toList)

theorem mem_letters {role : AddressRole} {letter : Char} (listed : letter ∈ role.name.toList) :
    letter ∈ letters := by
  have known : role ∈ all := by cases role <;> decide
  exact List.mem_flatMap.mpr ⟨role, known, listed⟩

/-- What the tables say of a letter that is the lower-case form of itself and of its capital alone. -/
def hasOneCapital (letter : Char) : Bool :=
  lowerRanges.all (fun range =>
      range.source? letter.toNat == none || range.source? letter.toNat == some letter.toUpper.toNat)
    && (letter.toUpper.toNat + 32 == letter.toNat && letter.toNat ≤ 127)
    && (letter.toLower == letter && letter.toUpper.toLower == letter)
    && (lowerSimple letter == letter && lowerSimple letter.toUpper == letter)
    && (! isBlank letter && ! isBlank letter.toUpper)

theorem letters_haveOneCapital : letters.all hasOneCapital = true := by
  decide +kernel

section Letters

variable {letter other : Char} (listed : letter ∈ letters)

include listed

theorem not_isBlank_of_form (form : other = letter ∨ other = letter.toUpper) : isBlank other = false := by
  have known := List.all_eq_true.mp letters_haveOneCapital letter listed
  simp only [hasOneCapital, Bool.and_eq_true, Bool.not_eq_true'] at known
  rcases form with rfl | rfl
  · exact known.2.1
  · exact known.2.2

/-- In ASCII, a letter of a role is the lower-case form of itself and of its capital. -/
theorem toLower_eq_iff : other.toLower = letter ↔ other = letter ∨ other = letter.toUpper := by
  have known := List.all_eq_true.mp letters_haveOneCapital letter listed
  simp only [hasOneCapital, Bool.and_eq_true, beq_iff_eq] at known
  obtain ⟨⟨⟨⟨-, apart, -⟩, same, lowered⟩, -⟩, -⟩ := known
  constructor
  · intro lower
    unfold Char.toLower at lower
    split at lower
    · next capital =>
      refine Or.inr (Char.toNat_inj.mp ?_)
      have small : other.toNat ≤ 90 := UInt32.le_iff_toNat_le.mp capital.2
      have shifted : letter.toNat = (other.toNat + 32) % 4294967296 := by
        rw [← lower]
        exact UInt32.toNat_add other.val ('a'.val - 'A'.val)
      omega
    · exact Or.inl lower
  · rintro (rfl | rfl)
    · exact same
    · exact lowered

/-- In the full table as well. -/
theorem lowerLetter_eq_iff (before after : List Char) :
    lowerLetter before other after = [letter] ↔ other = letter ∨ other = letter.toUpper := by
  have known := List.all_eq_true.mp letters_haveOneCapital letter listed
  simp only [hasOneCapital, Bool.and_eq_true, beq_iff_eq, List.all_eq_true, Bool.or_eq_true,
    decide_eq_true_eq] at known
  obtain ⟨⟨⟨⟨sources, apart, ascii⟩, -⟩, same, lowered⟩, -⟩ := known
  constructor
  · intro form
    unfold lowerLetter at form
    split at form
    · -- no letter of a role is a small sigma
      have sigma := List.head_eq_of_cons_eq form
      split at sigma <;> exact absurd (sigma ▸ listed) (by decide)
    · split at form
      · simp at form
      · have simple := List.head_eq_of_cons_eq form
        have proper : (lowerSimple other).toNat ≠ 0 := by
          rw [simple]
          omega
        rcases lowerSimple_source proper with own | ⟨range, member, source⟩
        · exact Or.inl (own.symm.trans simple)
        · rw [simple] at source
          rcases sources range member with none | some
          · simp [none] at source
          · rw [some] at source
            exact Or.inr (Char.toNat_inj.mp (Option.some.inj source).symm)
  · intro form
    have small : other.toNat ≤ 127 := by
      rcases form with rfl | rfl <;> omega
    have notSigma : ¬ (other == 'Σ') = true := by
      rintro sigma
      rw [beq_iff_eq.mp sigma] at small
      exact absurd small (by decide)
    have notDotted : ¬ (other == 'İ') = true := by
      rintro dotted
      rw [beq_iff_eq.mp dotted] at small
      exact absurd small (by decide)
    rw [lowerLetter, if_neg notSigma, if_neg notDotted]
    rcases form with rfl | rfl
    · rw [same]
    · rw [lowered]

end Letters

/-- Both say the same of a text whose lower-case form is spelled in letters of roles. -/
theorem lowerAfter_eq_iff {wanted : List Char} (known : ∀ letter ∈ wanted, letter ∈ letters)
    (before text : List Char) : lowerAfter before text = wanted ↔ text.map Char.toLower = wanted := by
  induction text generalizing before wanted with
  | nil => rfl
  | cons letter rest ih =>
      cases wanted with
      | nil => simp [lowerAfter, lowerLetter_ne_nil]
      | cons first others =>
          obtain ⟨head, tail⟩ := List.forall_mem_cons.mp known
          have single (whole : lowerLetter before letter rest ++ lowerAfter (letter :: before) rest
              = first :: others) : lowerLetter before letter rest = [first] := by
            rcases lowerLetter_cases before letter rest with ⟨lowered, form⟩ | form
            · rw [form, List.singleton_append] at whole
              rw [form, List.head_eq_of_cons_eq whole]
            · -- the dot above is no letter of a role
              rw [form] at whole
              have dot : '\u0307' ∈ others := List.tail_eq_of_cons_eq whole ▸ List.mem_cons_self
              exact absurd (tail _ dot) (by decide)
          rw [lowerAfter, List.map_cons, List.cons_eq_cons, toLower_eq_iff head, ← ih tail (letter :: before),
            ← lowerLetter_eq_iff head before rest]
          constructor
          · intro whole
            have start := single whole
            rw [start, List.singleton_append] at whole
            exact ⟨start, List.tail_eq_of_cons_eq whole⟩
          · rintro ⟨start, later⟩
            rw [start, later, List.singleton_append]

/-- The role of a header is told by the ASCII lower-case form of its name. -/
theorem ofHeader?_eq_some_iff {header : String} {role : AddressRole} :
    ofHeader? header = some role ↔ header.toList.map Char.toLower = role.name.toList := by
  have names : ∀ name : String, all.find? (·.name == name) = some role ↔ name = role.name := by
    intro name
    constructor
    · intro found
      have same := List.find?_some found
      exact (beq_iff_eq.mp same).symm
    · rintro rfl
      cases role <;> rfl
  rw [ofHeader?, names, lowerAscii, ← String.toList_inj, String.toList_ofList]

theorem trim_of_role {header : String} {role : AddressRole} (found : ofHeader? header = some role) :
    trim header.toList = header.toList := by
  refine trim_of_dark fun letter listed => ?_
  have spelled : letter.toLower ∈ role.name.toList := by
    rw [← ofHeader?_eq_some_iff.mp found]
    exact List.mem_map_of_mem listed
  have known := mem_letters spelled
  exact not_isBlank_of_form known ((toLower_eq_iff known).mp rfl)

/-- What has a role is not blank. -/
theorem trim_ne_nil_of_role {name : String} {role : AddressRole}
    (asked : ofHeader? (String.ofList (trim name.toList)) = some role) : trim name.toList ≠ [] := by
  intro blank
  rw [blank] at asked
  exact absurd asked (by cases role <;> decide)

/-- A name that is the same as that of a header with a role has the role, without its blanks. -/
theorem ofHeader?_of_sameName {header name : String} {role : AddressRole}
    (found : ofHeader? header = some role) (same : SameName header name) :
    ofHeader? (String.ofList (trim name.toList)) = some role := by
  have known : ∀ letter ∈ role.name.toList, letter ∈ letters := fun letter listed => mem_letters listed
  rw [ofHeader?_eq_some_iff, String.toList_ofList, ← lowerAfter_eq_iff known []]
  calc lower (trim name.toList) = lower (trim header.toList) := same.symm
    _ = lower header.toList := by rw [trim_of_role found]
    _ = role.name.toList := (lowerAfter_eq_iff known [] _).mpr (ofHeader?_eq_some_iff.mp found)

end AddressRole

end Letterbox
