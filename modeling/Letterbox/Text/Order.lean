/-!
# The order of texts

Texts are ordered by the first character in which they differ; a text stands after its own beginnings.
Of two different texts exactly one stands before the other.
-/

namespace Letterbox.Text

/-- Whether the first text stands before the second. -/
def lettersPrecede : List Char → List Char → Bool
  | _, [] => false
  | [], _ :: _ => true
  | first :: rest, second :: others =>
    if first = second then lettersPrecede rest others else first.toNat < second.toNat

/-- Whether the first string stands before the second. -/
def precedes (first second : String) : Bool := lettersPrecede first.toList second.toList

theorem lettersPrecede_trans {first second third : List Char} (h₁ : lettersPrecede first second = true)
    (h₂ : lettersPrecede second third = true) : lettersPrecede first third = true := by
  induction first generalizing second third with
  | nil =>
    cases third with
    | nil => cases second <;> simp [lettersPrecede] at h₂
    | cons => rfl
  | cons one rest ih =>
    cases second with
    | nil => simp [lettersPrecede] at h₁
    | cons two others =>
      cases third with
      | nil => simp [lettersPrecede] at h₂
      | cons three last =>
        unfold lettersPrecede at h₁ h₂ ⊢
        split at h₁ <;> split at h₂
        · next h₃ h₄ => simpa [h₃, h₄] using ih h₁ h₂
        · next h₃ h₄ => simpa [h₃, h₄] using h₂
        · next h₃ h₄ => simpa [← h₄, h₃] using h₁
        · simp only [decide_eq_true_eq] at h₁ h₂
          have h₅ : one ≠ three := by
            intro h
            rw [h] at h₁
            omega
          simp only [h₅, if_false, decide_eq_true_eq]
          omega

theorem lettersPrecede_total {first second : List Char} (h₁ : first ≠ second)
    (h₂ : ¬ lettersPrecede first second = true) : lettersPrecede second first = true := by
  induction first generalizing second with
  | nil =>
    cases second with
    | nil => exact absurd rfl h₁
    | cons => simp [lettersPrecede] at h₂
  | cons one rest ih =>
    cases second with
    | nil => rfl
    | cons two others =>
      unfold lettersPrecede at h₂ ⊢
      split at h₂
      · next h => simpa [h] using ih (fun h₃ => h₁ (by rw [h, h₃])) h₂
      · next h =>
        have h₃ : one.toNat ≠ two.toNat := fun h₄ => h (Char.toNat_inj.mp h₄)
        simp only [decide_eq_true_eq] at h₂
        simp only [Ne.symm h, if_false, decide_eq_true_eq]
        omega

theorem precedes_trans {first second third : String} (h₁ : precedes first second = true)
    (h₂ : precedes second third = true) : precedes first third = true :=
  lettersPrecede_trans h₁ h₂

theorem precedes_total {first second : String} (h₁ : first ≠ second)
    (h₂ : ¬ precedes first second = true) : precedes second first = true :=
  lettersPrecede_total (fun h => h₁ (String.toList_inj.mp h)) h₂

end Letterbox.Text
