import SandboxWatch.NameMap

/-!
# SandboxWatch.Proofs.Text.ByteOrder

Texts are compared by their code points. The order of their bytes in UTF-8 is the same, because the
encoding of a smaller character is smaller at the first byte where the two differ.

* `Text.lt_iff_bytes_lt` — one text comes before another exactly when its bytes do.
* `Text.ordered_toList`  — the names of a set are in the order of their bytes.
-/

namespace SandboxWatch
namespace Text

/-- The bytes of a text in UTF-8. -/
def bytes (s : String) : List UInt8 := s.toUTF8.data.toList

theorem bytes_eq_flatMap (s : String) : bytes s = s.toList.flatMap String.utf8EncodeChar := by
  rw [bytes, String.toUTF8_eq_toByteArray, ← String.utf8Encode_toList, List.utf8Encode,
    List.data_toByteArray]

/-- Of two numbers the smaller one is smaller at the first digit where they differ. The digits are
those that a character of four bytes is written with. -/
theorem utf8_digits_lt {v w : Nat} (hlt : v < w) (hw : w < 1114112) :
    v / 262144 % 8 < w / 262144 % 8 ∨ v / 262144 % 8 = w / 262144 % 8 ∧
      (v / 4096 % 64 < w / 4096 % 64 ∨ v / 4096 % 64 = w / 4096 % 64 ∧
        (v / 64 % 64 < w / 64 % 64 ∨ v / 64 % 64 = w / 64 % 64 ∧ v % 64 < w % 64)) := by
  have digits (n : Nat) (h : n < 1114112) :
      n = 262144 * (n / 262144 % 8) + 4096 * (n / 4096 % 64) + 64 * (n / 64 % 64) + n % 64 ∧
        n / 4096 % 64 < 64 ∧ n / 64 % 64 < 64 ∧ n % 64 < 64 := by omega
  have hv := digits v (by omega)
  have hw := digits w hw
  generalize v / 262144 % 8 = v₁, v / 4096 % 64 = v₂, v / 64 % 64 = v₃, v % 64 = v₄ at *
  generalize w / 262144 % 8 = w₁, w / 4096 % 64 = w₂, w / 64 % 64 = w₃, w % 64 = w₄ at *
  omega

theorem utf8EncodeChar_append_lt {c d : Char} (h : c < d) (as bs : List UInt8) :
    String.utf8EncodeChar c ++ as < String.utf8EncodeChar d ++ bs := by
  have hlt : c.val.toNat < d.val.toNat := h
  have hd : d.val.toNat < 1114112 := by
    have := d.valid
    simp only [UInt32.isValidChar, Nat.isValidChar] at this
    omega
  have hdigits := utf8_digits_lt hlt hd
  have low (n : Nat) : (n % 64 + 128) % 256 = n % 64 + 128 := by omega
  have high (n : Nat) : (n % 8 + 240) % 256 = n % 8 + 240 := by omega
  unfold String.utf8EncodeChar
  dsimp only
  by_cases hc : c.val.toNat ≤ 65535
  · split <;> split <;> (try split) <;> (try split) <;> (try split) <;>
      simp only [List.cons_append, List.nil_append, List.cons_lt_cons_iff, UInt8.lt_iff_toNat_lt,
        ← UInt8.toNat_inj, UInt8.toNat_ofNat'] <;> omega
  · rw [if_neg (by omega), if_neg (by omega), if_neg hc, if_neg (by omega), if_neg (by omega),
      if_neg (by omega)]
    simp only [List.cons_append, List.nil_append, List.cons_lt_cons_iff, UInt8.lt_iff_toNat_lt,
      ← UInt8.toNat_inj, UInt8.toNat_ofNat', low, high, Nat.add_lt_add_iff_right,
      Nat.add_right_cancel_iff]
    rcases hdigits with h₁ | ⟨h₁, h₂ | ⟨h₂, h₃ | ⟨h₃, h₄⟩⟩⟩
    · exact .inl h₁
    · exact .inr ⟨h₁, .inl h₂⟩
    · exact .inr ⟨h₁, .inr ⟨h₂, .inl h₃⟩⟩
    · exact .inr ⟨h₁, .inr ⟨h₂, .inr ⟨h₃, .inl h₄⟩⟩⟩

theorem flatMap_utf8_lt {as bs : List Char} (h : as < bs) :
    as.flatMap String.utf8EncodeChar < bs.flatMap String.utf8EncodeChar := by
  induction as generalizing bs with
  | nil =>
    cases bs with
    | nil => simp at h
    | cons d bs =>
      cases hd : String.utf8EncodeChar d with
      | nil => exact absurd hd String.utf8EncodeChar_ne_nil
      | cons b rest => simp [hd]
  | cons c as ih =>
    cases bs with
    | nil => simp at h
    | cons d bs =>
      rw [List.flatMap_cons, List.flatMap_cons]
      rcases List.cons_lt_cons_iff.mp h with hlt | ⟨rfl, hrest⟩
      · exact utf8EncodeChar_append_lt hlt _ _
      · exact List.append_left_lt (ih hrest)

theorem bytes_lt {a b : String} (h : a < b) : bytes a < bytes b := by
  rw [bytes_eq_flatMap, bytes_eq_flatMap]
  exact flatMap_utf8_lt h

/-- The order of texts is the order of their bytes. -/
theorem lt_iff_bytes_lt {a b : String} : a < b ↔ bytes a < bytes b := by
  refine ⟨bytes_lt, fun h => ?_⟩
  rcases String.le_total b a with hba | hab
  · exfalso
    rcases Decidable.em (b < a) with hlt | hnlt
    · exact List.lt_asymm h (bytes_lt hlt)
    · have hab : a = b := String.le_antisymm (String.not_lt.mp hnlt) hba
      subst hab
      exact List.lt_irrefl _ h
  · rcases Decidable.em (a < b) with hlt | hnlt
    · exact hlt
    · have hab : a = b := String.le_antisymm hab (String.not_lt.mp hnlt)
      subst hab
      exact absurd h (List.lt_irrefl _)

theorem compare_eq_lt_iff {a b : String} : compare a b = .lt ↔ bytes a < bytes b := by
  rw [← lt_iff_bytes_lt]
  exact compareOfLessAndEq_eq_lt

theorem ordered_toList (names : NameSet) :
    names.toList.Pairwise fun x y => bytes x < bytes y :=
  names.ordered_toList.imp compare_eq_lt_iff.mp

end Text
end SandboxWatch
