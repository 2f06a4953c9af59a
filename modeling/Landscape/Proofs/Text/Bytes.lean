import Mathlib.Data.List.Basic

/-!
Texts compare as their bytes do. The order of texts goes by the code points of their characters; UTF-8 gives
a character of a lesser code point bytes that compare as less, whatever comes behind them, so that the order
of the bytes is the same one.
-/

namespace Landscape.Text

def bytes (text : String) : List UInt8 :=
  text.toByteArray.data.toList

theorem bytes_eq (text : String) : bytes text = text.toList.flatMap String.utf8EncodeChar := by
  rw [bytes, ← String.utf8Encode_toList, List.utf8Encode, List.toList_data_toByteArray]

theorem encoded_lt {former latter : Char} (less : former < latter) (behind beyond : List UInt8) :
    String.utf8EncodeChar former ++ behind < String.utf8EncodeChar latter ++ beyond := by
  have below : former.val.toNat < latter.val.toNat := less
  have bounded : latter.val.toNat < 1114112 := by
    rcases latter.valid with low | high
    · exact Nat.lt_trans low (by decide)
    · exact high.2
  -- digits to the base of 64, each as the remainder of a quotient of the quotient before it
  have twice : ∀ code, code / 4096 = code / 64 / 64 := fun code =>
    (Nat.div_div_eq_div_mul code 64 64).symm
  have thrice : ∀ code, code / 262144 = code / 64 / 64 / 64 := fun code => by
    rw [Nat.div_div_eq_div_mul, Nat.div_div_eq_div_mul]
  simp only [String.utf8EncodeChar, twice, thrice]
  generalize former.val.toNat = low at *
  generalize latter.val.toNat = high at *
  -- each of them has from one to four bytes
  repeat' split
  all_goals
    simp only [List.cons_append, List.nil_append, List.cons_lt_cons_iff, UInt8.lt_iff_toNat_lt,
      ← UInt8.toNat_inj, UInt8.toNat_ofNat']
    omega

theorem encodedList_lt {former latter : List Char} (less : former < latter) :
    former.flatMap String.utf8EncodeChar < latter.flatMap String.utf8EncodeChar := by
  induction former generalizing latter with
  | nil =>
      cases latter with
      | nil => exact absurd less (List.not_lt_nil [])
      | cons first rest =>
          obtain ⟨byte, more, encoded⟩ : ∃ byte more, String.utf8EncodeChar first = byte :: more := by
            apply List.exists_cons_of_length_pos
            rw [String.length_utf8EncodeChar]
            exact first.utf8Size_pos
          rw [List.flatMap_cons, encoded]
          exact List.nil_lt_cons byte _
  | cons first rest ih =>
      cases latter with
      | nil => exact absurd less (List.not_lt_nil (first :: rest))
      | cons second others =>
          rw [List.flatMap_cons, List.flatMap_cons]
          rcases List.cons_lt_cons_iff.mp less with below | ⟨rfl, later⟩
          · exact encoded_lt below _ _
          · exact List.append_left_lt (ih later)

/-- Code points and bytes give the same order. -/
theorem bytes_lt_iff {former latter : String} : bytes former < bytes latter ↔ former < latter := by
  rw [bytes_eq, bytes_eq]
  refine ⟨fun below => ?_, encodedList_lt⟩
  by_contra notBefore
  by_cases after : latter < former
  · exact List.lt_asymm below (encodedList_lt after)
  · obtain rfl : former = latter := String.le_antisymm after notBefore
    exact List.lt_irrefl _ below

end Landscape.Text
