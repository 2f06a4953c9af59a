import Landscape.Identity

/-!
The text of an identity reads back as the identity: digits as bytes, and the hyphenated form as its digits.
-/

namespace Landscape

namespace Hex

theorem value_digit {value : Nat} (small : value < 16) : value? (digit value) = some value := by
  revert value
  decide

theorem byte_digits (byte : UInt8) : UInt8.ofNat (16 * (byte.toNat / 16) + byte.toNat % 16) = byte := by
  rw [Nat.div_add_mod, UInt8.ofNat_toNat]

theorem toBytes_ofBytes (bytes : List UInt8) : toBytes? (ofBytes bytes) = some bytes := by
  induction bytes with
  | nil => rfl
  | cons byte rest ih =>
      have below : byte.toNat < 256 := byte.toNat_lt
      have high : value? (digit (byte.toNat / 16)) = some (byte.toNat / 16) := value_digit (by omega)
      have low : value? (digit (byte.toNat % 16)) = some (byte.toNat % 16) := value_digit (by omega)
      have parts : ofBytes (byte :: rest) =
          digit (byte.toNat / 16) :: digit (byte.toNat % 16) :: ofBytes rest := rfl
      rw [parts, toBytes?, high, low, ih]
      simp only [byte_digits]

theorem length_ofBytes (bytes : List UInt8) : (ofBytes bytes).length = 2 * bytes.length := by
  induction bytes with
  | nil => rfl
  | cons byte rest ih =>
      have parts : ofBytes (byte :: rest) = ofByte byte ++ ofBytes rest := rfl
      rw [parts, List.length_append, ih, List.length_cons]
      show 2 + _ = _
      omega

end Hex

namespace ResourceId

theorem length_hyphenate {digits : List Char} (full : digits.length = 32) :
    (hyphenate digits).length = 36 := by
  simp [hyphenate, full]

theorem groups_eq (digits : List Char) :
    digits.take 8 ++ (digits.drop 8).take 4 ++ (digits.drop 12).take 4 ++ (digits.drop 16).take 4 ++
      digits.drop 20 = digits := by
  have step : ∀ start size : Nat, (digits.drop start).take size ++ digits.drop (start + size) =
      digits.drop start := by
    intro start size
    rw [← List.drop_drop]
    exact List.take_append_drop size (digits.drop start)
  rw [List.append_assoc, step 16 4, List.append_assoc, step 12 4, List.append_assoc, step 8 4,
    List.take_append_drop]

theorem unhyphenate_hyphenate {digits : List Char} (full : digits.length = 32) :
    unhyphenate? (hyphenate digits) = some digits := by
  have groups : (hyphenate digits).take 8 ++ ((hyphenate digits).drop 9).take 4 ++
      ((hyphenate digits).drop 14).take 4 ++ ((hyphenate digits).drop 19).take 4 ++
      (hyphenate digits).drop 24 = digits := by
    refine Eq.trans ?_ (groups_eq digits)
    simp [hyphenate, List.drop_append, List.drop_take, full]
  rw [unhyphenate?]
  simp only [groups, full, and_self, if_true]

theorem length_digits (id : ResourceId) : (Hex.ofBytes id.bytes).length = 32 := by
  rw [Hex.length_ofBytes, id.size_eq]

/-- The text of an identity names it. -/
theorem parse_text (id : ResourceId) : parse? id.text = some id := by
  have chars : id.text.toList = hyphenate (Hex.ofBytes id.bytes) := String.toList_ofList
  have full := id.length_digits
  have digits : digits? (hyphenate (Hex.ofBytes id.bytes)) = some (Hex.ofBytes id.bytes) := by
    rw [digits?, if_neg (by rw [length_hyphenate full]; decide), if_pos (length_hyphenate full)]
    exact unhyphenate_hyphenate full
  rw [parse?, chars, ofChars?, digits, Option.bind_some, Hex.toBytes_ofBytes, Option.bind_some,
    ofBytes?, dif_pos id.size_eq]

end ResourceId

end Landscape
