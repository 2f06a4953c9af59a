import Landscape.Json.Reader

/-!
Compact text reads back as the value it was written from, for values without numbers all of whose
literals have text, as every shape that is written here has. The reader is followed over what is left: what
it reads from the text of a value and anything behind it is the value, and the rest is what stood behind.
-/

namespace Landscape.Json

mutual

/-- No numbers, and a text for every literal. -/
def Plain : Json → Prop
  | null | bool _ => True
  | number _ => False
  | string text => text.isSome
  | array items => PlainItems items
  | object members => PlainMembers members

def PlainItems : List Json → Prop
  | [] => True
  | item :: rest => Plain item ∧ PlainItems rest

def PlainMembers : List Member → Prop
  | [] => True
  | (name, value) :: rest => name.isSome ∧ Plain value ∧ PlainMembers rest

end

theorem hexValue_digitChar {value : Nat} (small : value < 16) :
    hexValue? (Nat.digitChar value) = some value := by
  revert value
  decide

theorem codeUnit_digits {code : Nat} (small : code < 0x20) :
    codeUnit? '0' '0' (Nat.digitChar (code / 16)) (Nat.digitChar (code % 16)) = some code := by
  have zero : hexValue? '0' = some 0 := rfl
  rw [codeUnit?, zero, hexValue_digitChar (by omega), hexValue_digitChar (by omega)]
  show some (((0 * 16 + 0) * 16 + code / 16) * 16 + code % 16) = some code
  congr 1
  omega

theorem textOf_unit {unit : Nat} (small : unit < 0x20) (pieces : List Piece) :
    textOf? (.inr unit :: pieces) = (textOf? pieces).map (Char.ofNat unit :: ·) := by
  have high : isHighSurrogate unit = false := by
    simp [isHighSurrogate]
    omega
  have low : isLowSurrogate unit = false := by
    simp [isLowSurrogate]
    omega
  cases pieces with
  | nil => simp [textOf?, high, low]
  | cons first rest => cases first <;> simp [textOf?, high, low]

theorem readPieces_escape (c : Char) {text left : List Char} {pieces : List Piece}
    (read : readPieces? text = some (pieces, left)) :
    ∃ piece, readPieces? (escape c ++ text) = some (piece :: pieces, left) ∧
      textOf? (piece :: pieces) = (textOf? pieces).map (c :: ·) := by
  unfold escape
  split
  case h_8 _ quote backslash _ _ _ _ _ =>
    by_cases control : c.toNat < 0x20
    · refine ⟨.inr c.toNat, ?_, ?_⟩
      · simp [control, readPieces?, codeUnit_digits, read]
      · rw [textOf_unit control, Char.ofNat_toNat]
    · refine ⟨.inl c, ?_, rfl⟩
      rw [if_neg control, List.singleton_append, readPieces?.eq_def]
      split <;> simp_all
  all_goals exact ⟨.inl _, by simp [readPieces?, unescape?, read], rfl⟩

theorem readPieces_quoted (text left : List Char) :
    ∃ pieces, readPieces? (text.flatMap escape ++ '"' :: left) = some (pieces, left) ∧
      textOf? pieces = some text := by
  induction text with
  | nil => exact ⟨[], by simp [readPieces?], rfl⟩
  | cons c rest ih =>
      obtain ⟨pieces, read, texts⟩ := ih
      obtain ⟨piece, reads, stands⟩ := readPieces_escape c read
      refine ⟨piece :: pieces, ?_, ?_⟩
      · rw [List.flatMap_cons, List.append_assoc, reads]
      · rw [stands, texts]
        rfl

/-- A literal reads back as its text. -/
theorem readString_literal (text : String) (left : List Char) :
    readString? (text.toList.flatMap escape ++ '"' :: left) = some (some text, left) := by
  obtain ⟨pieces, read, stands⟩ := readPieces_quoted text.toList left
  rw [readString?, read]
  simp [stands, String.ofList_toList]

section Tokens
variable {depth : Nat} {text behind left : List Char} {item value : Json}

theorem skipBlanks_cons {c : Char} (token : isBlank c = false) (rest : List Char) :
    skipBlanks (c :: rest) = c :: rest :=
  List.dropWhile_cons_of_neg (by simp [token])

theorem readValue_string (text : String) (left : List Char) :
    readValue? (depth + 1) (literal (some text) ++ left) = some (.text text, left) := by
  have quoted : literal (some text) ++ left =
      '"' :: (text.toList.flatMap escape ++ '"' :: left) := by simp [literal, Json.quoted]
  rw [quoted, readValue?, skipBlanks_cons rfl]
  simp only [readString_literal]
  rfl

theorem readValue_array {c : Char} (token : isBlank c = false) (unclosed : c ≠ ']') :
    readValue? (depth + 1) ('[' :: c :: behind) =
      (readItems? depth (c :: behind)).map fun read => (.array read.1, read.2) := by
  have bracket : skipBlanks ('[' :: c :: behind) = '[' :: c :: behind := skipBlanks_cons rfl _
  simp only [readValue?, bracket, skipBlanks_cons token]
  split
  next closed => exact (unclosed (List.cons.inj closed).1).elim
  next => rfl

theorem readValue_object : readValue? (depth + 1) ('\x7b' :: '"' :: behind) =
    (readMembers? depth ('"' :: behind)).map fun read => (.object read.1, read.2) := rfl

theorem readItems_more (read : readValue? depth text = some (item, ',' :: behind)) :
    readItems? (depth + 1) text =
      (readItems? depth behind).map fun others => (item :: others.1, others.2) := by
  rw [readItems?, read]
  rfl

theorem readItems_last (read : readValue? depth text = some (item, ']' :: left)) :
    readItems? (depth + 1) text = some ([item], left) := by
  rw [readItems?, read]
  rfl

theorem readMembers_named (name : String) : readMembers? (depth + 1)
    (literal (some name) ++ ':' :: behind) =
      match readValue? depth behind with
      | none => none
      | some (value, left) =>
          match skipBlanks left with
          | ',' :: rest => (readMembers? depth rest).map fun (members, left) =>
              ((some name, value) :: members, left)
          | '\x7d' :: left => some ([(some name, value)], left)
          | _ => none := by
  have quoted : literal (some name) ++ ':' :: behind =
      '"' :: (name.toList.flatMap escape ++ '"' :: ':' :: behind) := by simp [literal, Json.quoted]
  rw [quoted, readMembers?, skipBlanks_cons rfl]
  simp only [readString_literal]
  rfl

theorem readMembers_more (name : String)
    (read : readValue? depth behind = some (value, ',' :: text)) :
    readMembers? (depth + 1) (literal (some name) ++ ':' :: behind) =
      (readMembers? depth text).map fun others => ((some name, value) :: others.1, others.2) := by
  rw [readMembers_named, read]
  rfl

theorem readMembers_last (name : String)
    (read : readValue? depth behind = some (value, '\x7d' :: left)) :
    readMembers? (depth + 1) (literal (some name) ++ ':' :: behind) =
      some ([(some name, value)], left) := by
  rw [readMembers_named, read]
  rfl

end Tokens

theorem chars_begins {value : Json} (plain : Plain value) :
    ∃ c more, chars value = c :: more ∧ isBlank c = false ∧ c ≠ ']' := by
  cases value with
  | null => exact ⟨'n', _, rfl, rfl, by decide⟩
  | bool value => cases value <;> exact ⟨_, _, rfl, rfl, by decide⟩
  | number => exact plain.elim
  | string text => exact ⟨'"', _, rfl, rfl, by decide⟩
  | array items => exact ⟨'[', _, rfl, rfl, by decide⟩
  | object members => exact ⟨'\x7b', _, rfl, rfl, by decide⟩

theorem itemChars_cons (item second : Json) (rest : List Json) :
    itemChars (item :: second :: rest) = chars item ++ ',' :: itemChars (second :: rest) := rfl

theorem memberChars_cons (name : Option String) (value : Json) (second : Member)
    (rest : List Member) : memberChars ((name, value) :: second :: rest) =
      literal name ++ ':' :: chars value ++ ',' :: memberChars (second :: rest) := rfl

theorem itemChars_begins {item : Json} (plain : Plain item) (rest : List Json) (left : List Char) :
    ∃ c more, itemChars (item :: rest) ++ left = c :: more ∧ isBlank c = false ∧ c ≠ ']' := by
  obtain ⟨c, more, begins, token, unclosed⟩ := chars_begins plain
  cases rest with
  | nil => exact ⟨c, more ++ left, by rw [itemChars, begins]; rfl, token, unclosed⟩
  | cons second rest =>
      exact ⟨c, _, by rw [itemChars_cons, begins, List.cons_append, List.cons_append], token, unclosed⟩

theorem memberChars_begins (name : Option String) (value : Json) (rest : List Member)
    (left : List Char) : ∃ more, memberChars ((name, value) :: rest) ++ left = '"' :: more := by
  cases rest with
  | nil => exact ⟨_, rfl⟩
  | cons second rest => exact ⟨_, rfl⟩

mutual

theorem readValue_chars : ∀ (value : Json) (depth : Nat) (left : List Char), Plain value →
    (chars value).length ≤ depth → readValue? depth (chars value ++ left) = some (value, left)
  | value, 0, left, plain, bound => by
      obtain ⟨c, more, begins, _⟩ := chars_begins plain
      simp [begins] at bound
  | .null, _ + 1, _, _, _ => rfl
  | .bool true, _ + 1, _, _, _ => rfl
  | .bool false, _ + 1, _, _, _ => rfl
  | .number _, _ + 1, _, plain, _ => plain.elim
  | .string text, depth + 1, left, plain, _ => by
      obtain ⟨text, rfl⟩ := Option.isSome_iff_exists.mp plain
      exact readValue_string text left
  | .array [], _ + 1, _, _, _ => rfl
  | .array (item :: rest), depth + 1, left, plain, bound => by
      have inside := readItems_chars (item :: rest) depth left (List.cons_ne_nil _ _) plain
        (by simp [chars] at bound; omega)
      obtain ⟨c, more, begins, token, unclosed⟩ := itemChars_begins plain.1 rest (']' :: left)
      have text : chars (.array (item :: rest)) ++ left =
          '[' :: (itemChars (item :: rest) ++ ']' :: left) := by simp [chars]
      rw [text, begins, readValue_array token unclosed, ← begins, inside]
      rfl
  | .object [], _ + 1, _, _, _ => rfl
  | .object ((name, value) :: rest), depth + 1, left, plain, bound => by
      have inside := readMembers_chars ((name, value) :: rest) depth left (List.cons_ne_nil _ _) plain
        (by simp [chars] at bound; omega)
      obtain ⟨more, begins⟩ := memberChars_begins name value rest ('\x7d' :: left)
      have text : chars (.object ((name, value) :: rest)) ++ left =
          '\x7b' :: (memberChars ((name, value) :: rest) ++ '\x7d' :: left) := by simp [chars]
      rw [text, begins, readValue_object, ← begins, inside]
      rfl

theorem readItems_chars : ∀ (items : List Json) (depth : Nat) (left : List Char), items ≠ [] →
    PlainItems items → (itemChars items).length < depth →
    readItems? depth (itemChars items ++ ']' :: left) = some (items, left)
  | _, 0, _, _, _, bound => by omega
  | [], _ + 1, _, nonempty, _, _ => (nonempty rfl).elim
  | [item], depth + 1, left, _, plain, bound => by
      rw [itemChars] at bound ⊢
      exact readItems_last (readValue_chars item depth (']' :: left) plain.1 (by omega))
  | item :: second :: rest, depth + 1, left, _, plain, bound => by
      rw [itemChars_cons, List.length_append, List.length_cons] at bound
      have others := readItems_chars (second :: rest) depth left (List.cons_ne_nil _ _) plain.2
        (by omega)
      rw [itemChars_cons, List.append_assoc, List.cons_append,
        readItems_more (readValue_chars item depth _ plain.1 (by omega)), others]
      rfl

theorem readMembers_chars : ∀ (members : List Member) (depth : Nat) (left : List Char),
    members ≠ [] → PlainMembers members → (memberChars members).length < depth →
    readMembers? depth (memberChars members ++ '\x7d' :: left) = some (members, left)
  | _, 0, _, _, _, bound => by omega
  | [], _ + 1, _, nonempty, _, _ => (nonempty rfl).elim
  | [(name, value)], depth + 1, left, _, plain, bound => by
      obtain ⟨name, rfl⟩ := Option.isSome_iff_exists.mp plain.1
      simp only [memberChars, List.length_append, List.length_cons] at bound
      rw [memberChars, List.append_assoc, List.cons_append]
      exact readMembers_last name (readValue_chars value depth _ plain.2.1 (by omega))
  | (name, value) :: second :: rest, depth + 1, left, _, plain, bound => by
      obtain ⟨name, rfl⟩ := Option.isSome_iff_exists.mp plain.1
      simp only [memberChars_cons, List.length_append, List.length_cons] at bound
      have others := readMembers_chars (second :: rest) depth left (List.cons_ne_nil _ _) plain.2.2
        (by omega)
      rw [memberChars_cons, List.append_assoc, List.append_assoc, List.cons_append, List.cons_append,
        readMembers_more name (readValue_chars value depth _ plain.2.1 (by omega)), others]
      rfl

end

/-- Compact text names the value that it was written from. -/
theorem parse_compact {value : Json} (plain : Plain value) : parse? value.compact = some value := by
  have read := readValue_chars value (value.chars.length + 1) [] plain (Nat.le_succ _)
  rw [List.append_nil] at read
  rw [parse?, compact, String.toList_ofList, parseChars?, read]
  rfl

end Landscape.Json
