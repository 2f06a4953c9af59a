import Landscape.Records
import Mathlib.Data.List.Nodup

/-!
A map of texts reads back what was written: a write decides its own key and leaves every other. Its keys are
distinct, and its pairs are those that it answers.
-/

namespace Landscape.Records

theorem find_place (key value other : String) (pairs : List (String × String))
    (ascending : pairs.Pairwise fun former latter => former.1 < latter.1) :
    (place key value pairs).find? (fun pair => pair.1 = other) =
      if other = key then some (key, value) else pairs.find? fun pair => pair.1 = other := by
  induction pairs with
  | nil =>
      by_cases same : other = key
      · simp [place, same]
      · simp [place, same, Ne.symm same]
  | cons first rest ih =>
      obtain ⟨found, old⟩ := first
      obtain ⟨_, later⟩ := List.pairwise_cons.mp ascending
      rw [place]
      split
      next below =>
        by_cases same : other = key
        · simp [same]
        · rw [List.find?_cons_of_neg (by simpa using Ne.symm same), if_neg same]
      next notBelow =>
        split
        next above =>
          by_cases here : found = other
          · subst here
            simp [(String.ne_of_lt above)]
          · rw [List.find?_cons_of_neg (by simpa using here), ih later,
              List.find?_cons_of_neg (by simpa using here)]
        next notAbove =>
          obtain rfl : found = key := String.le_antisymm notBelow notAbove
          by_cases same : other = found
          · simp [same]
          · rw [List.find?_cons_of_neg (by simpa using Ne.symm same), if_neg same,
              List.find?_cons_of_neg (by simpa using Ne.symm same)]

theorem get_insert (key value other : String) (records : Records) :
    (records.insert key value).get? other =
      if other = key then some value else records.get? other := by
  rw [get?, insert, find_place key value other records.pairs records.ascending]
  split <;> rfl

theorem get_erase (key other : String) (records : Records) :
    (records.erase key).get? other = if other = key then none else records.get? other := by
  rw [get?, erase, List.find?_filter]
  by_cases same : other = key
  · subst same
    simp
  · rw [if_neg same, get?]
    congr 2
    funext pair
    by_cases here : pair.1 = other
    · simp [here, same]
    · simp [here]

theorem contains_erase (key : String) (records : Records) :
    (records.erase key).contains key = false := by
  rw [contains, get_erase, if_pos rfl]
  rfl

theorem keys_nodup (records : Records) : records.keys.Nodup := by
  rw [keys, List.Nodup, List.pairwise_map]
  exact records.ascending.imp fun before => String.ne_of_lt before

theorem nodup_pairs (records : Records) : records.pairs.Nodup :=
  records.keys_nodup.of_map

theorem mem_pairs_iff (records : Records) (key value : String) :
    (key, value) ∈ records.pairs ↔ records.get? key = some value := by
  have ascending := records.ascending
  rw [get?]
  generalize records.pairs = pairs at ascending ⊢
  induction pairs with
  | nil => simp
  | cons first rest ih =>
      obtain ⟨before, later⟩ := List.pairwise_cons.mp ascending
      by_cases same : first.1 = key
      · have absent : (key, value) ∉ rest := fun member =>
          String.ne_of_lt (before (key, value) member) same
        simp [same, absent, Prod.ext_iff, eq_comm]
      · simp [same, ih later, Prod.ext_iff, Ne.symm same]

end Landscape.Records
