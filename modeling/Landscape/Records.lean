/-!
A map from texts to texts whose entries stand in ascending order of their keys, by code points. Two
such maps are equal when they answer every key alike, and the order of an entry never depends on when
it was written.
-/

namespace Landscape

structure Records where
  pairs : List (String × String)
  ascending : pairs.Pairwise fun former latter => former.1 < latter.1
  deriving DecidableEq

namespace Records

def empty : Records := ⟨[], .nil⟩

def get? (key : String) (records : Records) : Option String :=
  (records.pairs.find? fun pair => pair.1 = key).map Prod.snd

def contains (key : String) (records : Records) : Bool :=
  (records.get? key).isSome

def value (key : String) (records : Records) : String :=
  (records.get? key).getD ""

def keys (records : Records) : List String :=
  records.pairs.map Prod.fst

def size (records : Records) : Nat :=
  records.pairs.length

def isEmpty (records : Records) : Bool :=
  records.pairs.isEmpty

def place (key value : String) : List (String × String) → List (String × String)
  | [] => [(key, value)]
  | (found, old) :: rest =>
      if key < found then (key, value) :: (found, old) :: rest
      else if found < key then (found, old) :: place key value rest
      else (key, value) :: rest

theorem mem_place {key value : String} {pairs : List (String × String)} {pair : String × String}
    (found : pair ∈ place key value pairs) : pair = (key, value) ∨ pair ∈ pairs := by
  induction pairs with
  | nil => simpa [place] using found
  | cons first rest step =>
      simp only [place] at found
      split at found
      · simpa using found
      · split at found
        · rcases List.mem_cons.1 found with same | later
          · exact .inr (same ▸ List.mem_cons_self)
          · exact (step later).imp id (List.mem_cons_of_mem _)
        · rcases List.mem_cons.1 found with same | later
          · exact .inl same
          · exact .inr (List.mem_cons_of_mem _ later)

theorem place_ascending (key value : String) {pairs : List (String × String)}
    (ascending : pairs.Pairwise fun former latter => former.1 < latter.1) :
    (place key value pairs).Pairwise fun former latter => former.1 < latter.1 := by
  induction pairs with
  | nil => exact List.pairwise_singleton ..
  | cons first rest step =>
      obtain ⟨before, later⟩ := List.pairwise_cons.1 ascending
      simp only [place]
      split
      next below =>
        refine List.pairwise_cons.2 ⟨fun pair found => ?_, ascending⟩
        rcases List.mem_cons.1 found with same | behind
        · exact same ▸ below
        · exact String.lt_trans below (before pair behind)
      next notBelow =>
        split
        next above =>
          refine List.pairwise_cons.2 ⟨fun pair found => ?_, step later⟩
          rcases mem_place found with same | behind
          · exact same ▸ above
          · exact before pair behind
        next notAbove =>
          have same : first.1 = key := String.le_antisymm notBelow notAbove
          exact List.pairwise_cons.2 ⟨fun pair found => same ▸ before pair found, later⟩

def insert (key value : String) (records : Records) : Records :=
  ⟨place key value records.pairs, place_ascending key value records.ascending⟩

def erase (key : String) (records : Records) : Records :=
  ⟨records.pairs.filter fun pair => pair.1 ≠ key, records.ascending.filter _⟩

end Records

end Landscape
