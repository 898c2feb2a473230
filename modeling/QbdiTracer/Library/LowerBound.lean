import Mathlib.Data.List.Basic

/-! Binary search for the first item that a predicate no longer holds of. -/

namespace LowerBound

universe u

variable {Item : Type u}

/-- The search among the `len` items from `first` on. -/
def search (before : Item → Bool) (items : List Item) (first len : Nat) : Nat :=
  if len = 0 then first
  else
    if items[first + len / 2]?.any before then
      search before items (first + len / 2 + 1) (len - (len / 2 + 1))
    else search before items first (len / 2)
termination_by len

def lowerBound (before : Item → Bool) (items : List Item) : Nat :=
  search before items 0 items.length

/-- The predicate holds of a first part of the items and of no other. -/
structure Parts (before : Item → Bool) (low high : List Item) : Prop where
  low : ∀ item ∈ low, before item = true
  high : ∀ item ∈ high, before item = false

variable {before : Item → Bool} {low high : List Item}

theorem Parts.any_getElem? (parts : Parts before low high) (i : Nat)
    (inside : i < (low ++ high).length) :
    (low ++ high)[i]?.any before = decide (i < low.length) := by
  by_cases early : i < low.length
  · rw [List.getElem?_append_left early, List.getElem?_eq_getElem early, decide_eq_true early]
    exact parts.low _ (List.getElem_mem early)
  · rw [List.length_append] at inside
    have late : i - low.length < high.length := by omega
    rw [List.getElem?_append_right (Nat.not_lt.mp early), List.getElem?_eq_getElem late,
      decide_eq_false early]
    exact parts.high _ (List.getElem_mem late)

/-- The boundary stays between the two ends of the search. -/
theorem Parts.search_eq (parts : Parts before low high) (len first : Nat)
    (above : first ≤ low.length) (below : low.length ≤ first + len)
    (inside : first + len ≤ (low ++ high).length) :
    search before (low ++ high) first len = low.length := by
  induction len using Nat.strongRecOn generalizing first with
  | _ len ih =>
    rw [search]
    split
    · omega
    · have half : len / 2 < len := by omega
      rw [parts.any_getElem? (first + len / 2) (by omega)]
      by_cases early : first + len / 2 < low.length
      · simp only [decide_eq_true early, ↓reduceIte]
        exact ih _ (by omega) _ (by omega) (by omega) (by omega)
      · simp only [decide_eq_false early, Bool.false_eq_true, ↓reduceIte]
        exact ih _ half _ above (by omega) (by omega)

theorem Parts.lowerBound_eq (parts : Parts before low high) :
    lowerBound before (low ++ high) = low.length := by
  refine parts.search_eq _ 0 (Nat.zero_le _) ?_ ?_
  · simp
  · simp

/-- Items that are split at the boundary. -/
theorem exists_parts {items : List Item}
    (sorted : items.Pairwise fun earlier later => before later = true → before earlier = true) :
    ∃ low high, items = low ++ high ∧ Parts before low high := by
  induction sorted with
  | nil => exact ⟨[], [], rfl, nofun, nofun⟩
  | @cons item rest first _ ih =>
    obtain ⟨low, high, rfl, parts⟩ := ih
    cases here : before item with
    | true =>
      refine ⟨item :: low, high, rfl, ?_, parts.high⟩
      rw [List.forall_mem_cons]
      exact ⟨here, parts.low⟩
    | false =>
      refine ⟨[], item :: (low ++ high), rfl, nofun, ?_⟩
      rw [List.forall_mem_cons]
      refine ⟨here, fun other member => ?_⟩
      have late : ¬ before other = true := fun holds => by
        rw [first other member holds] at here
        cases here
      exact Bool.not_eq_true _ ▸ late

end LowerBound
