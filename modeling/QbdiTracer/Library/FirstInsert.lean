import Mathlib.Data.List.Basic

/-! Tables in which the first value that is inserted for a key stays. -/

namespace FirstInsert

universe u v

variable {Key : Type u} {Value : Type v} [DecidableEq Key] {table : Key → Option Value}
  {key other : Key} {value : Value}

/-- `emplace` and `insert` of `std::unordered_map`. -/
def emplaceAt (table : Key → Option Value) (key : Key) (value : Value) : Key → Option Value :=
  fun other => if other = key then some ((table other).getD value) else table other

theorem emplaceAt_self : emplaceAt table key value key = some ((table key).getD value) :=
  if_pos rfl

theorem emplaceAt_other (away : other ≠ key) : emplaceAt table key value other = table other :=
  if_neg away

/-- What a table has for a key after one insertion: what it had, else the new value. -/
theorem emplaceAt_eq (other : Key) :
    emplaceAt table key value other = (table other).or (if key = other then some value else none) := by
  by_cases same : key = other
  · subst other
    rw [emplaceAt_self, if_pos rfl]
    cases table key <;> rfl
  · rw [emplaceAt_other (Ne.symm same), if_neg same, Option.or_none]

/-- What is found for a key comes from the table or is one of the values inserted for it. -/
theorem eq_some_of_emplaceAt {found : Value} (held : emplaceAt table key value other = some found) :
    table other = some found ∨ other = key ∧ found = value := by
  rw [emplaceAt_eq] at held
  cases earlier : table other with
  | some first =>
    rw [earlier, Option.some_or] at held
    exact .inl held
  | none =>
    rw [earlier, Option.none_or] at held
    split at held
    · rename_i same
      cases held
      exact .inr ⟨same.symm, rfl⟩
    · cases held

/-- The first of the pairs with the key is found, behind what the table had before. -/
theorem foldl_emplaceAt (pairs : List (Key × Value)) (table : Key → Option Value) (key : Key) :
    pairs.foldl (fun table pair => emplaceAt table pair.1 pair.2) table key =
      (table key).or ((pairs.find? fun pair => pair.1 = key).map Prod.snd) := by
  induction pairs generalizing table with
  | nil => simp
  | cons pair pairs ih =>
    rw [List.foldl_cons, ih, emplaceAt_eq, Option.or_assoc]
    congr 1
    by_cases same : pair.1 = key
    · rw [if_pos same, List.find?_cons_of_pos (by simpa using same), Option.some_or, Option.map_some]
    · rw [if_neg same, List.find?_cons_of_neg (by simpa using same), Option.none_or]

end FirstInsert
