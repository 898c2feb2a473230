import Mathlib.Data.Nat.Notation

/-! Codes of which none is the beginning of another, and what can be read back from
a row of them. -/

namespace PrefixCodes

universe u v

variable {Item : Type u} {Symbol : Type v} {encode : Item → List Symbol} {stop : Symbol}

/-- A code can be told from what follows it. -/
def PrefixFree (encode : Item → List Symbol) : Prop :=
  ∀ first second rest rest', encode first ++ rest = encode second ++ rest' →
    first = second ∧ rest = rest'

/-- Every code begins with another symbol. -/
def BeginsApart (encode : Item → List Symbol) (stop : Symbol) : Prop :=
  ∀ item, ∃ head tail, encode item = head :: tail ∧ head ≠ stop

/-- What ends at the first occurrence of a symbol is prefix-free. -/
theorem append_stop_inj {first second rest rest' : List Symbol} (absent : stop ∉ first)
    (absent' : stop ∉ second) (same : first ++ stop :: rest = second ++ stop :: rest') :
    first = second ∧ rest = rest' := by
  induction first generalizing second with
  | nil =>
    cases second with
    | nil => exact ⟨rfl, (List.cons.inj same).2⟩
    | cons head tail =>
      exact absurd (List.mem_cons.mpr (Or.inl (List.cons.inj same).1)) absent'
  | cons head tail ih =>
    cases second with
    | nil => exact absurd (List.mem_cons.mpr (Or.inl (List.cons.inj same).1.symm)) absent
    | cons head' tail' =>
      obtain ⟨heads, tails⟩ := List.cons.inj same
      obtain ⟨equal, rests⟩ := ih (fun member => absent (List.mem_cons_of_mem _ member))
        (fun member => absent' (List.mem_cons_of_mem _ member)) tails
      exact ⟨by rw [heads, equal], rests⟩

/-- A row of codes is read back up to a symbol that begins none of them. -/
theorem PrefixFree.flatMap_stop_inj (free : PrefixFree encode) (apart : BeginsApart encode stop)
    {items items' : List Item} {rest rest' : List Symbol}
    (same : items.flatMap encode ++ stop :: rest = items'.flatMap encode ++ stop :: rest') :
    items = items' ∧ rest = rest' := by
  induction items generalizing items' with
  | nil =>
    cases items' with
    | nil => exact ⟨rfl, (List.cons.inj same).2⟩
    | cons item' others' =>
      obtain ⟨head, tail, begins, other⟩ := apart item'
      rw [List.flatMap_cons, begins] at same
      exact absurd (List.cons.inj same).1.symm other
  | cons item others ih =>
    cases items' with
    | nil =>
      obtain ⟨head, tail, begins, other⟩ := apart item
      rw [List.flatMap_cons, begins] at same
      exact absurd (List.cons.inj same).1 other
    | cons item' others' =>
      rw [List.flatMap_cons, List.flatMap_cons, List.append_assoc, List.append_assoc] at same
      obtain ⟨equal, tails⟩ := free _ _ _ _ same
      obtain ⟨equalOthers, rests⟩ := ih tails
      exact ⟨by rw [equal, equalOthers], rests⟩

end PrefixCodes
