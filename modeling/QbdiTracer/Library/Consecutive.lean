import Mathlib.Data.List.Chain
import Mathlib.Data.List.Induction

/-! Outputs of a list that depend on each element and the one before it. -/

namespace Consecutive

universe u v

variable {Item : Type u} {Output : Type v}

/-- The outputs of the items in order, the first one following `last`. -/
def outputs (emit : Option Item → Item → List Output) : Option Item → List Item → List Output
  | _, [] => []
  | last, item :: rest => emit last item ++ outputs emit (some item) rest

variable {emit : Option Item → Item → List Output}

@[simp] theorem outputs_nil (last : Option Item) : outputs emit last [] = [] := rfl

@[simp] theorem outputs_cons (last : Option Item) (item : Item) (rest : List Item) :
    outputs emit last (item :: rest) = emit last item ++ outputs emit (some item) rest := rfl

theorem outputs_concat (last : Option Item) (items : List Item) (item : Item) :
    outputs emit last (items ++ [item]) =
      outputs emit last items ++ emit (items.getLast?.or last) item := by
  induction items generalizing last with
  | nil => simp
  | cons first rest ih =>
    have same : rest.getLast?.or (some first) = (first :: rest).getLast?.or last := by
      cases ending : rest.getLast? <;> simp [List.getLast?_cons, ending]
    simp only [List.cons_append, outputs_cons, ih, same, List.append_assoc]

/-- Every output satisfies `good` iff neighbouring items are related, when
`linked` is what an item's outputs need of the item before it. -/
theorem forall_outputs_iff {good : Output → Prop} {linked : Item → Item → Prop}
    (first : ∀ item, ∀ output ∈ emit none item, good output)
    (later : ∀ prev item, (∀ output ∈ emit (some prev) item, good output) ↔ linked prev item)
    (items : List Item) :
    (∀ output ∈ outputs emit none items, good output) ↔ items.IsChain linked := by
  induction items using List.reverseRecOn with
  | nil => simp
  | append_singleton items item ih =>
    rw [outputs_concat, List.isChain_append, ← ih]
    simp only [List.mem_append, or_imp, forall_and, List.isChain_singleton, true_and,
      List.head?_cons, Option.mem_some_iff, forall_eq', Option.or_none, and_congr_right_iff]
    intro
    cases ending : items.getLast? with
    | none => simpa using first item
    | some prev => simpa using later prev item

end Consecutive
