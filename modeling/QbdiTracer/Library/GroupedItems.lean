import QbdiTracer.Library.WhileLoop
import Mathlib.Algebra.GroupWithZero.Nat
import Mathlib.Data.List.Range

/-! Lists that hold their items group after group, and loops over one group, whose last
item carries a mark. -/

namespace GroupedItems

open WhileLoop

universe u v

section Groups

variable {Item : Type u} {key : Item → ℕ} {items : List Item}

/-- The items of one group. -/
def group (key : Item → ℕ) (items : List Item) (b : ℕ) : List Item :=
  items.filter fun item => key item = b

/-- The items of the groups before this one. -/
def before (key : Item → ℕ) (items : List Item) (b : ℕ) : List Item :=
  items.filter fun item => key item < b

section Cons

variable {item : Item} {b : ℕ}

theorem group_cons (same : key item = b) :
    group key (item :: items) b = item :: group key items b :=
  List.filter_cons_of_pos (decide_eq_true same)

theorem group_skip (other : key item ≠ b) : group key (item :: items) b = group key items b :=
  List.filter_cons_of_neg (by simpa using other)

theorem before_cons (below : key item < b) :
    before key (item :: items) b = item :: before key items b :=
  List.filter_cons_of_pos (decide_eq_true below)

theorem before_skip (above : ¬ key item < b) : before key (item :: items) b = before key items b :=
  List.filter_cons_of_neg (by rwa [decide_eq_true_eq])

end Cons

theorem mem_group {b : ℕ} {item : Item} : item ∈ group key items b ↔ item ∈ items ∧ key item = b := by
  simp [group]

theorem group_eq_nil_iff {b : ℕ} : group key items b = [] ↔ ∀ item ∈ items, key item ≠ b := by
  simp [group, List.filter_eq_nil_iff]

/-- The group follows the ones before it. -/
theorem before_group (sorted : items.Pairwise fun left right => key left ≤ key right) (b : ℕ) :
    before key items (b + 1) = before key items b ++ group key items b := by
  induction items with
  | nil => rfl
  | cons item items ih =>
    obtain ⟨first, rest⟩ := List.pairwise_cons.mp sorted
    have later := ih rest
    rcases Nat.lt_trichotomy (key item) b with below | same | above
    · rw [before_cons (Nat.lt_succ_of_lt below), before_cons below,
        group_skip (Nat.ne_of_lt below), later, List.cons_append]
    · -- nothing of an earlier group is behind an item of this one
      have none : before key items b = [] := by
        rw [before, List.filter_eq_nil_iff]
        intro other member
        have := first other member
        simp only [decide_eq_true_eq]
        omega
      rw [none, List.nil_append] at later
      rw [before_cons (Nat.lt_succ_of_le (Nat.le_of_eq same)),
        before_skip (Nat.not_lt.mpr (Nat.le_of_eq same.symm)), group_cons same, none, later,
        List.nil_append]
    · rw [before_skip (Nat.not_lt.mpr above), before_skip (Nat.lt_asymm above),
        group_skip (Nat.ne_of_gt above), later]

theorem before_eq_self {n : ℕ} (bounded : ∀ item ∈ items, key item < n) :
    before key items n = items := by
  rw [before, List.filter_eq_self]
  exact fun item member => decide_eq_true (bounded item member)

/-- All groups one after the other are the items. -/
theorem flatMap_group (sorted : items.Pairwise fun left right => key left ≤ key right) (n : ℕ) :
    (List.range n).flatMap (group key items) = before key items n := by
  induction n with
  | zero => simp [before]
  | succ n ih =>
    rw [List.range_succ, List.flatMap_append, ih, before_group sorted]
    simp

theorem before_isPrefix (sorted : items.Pairwise fun left right => key left ≤ key right) (b : ℕ) :
    before key items b <+: items := by
  induction items with
  | nil => exact List.prefix_rfl
  | cons item items ih =>
    obtain ⟨first, rest⟩ := List.pairwise_cons.mp sorted
    by_cases below : key item < b
    · rw [before_cons below, List.cons_prefix_cons]
      exact ⟨rfl, ih rest⟩
    · have none : before key (item :: items) b = [] := by
        rw [before, List.filter_eq_nil_iff]
        intro other member
        have : key item ≤ key other := by
          rcases List.mem_cons.mp member with rfl | later
          · exact Nat.le_refl _
          · exact first other later
        simp only [decide_eq_true_eq]
        omega
      rw [none]
      exact List.nil_prefix

/-- The place of an item of a group in the list. -/
theorem getElem?_group (sorted : items.Pairwise fun left right => key left ≤ key right) {b i : ℕ}
    (inside : i < (group key items b).length) :
    items[(before key items b).length + i]? = (group key items b)[i]? := by
  have front := before_isPrefix sorted (b + 1)
  rw [before_group sorted] at front
  have bound : (before key items b).length + i <
      (before key items b ++ group key items b).length := by
    rw [List.length_append]
    exact Nat.add_lt_add_left inside _
  rw [List.prefix_iff_getElem?.mp front _ bound, ← List.getElem?_eq_getElem bound,
    List.getElem?_append_right (Nat.le_add_right _ _), Nat.add_sub_cancel_left]

/-- What a search for items of one group finds among all of them, it finds in the group. -/
theorem find?_group {b : ℕ} {hit : Item → Bool} (own : ∀ item, hit item = true → key item = b) :
    (group key items b).find? hit = items.find? hit := by
  rw [group, List.find?_filter]
  congr 1
  funext item
  cases found : hit item with
  | false => simp
  | true => simp [own item found]

end Groups

section Runs

variable {Index : Type u} {next : Index → Index} {last : Index → Bool} {index : Index}
  {run : List Index}

/-- The indices from this one to the first with the mark. -/
inductive Run (next : Index → Index) (last : Index → Bool) : Index → List Index → Prop where
  | final {index : Index} (marked : last index = true) : Run next last index [index]
  | onward {index : Index} {rest : List Index} (unmarked : last index = false)
      (tail : Run next last (next index) rest) : Run next last index (index :: rest)

theorem Run.head_mem (ends : Run next last index run) : index ∈ run := by
  cases ends with
  | final => exact List.mem_cons_self
  | onward => exact List.mem_cons_self

theorem Run.exists_marked (ends : Run next last index run) : ∃ i ∈ run, last i = true := by
  induction ends with
  | final marked => exact ⟨_, List.mem_cons_self, marked⟩
  | onward _ _ ih =>
    obtain ⟨i, member, marked⟩ := ih
    exact ⟨i, List.mem_cons_of_mem _ member, marked⟩

/-- One round of a loop that puts out something for each index of a run. -/
def collectRound {Output : Type v} (next : Index → Index) (last : Index → Bool)
    (output : Index → Output) (state : List Output × Index) :
    Round (List Output × Index) (List Output) :=
  let past := state.1 ++ [output state.2]
  if last state.2 then .leave past else .again (past, next state.2)

theorem Run.collect {Output : Type v} {output : Index → Output} (ends : Run next last index run)
    {fuel : ℕ} (enough : run.length ≤ fuel) (past : List Output) :
    iterate (collectRound next last output) fuel (past, index) = some (past ++ run.map output) := by
  induction ends generalizing past fuel with
  | final marked =>
    obtain ⟨fuel, rfl⟩ := Nat.exists_eq_add_one_of_ne_zero (Nat.ne_of_gt enough)
    exact iterate_leave (by simp [collectRound, marked]) fuel
  | @onward index rest unmarked tail ih =>
    obtain ⟨fuel, rfl⟩ := Nat.exists_eq_add_one_of_ne_zero
      (Nat.ne_of_gt (Nat.lt_of_lt_of_le (Nat.zero_lt_succ rest.length) enough))
    have goes : collectRound next last output (past, index) =
        .again (past ++ [output index], next index) := by
      simp [collectRound, unmarked]
    rw [iterate_again goes, ih (Nat.le_of_succ_le_succ enough), List.map_cons, List.append_assoc,
      List.singleton_append]

/-- A loop that ends has come along a run. -/
theorem run_of_collect {Output : Type v} {output : Index → Output} {past collected : List Output}
    {fuel : ℕ} (ended : iterate (collectRound next last output) fuel (past, index) =
      some collected) :
    ∃ run, Run next last index run ∧ collected = past ++ run.map output := by
  induction fuel generalizing past index with
  | zero => cases ended
  | succ fuel ih =>
    cases marked : last index with
    | true =>
      have leaves : collectRound next last output (past, index) = .leave (past ++ [output index]) := by
        simp [collectRound, marked]
      rw [iterate_leave leaves] at ended
      cases ended
      exact ⟨[index], .final marked, rfl⟩
    | false =>
      have goes : collectRound next last output (past, index) =
          .again (past ++ [output index], next index) := by
        simp [collectRound, marked]
      rw [iterate_again goes] at ended
      obtain ⟨rest, tail, rfl⟩ := ih ended
      refine ⟨index :: rest, .onward marked tail, ?_⟩
      rw [List.map_cons, List.append_assoc, List.singleton_append]

theorem Run.unique {other : List Index} (left : Run next last index run)
    (right : Run next last index other) : run = other := by
  induction left generalizing other with
  | final marked =>
    cases right with
    | final => rfl
    | onward unmarked => cases marked.symm.trans unmarked
  | onward unmarked _ ih =>
    cases right with
    | final marked => cases marked.symm.trans unmarked
    | onward _ tail => rw [ih tail]

theorem Run.length_pos (ends : Run next last index run) : 0 < run.length :=
  List.length_pos_of_mem ends.head_mem

/-- The runs from several indices, one loop after the other. -/
theorem foldlM_collect {Output : Type v} {output : Index → Output} {starts : List Index}
    {runs : List (List Index)} (all : List.Forall₂ (Run next last) starts runs) {fuel : ℕ}
    (enough : ∀ run ∈ runs, run.length ≤ fuel) (past : List Output) :
    starts.foldlM (fun past start => iterate (collectRound next last output) fuel (past, start))
      past = some (past ++ runs.flatten.map output) := by
  induction all generalizing past with
  | nil => simp
  | @cons start run starts runs ends rest ih =>
    rw [List.foldlM_cons, ends.collect (enough run List.mem_cons_self)]
    simp only [Option.bind_eq_bind, Option.bind_some]
    rw [ih (fun other member => enough other (List.mem_cons_of_mem _ member)), List.flatten_cons,
      List.map_append, List.append_assoc]

theorem runs_of_foldlM {Output : Type v} {output : Index → Output} {starts : List Index} {fuel : ℕ}
    {past collected : List Output}
    (ended : starts.foldlM (fun past start =>
      iterate (collectRound next last output) fuel (past, start)) past = some collected) :
    ∃ runs, List.Forall₂ (Run next last) starts runs ∧
      collected = past ++ runs.flatten.map output := by
  induction starts generalizing past with
  | nil =>
    cases ended
    exact ⟨[], .nil, by simp⟩
  | cons start starts ih =>
    rw [List.foldlM_cons] at ended
    obtain ⟨middle, first, later⟩ := Option.bind_eq_some_iff.mp ended
    obtain ⟨run, ends, rfl⟩ := run_of_collect first
    obtain ⟨runs, rest, rfl⟩ := ih later
    refine ⟨run :: runs, .cons ends rest, ?_⟩
    rw [List.flatten_cons, List.map_append, List.append_assoc]

section Lengths

variable {Start : Type v} {starts : List Start} {runs : List (List Index)} {expected : Start → ℕ}

theorem sum_le_length_flatten
    (least : List.Forall₂ (fun start run => expected start ≤ run.length) starts runs) :
    (starts.map expected).sum ≤ runs.flatten.length := by
  induction least with
  | nil => exact Nat.le_refl _
  | cons here _ ih =>
    rw [List.map_cons, List.sum_cons, List.flatten_cons, List.length_append]
    exact Nat.add_le_add here ih

/-- Runs that are long enough each, and together not longer, have just these lengths. -/
theorem lengths_of_sum
    (least : List.Forall₂ (fun start run => expected start ≤ run.length) starts runs)
    (whole : runs.flatten.length = (starts.map expected).sum) :
    List.Forall₂ (fun start run => expected start = run.length) starts runs := by
  induction least with
  | nil => exact .nil
  | @cons start run starts runs here rest ih =>
    have others := sum_le_length_flatten rest
    rw [List.map_cons, List.sum_cons, List.flatten_cons, List.length_append] at whole
    exact .cons (by omega) (ih (by omega))

end Lengths

/-- One round of a loop that looks for an index in a run. -/
def searchRound (next : Index → Index) (last hit : Index → Bool) (index : Index) :
    Round Index (Option Index) :=
  if hit index then .leave (some index)
  else if last index then .leave none
  else .again (next index)

theorem Run.search {hit : Index → Bool} (ends : Run next last index run) {fuel : ℕ}
    (enough : run.length ≤ fuel) :
    iterate (searchRound next last hit) fuel index = some (run.find? hit) := by
  induction ends generalizing fuel with
  | @final index marked =>
    obtain ⟨fuel, rfl⟩ := Nat.exists_eq_add_one_of_ne_zero (Nat.ne_of_gt enough)
    cases found : hit index with
    | true => exact iterate_leave (by simp [searchRound, found]) fuel
    | false => exact iterate_leave (by simp [searchRound, found, marked]) fuel
  | @onward index rest unmarked tail ih =>
    obtain ⟨fuel, rfl⟩ := Nat.exists_eq_add_one_of_ne_zero
      (Nat.ne_of_gt (Nat.lt_of_lt_of_le (Nat.zero_lt_succ rest.length) enough))
    cases found : hit index with
    | true =>
      rw [List.find?_cons_of_pos found]
      exact iterate_leave (by simp [searchRound, found]) fuel
    | false =>
      have goes : searchRound next last hit index = .again (next index) := by
        simp [searchRound, found, unmarked]
      rw [iterate_again goes, ih (Nat.le_of_succ_le_succ enough),
        List.find?_cons_of_neg (by simp [found])]

/-- Marks on consecutive numbers make a run of them. -/
theorem run_range' {last : ℕ → Bool} {start length : ℕ}
    (unmarked : ∀ i < length, last (start + i) = false) (marked : last (start + length) = true) :
    Run (· + 1) last start (List.range' start (length + 1)) := by
  induction length generalizing start with
  | zero => exact .final marked
  | succ length ih =>
    have first := unmarked 0 (Nat.zero_lt_succ length)
    rw [List.range'_succ]
    refine .onward first (ih (fun i below => ?_) ?_)
    · rw [Nat.add_assoc, Nat.add_comm 1]
      exact unmarked (i + 1) (Nat.succ_lt_succ below)
    · rwa [Nat.add_assoc, Nat.add_comm 1]

/-- A run of other indices that stand for these. -/
theorem Run.map {Other : Type v} {step : Other → Other} {mark : Other → Bool}
    {index : Other} {run : List Other} (ends : Run step mark index run) (number : Other → Index)
    (steps : ∀ i ∈ run, number (step i) = next (number i))
    (marks : ∀ i ∈ run, last (number i) = mark i) :
    Run next last (number index) (run.map number) := by
  induction ends with
  | @final index marked =>
    exact .final ((marks index List.mem_cons_self).trans marked)
  | @onward index rest unmarked tail ih =>
    have later := ih (fun i member => steps i (List.mem_cons_of_mem _ member))
      fun i member => marks i (List.mem_cons_of_mem _ member)
    rw [steps index List.mem_cons_self] at later
    exact .onward ((marks index List.mem_cons_self).trans unmarked) later

end Runs

end GroupedItems
