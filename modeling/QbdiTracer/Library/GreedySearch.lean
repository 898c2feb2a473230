import Mathlib.Data.List.Basic
import Mathlib.Order.Lattice

/-! Leftmost non-overlapping occurrences: the positions of an interval that a
search from the left picks when it goes on `stride` positions after each hit. -/

namespace GreedySearch

variable (hit : Int → Bool) (stride : Nat)

/-- The first hit among `count` positions from `start` on. -/
def first : Int → Nat → Option Int
  | _, 0 => none
  | start, count + 1 => if hit start then some start else first (start + 1) count

/-- The hits picked among `count` positions, the first `skip` of them passed over. -/
def pick : Nat → Int → Nat → List Int
  | _, _, 0 => []
  | skip + 1, start, count + 1 => pick skip (start + 1) count
  | 0, start, count + 1 =>
    if hit start then start :: pick (stride - 1) (start + 1) count else pick 0 (start + 1) count

def greedy (start : Int) (count : Nat) : List Int := pick hit stride 0 start count

variable {hit stride}

theorem pick_skip (skip : Nat) (start : Int) (count : Nat) :
    pick hit stride skip start count = greedy hit stride (start + skip) (count - skip) := by
  induction skip generalizing start count with
  | zero => simp [greedy]
  | succ skip ih =>
    cases count with
    | zero => simp [greedy, pick]
    | succ count =>
      rw [pick, ih]
      congr 1
      · push_cast
        omega
      · omega

theorem greedy_miss {start : Int} (miss : hit start = false) (count : Nat) :
    greedy hit stride start (count + 1) = greedy hit stride (start + 1) count := by
  simp [greedy, pick, miss]

theorem greedy_hit {start : Int} (positive : 0 < stride) (found : hit start = true) (count : Nat) :
    greedy hit stride start (count + 1) =
      start :: greedy hit stride (start + stride) (count + 1 - stride) := by
  have next : greedy hit stride start (count + 1) =
      start :: pick hit stride (stride - 1) (start + 1) count := by
    simp [greedy, pick, found]
  rw [next, pick_skip]
  congr 2
  · omega
  · omega

theorem first_eq_none {start : Int} {count : Nat} (absent : first hit start count = none) :
    greedy hit stride start count = [] := by
  induction count generalizing start with
  | zero => rfl
  | succ count ih =>
    cases found : hit start with
    | true => simp [first, found] at absent
    | false =>
      rw [greedy_miss found]
      exact ih (by simpa [first, found] using absent)

/-- What the first hit is: inside the interval, a hit, and none before it. -/
theorem first_eq_some {start position : Int} {count : Nat}
    (found : first hit start count = some position) :
    start ≤ position ∧ position < start + count ∧ hit position = true := by
  induction count generalizing start with
  | zero => cases found
  | succ count ih =>
    cases here : hit start with
    | true =>
      simp only [first, here, ↓reduceIte, Option.some.injEq] at found
      subst found
      exact ⟨Int.le_refl _, by omega, here⟩
    | false =>
      simp only [first, here, Bool.false_eq_true, ↓reduceIte] at found
      obtain ⟨above, below, hits⟩ := ih found
      exact ⟨by omega, by omega, hits⟩

/-- The search goes on after the first hit. -/
theorem greedy_first {start position : Int} {count : Nat} (positive : 0 < stride)
    (found : first hit start count = some position) :
    greedy hit stride start count = position ::
      greedy hit stride (position + stride) (count - (position - start).toNat - stride) := by
  induction count generalizing start with
  | zero => cases found
  | succ count ih =>
    cases here : hit start with
    | true =>
      simp only [first, here, ↓reduceIte, Option.some.injEq] at found
      subst found
      rw [greedy_hit positive here]
      congr 2
      omega
    | false =>
      simp only [first, here, Bool.false_eq_true, ↓reduceIte] at found
      have inside := first_eq_some found
      rw [greedy_miss here, ih found]
      congr 2
      omega

theorem mem_greedy {start position : Int} {count : Nat} (positive : 0 < stride)
    (picked : position ∈ greedy hit stride start count) :
    start ≤ position ∧ position < start + count ∧ hit position = true := by
  induction count using Nat.strongRecOn generalizing start with
  | ind count ih =>
    cases count with
    | zero => cases picked
    | succ count =>
      cases here : hit start with
      | false =>
        rw [greedy_miss here] at picked
        obtain ⟨above, below, hits⟩ := ih count (Nat.lt_succ_self _) picked
        exact ⟨by omega, by omega, hits⟩
      | true =>
        rw [greedy_hit positive here] at picked
        rcases List.mem_cons.mp picked with rfl | later
        · exact ⟨Int.le_refl _, by omega, here⟩
        · obtain ⟨above, below, hits⟩ := ih _ (by omega) later
          refine ⟨by omega, ?_, hits⟩
          by_cases room : stride ≤ count + 1
          · omega
          · rw [Nat.sub_eq_zero_of_le (by omega)] at later
            cases later

/-- Picked positions are at least a stride apart. -/
theorem greedy_pairwise (positive : 0 < stride) (start : Int) (count : Nat) :
    (greedy hit stride start count).Pairwise fun left right : Int =>
      left + stride ≤ right := by
  induction count using Nat.strongRecOn generalizing start with
  | ind count ih =>
    cases count with
    | zero => exact .nil
    | succ count =>
      cases here : hit start with
      | false =>
        rw [greedy_miss here]
        exact ih count (Nat.lt_succ_self _) _
      | true =>
        rw [greedy_hit positive here]
        refine .cons ?_ (ih _ (by omega) _)
        intro later picked
        exact (mem_greedy positive picked).1

/-- A hit that is not picked lies inside the stride of one that is. -/
theorem greedy_covers {start position : Int} {count : Nat} (positive : 0 < stride)
    (above : start ≤ position) (below : position < start + count) (hits : hit position = true) :
    position ∈ greedy hit stride start count ∨
      ∃ earlier ∈ greedy hit stride start count,
        earlier < position ∧ position < earlier + stride := by
  induction count using Nat.strongRecOn generalizing start with
  | ind count ih =>
    cases count with
    | zero => omega
    | succ count =>
      by_cases same : position = start
      · subst same
        rw [greedy_hit positive hits]
        exact .inl List.mem_cons_self
      cases here : hit start with
      | false =>
        rw [greedy_miss here]
        exact ih count (Nat.lt_succ_self _) (by omega) (by push_cast at below; omega)
      | true =>
        rw [greedy_hit positive here]
        by_cases inside : position < start + stride
        · exact .inr ⟨start, List.mem_cons_self, by omega, inside⟩
        · have later : start + stride ≤ position := by omega
          rcases ih (count + 1 - stride) (by omega) later (by push_cast at below; omega) with
            picked | ⟨earlier, picked, order⟩
          · exact .inl (List.mem_cons_of_mem _ picked)
          · exact .inr ⟨earlier, List.mem_cons_of_mem _ picked, order⟩

/-- The hits of an interval from the left, apart by a stride, such that every other hit lies in
the stride of one of them. -/
structure Leftmost (hit : Int → Bool) (stride : Nat) (start stop : Int) (found : List Int) : Prop where
  occurs : ∀ position ∈ found, start ≤ position ∧ position < stop ∧ hit position = true
  apart : found.Pairwise fun left right : Int => left + stride ≤ right
  covers : ∀ position, start ≤ position → position < stop → hit position = true →
    ∃ earlier ∈ found, earlier ≤ position ∧ position < earlier + stride

theorem leftmost_greedy (positive : 0 < stride) (start : Int) (count : Nat) :
    Leftmost hit stride start (start + count) (greedy hit stride start count) where
  occurs _ picked := mem_greedy positive picked
  apart := greedy_pairwise positive start count
  covers position above below hits := by
    rcases greedy_covers positive above below hits with picked | ⟨earlier, picked, before, inside⟩
    · exact ⟨position, picked, Int.le_refl _, by omega⟩
    · exact ⟨earlier, picked, Int.le_of_lt before, inside⟩

variable {start stop head : Int} {rest found others : List Int}

theorem Leftmost.behind (leftmost : Leftmost hit stride start stop (head :: rest)) :
    Leftmost hit stride (head + stride) stop rest := by
  obtain ⟨ahead, apart⟩ := List.pairwise_cons.mp leftmost.apart
  have begins := (leftmost.occurs head List.mem_cons_self).1
  refine ⟨fun position member => ?_, apart, fun position above below hits => ?_⟩
  · obtain ⟨-, below, hits⟩ := leftmost.occurs position (List.mem_cons_of_mem _ member)
    exact ⟨ahead position member, below, hits⟩
  · obtain ⟨earlier, member, before, inside⟩ := leftmost.covers position (by omega) below hits
    rcases List.mem_cons.mp member with rfl | later
    · omega
    · exact ⟨earlier, later, before, inside⟩

/-- Two such lists begin in the same place. -/
theorem Leftmost.head_le {other : Int} (left : Leftmost hit stride start stop (head :: rest))
    (right : Leftmost hit stride start stop (other :: others)) : head ≤ other := by
  obtain ⟨above, below, hits⟩ := right.occurs other List.mem_cons_self
  obtain ⟨earlier, member, before, -⟩ := left.covers other above below hits
  rcases List.mem_cons.mp member with rfl | later
  · exact before
  · have ahead := (List.pairwise_cons.mp left.apart).1 earlier later
    omega

theorem Leftmost.of_nil (leftmost : Leftmost hit stride start stop []) {position : Int}
    (above : start ≤ position) (below : position < stop) : hit position = false := by
  by_contra hits
  obtain ⟨earlier, member, -⟩ := leftmost.covers position above below (Bool.not_eq_false _ ▸ hits)
  cases member

theorem Leftmost.unique (left : Leftmost hit stride start stop found)
    (right : Leftmost hit stride start stop others) : found = others := by
  induction found generalizing start others with
  | nil =>
    cases others with
    | nil => rfl
    | cons other others =>
      obtain ⟨above, below, hits⟩ := right.occurs other List.mem_cons_self
      rw [left.of_nil above below] at hits
      cases hits
  | cons head rest ih =>
    cases others with
    | nil =>
      obtain ⟨above, below, hits⟩ := left.occurs head List.mem_cons_self
      rw [right.of_nil above below] at hits
      cases hits
    | cons other others =>
      obtain rfl : head = other := Int.le_antisymm (left.head_le right) (right.head_le left)
      rw [ih left.behind right.behind]

end GreedySearch
