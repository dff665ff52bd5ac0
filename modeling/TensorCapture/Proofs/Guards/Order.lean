import TensorCapture.Proofs.Guards.Algebra

set_option autoImplicit false

/-! # The order in which guards are evaluated

The checks of types come first, then those of identities, then those of constants, and the checks
of tensors come last; within a rank the guards stay in the order in which they came. This says
exactly one order. A list that is sorted by rank is known once its guards of each rank are known,
in their order, and a stable sort leaves them as they are.

So two facts about a list of guards say which order it is evaluated in: that it is sorted, and what
its ranks are. Both are kept when guards are left out. Union leaves the members of the first set as
they were, hence it leaves their order of evaluation as it was too, whatever comes between them.
-/

namespace TensorCapture

/-! ## Lists sorted by a key -/

section Keys

variable {α : Type} {key : α → Nat} {xs ys : List α} {a b : α}

/-- The first item of a sorted list has the least key in it. -/
theorem key_le_of_sorted (h : (a :: xs).Pairwise fun a b => key a ≤ key b) (hb : b ∈ a :: xs) :
    key a ≤ key b := by
  rcases List.mem_cons.mp hb with rfl | hb
  · exact Nat.le_refl _
  · exact (List.pairwise_cons.mp h).1 b hb

theorem mem_of_filter_key_eq (h : ∀ k, xs.filter (key · = k) = ys.filter (key · = k))
    (hb : b ∈ ys) : b ∈ xs := by
  have hpart : b ∈ ys.filter (key · = key b) := by simp [hb]
  rw [← h] at hpart
  exact (List.mem_filter.mp hpart).1

/-- Sorted lists are equal if their parts with one key are, for each key. -/
theorem eq_of_filter_key_eq (hxs : xs.Pairwise fun a b => key a ≤ key b)
    (hys : ys.Pairwise fun a b => key a ≤ key b)
    (h : ∀ k, xs.filter (key · = k) = ys.filter (key · = k)) : xs = ys := by
  induction xs generalizing ys with
  | nil =>
      cases ys with
      | nil => rfl
      | cons b ys =>
          have hb : b ∈ [] := mem_of_filter_key_eq h List.mem_cons_self
          cases hb
  | cons a xs ih =>
      cases ys with
      | nil =>
          have ha : a ∈ [] := mem_of_filter_key_eq (fun k => (h k).symm) List.mem_cons_self
          cases ha
      | cons b ys =>
          -- each of the first items has the least key, so both are first in one part
          have hb : b ∈ a :: xs := mem_of_filter_key_eq h List.mem_cons_self
          have ha : a ∈ b :: ys := mem_of_filter_key_eq (fun k => (h k).symm) List.mem_cons_self
          have hkeys : key b = key a :=
            Nat.le_antisymm (key_le_of_sorted hys ha) (key_le_of_sorted hxs hb)
          have hparts := h (key a)
          rw [List.filter_cons_of_pos (by simp), List.filter_cons_of_pos (by simp [hkeys])]
            at hparts
          have heq : a = b := (List.cons.inj hparts).1
          subst heq
          have hrest (k : Nat) : xs.filter (key · = k) = ys.filter (key · = k) := by
            have hk := h k
            rw [List.filter_cons, List.filter_cons] at hk
            split at hk
            · exact (List.cons.inj hk).2
            · exact hk
          rw [ih (List.pairwise_cons.mp hxs).2 (List.pairwise_cons.mp hys).2 hrest]

theorem keyLE_trans (key : α → Nat) (a b c : α) (hab : decide (key a ≤ key b) = true)
    (hbc : decide (key b ≤ key c) = true) : decide (key a ≤ key c) = true :=
  decide_eq_true (Nat.le_trans (of_decide_eq_true hab) (of_decide_eq_true hbc))

theorem keyLE_total (key : α → Nat) (a b : α) :
    (decide (key a ≤ key b) || decide (key b ≤ key a)) = true := by
  simp only [Bool.or_eq_true, decide_eq_true_eq]
  exact Nat.le_total (key a) (key b)

theorem pairwise_mergeSort_key (key : α → Nat) (xs : List α) :
    (xs.mergeSort fun a b => key a ≤ key b).Pairwise fun a b => key a ≤ key b :=
  (List.pairwise_mergeSort (keyLE_trans key) (keyLE_total key) xs).imp of_decide_eq_true

/-- Sorting by a key leaves the items with one key in their order. -/
theorem filter_mergeSort_key (key : α → Nat) (xs : List α) (k : Nat) :
    (xs.mergeSort fun a b => key a ≤ key b).filter (key · = k) = xs.filter (key · = k) := by
  have hsorted : (xs.filter (key · = k)).Pairwise fun a b => decide (key a ≤ key b) = true := by
    rw [List.pairwise_filter]
    refine List.pairwise_of_forall fun a b ha hb => ?_
    have hkeys : key a = key b := (of_decide_eq_true ha).trans (of_decide_eq_true hb).symm
    exact decide_eq_true (Nat.le_of_eq hkeys)
  -- the part is sorted already, so it is found in the sorted list, and there is no more of it
  have hwithin : (xs.filter (key · = k)).Sublist (xs.mergeSort fun a b => key a ≤ key b) :=
    List.sublist_mergeSort (keyLE_trans key) (keyLE_total key) hsorted List.filter_sublist
  have hpart : (xs.filter (key · = k)).Sublist
      ((xs.mergeSort fun a b => key a ≤ key b).filter (key · = k)) := by
    simpa using hwithin.filter (key · = k)
  have hlength := ((List.mergeSort_perm xs fun a b => key a ≤ key b).filter (key · = k)).length_eq
  exact (hpart.eq_of_length hlength.symm).symm

/-- Where a list is sorted by a key, the items with a key follow those with a lower one. -/
theorem filter_lt_succ_key (h : xs.Pairwise fun a b => key a ≤ key b) (k : Nat) :
    xs.filter (key · < k + 1) = xs.filter (key · < k) ++ xs.filter (key · = k) := by
  induction xs with
  | nil => rfl
  | cons a xs ih =>
      obtain ⟨hleast, hxs⟩ := List.pairwise_cons.mp h
      have hrest := ih hxs
      by_cases ha : key a < k
      · have hle : key a < k + 1 := Nat.lt_succ_of_lt ha
        have hne : ¬key a = k := Nat.ne_of_lt ha
        simp only [List.filter_cons, ha, hle, hne, hrest, decide_true, decide_false, if_true,
          Bool.false_eq_true, if_false, List.cons_append]
      · -- no key that follows is lower
        have hnone : xs.filter (key · < k) = [] := by
          rw [List.filter_eq_nil_iff]
          intro b hb
          have hab := hleast b hb
          simp only [decide_eq_true_eq]
          omega
        rw [hnone, List.nil_append] at hrest
        have hiff : key a < k + 1 ↔ key a = k := by omega
        simp only [List.filter_cons, ha, hiff, hnone, hrest, decide_false, Bool.false_eq_true,
          if_false, List.nil_append]

end Keys

/-! ## Evaluation orders -/

theorem Check.priority_eq_iff (c : Check) :
    (c.priority = 0 ↔ c = .typeMatch) ∧
    (c.priority = 1 ↔ c = .idMatch ∨ c = .functionMatch) ∧
    (c.priority = 2 ↔ c = .constantMatch) ∧
    (c.priority = 3 ↔ c = .tensorMatch) := by
  cases c <;> decide

theorem Check.priority_lt (c : Check) : c.priority < 4 := by
  cases c <;> decide

namespace GuardSet

variable {s t : GuardSet} {order : List Guard}

/-- The list has the members of the set, sorted by rank, and those of each rank are in the order in
which they came. -/
structure IsEvaluationOrder (s : GuardSet) (order : List Guard) : Prop where
  perm : order.Perm s.members
  sorted : order.Pairwise fun g h => g.check.priority ≤ h.check.priority
  stable (rank : Nat) : order.filter (·.check.priority = rank) =
    s.members.filter (·.check.priority = rank)

theorem isEvaluationOrder_ordered (s : GuardSet) : s.IsEvaluationOrder s.ordered where
  perm := List.mergeSort_perm s.members _
  sorted := pairwise_mergeSort_key (fun g : Guard => g.check.priority) s.members
  stable rank := filter_mergeSort_key (fun g : Guard => g.check.priority) s.members rank

/-- A sorted list with the ranks of the set is the set in evaluation order. -/
theorem eq_ordered (hsorted : order.Pairwise fun g h => g.check.priority ≤ h.check.priority)
    (hstable : ∀ rank, order.filter (·.check.priority = rank) =
      s.members.filter (·.check.priority = rank)) : order = s.ordered := by
  have hordered := s.isEvaluationOrder_ordered
  exact eq_of_filter_key_eq hsorted hordered.sorted fun rank =>
    (hstable rank).trans (hordered.stable rank).symm

theorem isEvaluationOrder_iff : s.IsEvaluationOrder order ↔ order = s.ordered := by
  constructor
  · intro h
    exact eq_ordered h.sorted h.stable
  · intro h
    rw [h]
    exact s.isEvaluationOrder_ordered

/-- To leave out guards does not change the order of the others. -/
theorem filter_ordered (s : GuardSet) (p : Guard → Bool) :
    s.ordered.filter p = ordered ⟨s.members.filter p⟩ := by
  have hordered := s.isEvaluationOrder_ordered
  refine eq_ordered (hordered.sorted.sublist List.filter_sublist) fun rank => ?_
  rw [List.filter_comm, hordered.stable rank, List.filter_comm]

/-- The set in evaluation order is its ranks, one behind the other. -/
theorem ordered_eq_ranks (s : GuardSet) :
    s.ordered = s.members.filter (·.check.priority = 0) ++
      s.members.filter (·.check.priority = 1) ++ s.members.filter (·.check.priority = 2) ++
      s.members.filter (·.check.priority = 3) := by
  have hordered := s.isEvaluationOrder_ordered
  have hsplit := filter_lt_succ_key hordered.sorted
  have hall : s.ordered.filter (·.check.priority < 3 + 1) = s.ordered := by
    rw [List.filter_eq_self]
    intro g _
    exact decide_eq_true g.check.priority_lt
  have hnone : s.ordered.filter (·.check.priority < 0) = [] := by simp
  rw [← hall, hsplit 3, hsplit 2, hsplit 1, hsplit 0, hnone, List.nil_append]
  simp only [hordered.stable]

/-- Nothing is evaluated before a check of a type but checks of types. -/
theorem typeMatch_first (s : GuardSet) :
    s.ordered.Pairwise fun g h => h.check = .typeMatch → g.check = .typeMatch := by
  refine s.isEvaluationOrder_ordered.sorted.imp fun {g h} hle hh => ?_
  have hleast : g.check.priority = 0 := by
    have hzero := h.check.priority_eq_iff.1.mpr hh
    omega
  exact g.check.priority_eq_iff.1.mp hleast

/-- Of the members of a union, those of the first set are left as they were. -/
theorem filter_mem_union (s t : GuardSet) : (s ∪ t).members.filter (· ∈ s) = s.members := by
  have hmembers : (s ∪ t).members = s.members ++ t.members.eraseDups.filter (· ∉ s) :=
    members_foldl_insert s t.members
  have hold : s.members.filter (· ∈ s) = s.members := by
    simp [mem_def]
  have hnew : (t.members.eraseDups.filter (· ∉ s)).filter (· ∈ s) = [] := by
    simp
  rw [hmembers, List.filter_append, hold, hnew, List.append_nil]

/-- What a union adds does not change the order of what was there. -/
theorem filter_ordered_union (s t : GuardSet) : (s ∪ t).ordered.filter (· ∈ s) = s.ordered := by
  calc (s ∪ t).ordered.filter (· ∈ s)
      = ordered ⟨(s ∪ t).members.filter (· ∈ s)⟩ := filter_ordered (s ∪ t) (· ∈ s)
    _ = s.ordered := by rw [filter_mem_union]

end GuardSet

open GuardSet

/-- **There is one evaluation order, and union keeps it.** The members of a set can be put in one
way only into a list that is sorted by rank and leaves the guards of each rank in the order in which
they came. It has the checks of types first, behind them those of identities and functions, then
those of constants, and last those of tensors. So nothing but checks of types comes before a check
of a type. To unite the set with another one puts guards into any of the ranks, but the guards that
were there stay in the order that they had. -/
theorem evaluation_order_unique (s t : GuardSet) :
    (∀ order, s.IsEvaluationOrder order ↔ order = s.ordered) ∧
    s.ordered = s.members.filter (·.check = .typeMatch) ++
      s.members.filter (fun g => g.check = .idMatch ∨ g.check = .functionMatch) ++
      s.members.filter (·.check = .constantMatch) ++ s.members.filter (·.check = .tensorMatch) ∧
    s.ordered.Pairwise (fun g h => h.check = .typeMatch → g.check = .typeMatch) ∧
    (s ∪ t).ordered.filter (· ∈ s) = s.ordered := by
  refine ⟨fun order => isEvaluationOrder_iff, ?_, s.typeMatch_first, filter_ordered_union s t⟩
  have hranks := s.ordered_eq_ranks
  simpa only [(Check.priority_eq_iff _).1, (Check.priority_eq_iff _).2.1,
    (Check.priority_eq_iff _).2.2.1, (Check.priority_eq_iff _).2.2.2] using hranks

/-- A check of metadata that came first is evaluated last. -/
example : (ofList [.lasting (.local "x") .tensorMatch,
    .lasting (.member (.local "x") "shape") .constantMatch,
    .lasting (.local "x") .typeMatch]).ordered.map Guard.check =
      [.typeMatch, .constantMatch, .tensorMatch] := by
  rw [ordered_eq_ranks]
  decide

end TensorCapture
