import Mathlib.Algebra.BigOperators.Group.List.Basic
import Mathlib.Data.List.Infix
import TensorCapture.Library.Rearrangement
import TensorCapture.Proofs.Positions.Volume

set_option autoImplicit false

/-! # Completions of a request

A view asks for extents, one of which may be left open. A completion is a choice of the open extent
that makes as many positions as the tensor has. With no extent left open there is at most one. With
one left open the others decide: where they make a positive product, there is one completion if
the product divides the number of positions, and where they make zero, any choice completes the
request or none does.
-/

namespace TensorCapture

/-! ## Products from the left -/

namespace Word

/-- The integer is that of a signed word. -/
def FitsSigned (i : Int) : Prop := -2 ^ 63 ≤ i ∧ i < 2 ^ 63

instance (i : Int) : Decidable (FitsSigned i) := inferInstanceAs (Decidable (_ ∧ _))

theorem ofInt?_eq_some {i : Int} (h : FitsSigned i) :
    ∃ word, ofInt? i = some word ∧ word.toInt = i := by
  obtain ⟨hlower, hupper⟩ := h
  have hleast : Int64.minValue.toInt = -2 ^ 63 := by decide
  have hgreatest : Int64.maxValue.toInt = 2 ^ 63 - 1 := by decide
  refine ⟨Int64.ofInt i, if_pos ?_, Int64.toInt_ofInt_of_le hlower hupper⟩
  rw [hleast, hgreatest]
  omega

/-- A product of signed words has a value where the products of all beginnings fit. -/
theorem productSigned?_eq_some {xs : List Int64}
    (h : ∀ ys, ys <+: xs → FitsSigned (ys.map Int64.toInt).prod) :
    ∃ word, productSigned? xs = some word ∧ word.toInt = (xs.map Int64.toInt).prod := by
  induction xs using List.reverseRecOn with
  | nil => exact ⟨1, rfl, rfl⟩
  | append_singleton xs x ih =>
      obtain ⟨word, hword, hvalue⟩ :=
        ih fun ys hys => h ys (hys.trans (List.prefix_append xs [x]))
      -- the whole is a beginning too, so the last step fits
      have hfits : FitsSigned ((xs ++ [x]).map Int64.toInt).prod := h _ (List.prefix_refl _)
      have hlast : ((xs ++ [x]).map Int64.toInt).prod = word.toInt * x.toInt := by simp [hvalue]
      rw [hlast] at hfits ⊢
      obtain ⟨product, hproduct, hvalue'⟩ := ofInt?_eq_some hfits
      refine ⟨product, ?_, hvalue'⟩
      have hstep : mulSigned? word x = some product := hproduct
      unfold productSigned? at hword ⊢
      rw [List.foldlM_append, hword]
      simp [hstep]

end Word

namespace Kernel

/-! ## Requests -/

/-- The argument is this integer, or the truth value that counts as it. -/
inductive Spells : Value → Int64 → Prop
  | int (i : Int64) : Spells (.int i) i
  | bool (b : Bool) : Spells (.bool b) (if b then 1 else 0)

/-- The arguments ask for these extents: one by one, in one sequence, or as those of a tensor. -/
inductive Requests : List Value → List Int64 → Prop
  | separate {items : List Value} {requested : List Int64}
      (h : List.Forall₂ Spells items requested) : Requests items requested
  | tuple {items : List Value} {requested : List Int64}
      (h : List.Forall₂ Spells items requested) : Requests [.tuple items] requested
  | list {items : List Value} {requested : List Int64}
      (h : List.Forall₂ Spells items requested) : Requests [.list items] requested
  | size (extents : List Nat) : Requests [.size extents] (extents.map Word.signed)

variable {items args : List Value} {requested : List Int64}

theorem integerOf_of_spells {v : Value} {i : Int64} (h : Spells v i) : integerOf v = .ok i := by
  cases h with
  | int => rfl
  | bool b => rfl

theorem integersOf_of_spells (h : List.Forall₂ Spells items requested) :
    items.mapM integerOf = .ok requested := by
  induction h with
  | nil => rfl
  | cons hitem _ ih =>
      rw [List.mapM_cons, integerOf_of_spells hitem, ih]
      rfl

/-- No sequence counts as an integer, so a lone one is not mistaken for an extent. -/
theorem signedShapeOf_of_requests (h : Requests args requested) :
    signedShapeOf args = .ok requested := by
  cases h with
  | separate hitems =>
      have hread := integersOf_of_spells hitems
      cases hitems with
      | nil => exact hread
      | cons hitem hrest =>
          cases hitem with
          | int i => exact hread
          | bool b => exact hread
  | tuple hitems => exact integersOf_of_spells hitems
  | list hitems => exact integersOf_of_spells hitems
  | size extents => rfl

/-! ## The extents that a request stands for -/

/-- The product of the extents that are not left open. -/
def knownVolume (requested : List Int64) : Int :=
  ((requested.filter (· ≠ -1)).map Int64.toInt).prod

/-- From the left, the products of the extents that are not left open are signed words. -/
def ProductsFit (requested : List Int64) : Prop :=
  ∀ known, known <+: requested.filter (· ≠ -1) → Word.FitsSigned (known.map Int64.toInt).prod

theorem productsFit_iff : ProductsFit requested ↔
    ∀ known ∈ (requested.filter (· ≠ -1)).inits, Word.FitsSigned (known.map Int64.toInt).prod := by
  simp only [List.mem_inits]
  rfl

instance (requested : List Int64) : Decidable (ProductsFit requested) :=
  decidable_of_iff _ productsFit_iff.symm

/-- The extent is as asked for, or was left open. -/
def Grants (d : Int64) (n : Nat) : Prop := d = -1 ∨ d.toInt = n

/-- A choice of the open extents that makes so many positions; the others are as asked for. -/
def Completes (requested : List Int64) (count : Nat) (extents : List Nat) : Prop :=
  List.Forall₂ Grants requested extents ∧ Shape.volume extents = count

variable {count n m : Nat} {extents size : List Nat} {d : Int64}

theorem chosenExtent_open (n : Nat) : chosenExtent n (-1) = n := if_pos rfl

theorem chosenExtent_known (h : d ≠ -1) (n : Nat) : chosenExtent n d = d.toInt.toNat := if_neg h

theorem map_chosenExtent_congr (h : requested.count (-1) = 0) (n m : Nat) :
    requested.map (chosenExtent n) = requested.map (chosenExtent m) := by
  refine List.map_congr_left fun d hd => ?_
  have hknown : d ≠ -1 := by
    rintro rfl
    exact List.count_eq_zero.mp h hd
  rw [chosenExtent_known hknown, chosenExtent_known hknown]

/-- Different choices of the open extent make different shapes. -/
theorem eq_of_map_chosenExtent_eq (hopen : -1 ∈ requested)
    (h : requested.map (chosenExtent n) = requested.map (chosenExtent m)) : n = m := by
  have heq : chosenExtent n (-1) = chosenExtent m (-1) := List.map_inj_left.mp h (-1) hopen
  rwa [chosenExtent_open, chosenExtent_open] at heq

/-- Each open extent counts once. -/
theorem volume_map_chosenExtent (n : Nat) (requested : List Int64) :
    Shape.volume (requested.map (chosenExtent n)) = n ^ requested.count (-1) *
      Shape.volume ((requested.filter (· ≠ -1)).map fun d => d.toInt.toNat) := by
  induction requested with
  | nil => rfl
  | cons d rest ih =>
      rw [List.map_cons, Shape.volume_cons, ih]
      by_cases hopen : d = -1
      · subst hopen
        rw [chosenExtent_open, List.count_cons_self, List.filter_cons_of_neg (by simp)]
        ring
      · rw [chosenExtent_known hopen, List.count_cons_of_ne hopen,
          List.filter_cons_of_pos (by simpa using hopen), List.map_cons, Shape.volume_cons]
        ring

/-- Extents below zero are taken for zero, so the volume is at most the product of all. -/
theorem volume_toNat_le (xs : List Int64) :
    Shape.volume (xs.map fun d => d.toInt.toNat) ≤ (xs.map Int64.toInt).prod.natAbs := by
  induction xs with
  | nil => exact Nat.le_refl 1
  | cons d rest ih =>
      rw [List.map_cons, List.map_cons, Shape.volume_cons, List.prod_cons, Int.natAbs_mul]
      have hfirst : d.toInt.toNat ≤ d.toInt.natAbs := by omega
      exact Nat.mul_le_mul hfirst ih

theorem volume_toNat {xs : List Int64} (h : ∀ d ∈ xs, 0 ≤ d.toInt) :
    (Shape.volume (xs.map fun d => d.toInt.toNat) : Int) = (xs.map Int64.toInt).prod := by
  induction xs with
  | nil => rfl
  | cons d rest ih =>
      obtain ⟨hfirst, hrest⟩ := List.forall_mem_cons.mp h
      rw [List.map_cons, List.map_cons, Shape.volume_cons, List.prod_cons, ← ih hrest,
        Nat.cast_mul, Int.toNat_of_nonneg hfirst]

/-- Where no extent is below `-1`, those other than `-1` are not negative. -/
theorem known_nonneg (hleast : ∀ d ∈ requested, -1 ≤ d.toInt) :
    ∀ d ∈ requested.filter (· ≠ -1), 0 ≤ d.toInt := by
  intro d hd
  obtain ⟨hmem, hne⟩ := List.mem_filter.mp hd
  have hminus : d.toInt ≠ -1 := fun h => (of_decide_eq_true hne) (Int64.toInt_inj.mp h)
  have hlower : -1 ≤ d.toInt := hleast d hmem
  omega

theorem volume_map_eq_knownVolume (hleast : ∀ d ∈ requested, -1 ≤ d.toInt) (n : Nat) :
    Shape.volume (requested.map (chosenExtent n)) =
      n ^ requested.count (-1) * (knownVolume requested).toNat := by
  have hknown := volume_toNat (known_nonneg hleast)
  rw [volume_map_chosenExtent]
  congr 1
  unfold knownVolume
  rw [← hknown, Int.toNat_natCast]

/-- An extent below `-1` leaves no positions. -/
theorem least_of_volume_ne_zero (h : Shape.volume (requested.map (chosenExtent n)) ≠ 0) :
    ∀ d ∈ requested, -1 ≤ d.toInt := by
  intro d hd
  by_contra hbelow
  have hpositive := Shape.volume_pos_iff.mp (Nat.pos_of_ne_zero h) _ (List.mem_map_of_mem hd)
  have hknown : d ≠ -1 := by
    rintro rfl
    exact hbelow (by decide)
  rw [chosenExtent_known hknown] at hpositive
  omega

/-- Completions differ in the choice of the one open extent alone. -/
theorem forall₂_iff_chosenExtent (hcount : requested.count (-1) ≤ 1)
    (hleast : ∀ d ∈ requested, -1 ≤ d.toInt) :
    List.Forall₂ Grants requested extents ↔
      ∃ n, extents = requested.map (chosenExtent n) := by
  induction requested generalizing extents with
  | nil => simp
  | cons d rest ih =>
      obtain ⟨hfirst, hrest⟩ := List.forall_mem_cons.mp hleast
      have hcount' : rest.count (-1) ≤ 1 := by
        have hle : rest.count (-1) ≤ (d :: rest).count (-1) := List.count_le_count_cons
        omega
      have hchosen : ∀ m, Grants d (chosenExtent m d) := by
        intro m
        by_cases hopen : d = -1
        · exact .inl hopen
        · have hminus : d.toInt ≠ -1 := fun h => hopen (Int64.toInt_inj.mp h)
          rw [chosenExtent_known hopen]
          exact .inr (by omega)
      constructor
      · intro h
        cases h with
        | cons hd htail =>
            rename_i n extents
            obtain ⟨m, rfl⟩ := (ih hcount' hrest).mp htail
            by_cases hopen : d = -1
            · subst hopen
              -- nothing behind the open extent is open, so any choice gives the same there
              rw [List.count_cons_self] at hcount
              refine ⟨n, ?_⟩
              rw [List.map_cons, chosenExtent_open, map_chosenExtent_congr (by omega) n m]
            · have hvalue : d.toInt = n := hd.resolve_left hopen
              refine ⟨m, ?_⟩
              rw [List.map_cons, chosenExtent_known hopen, hvalue, Int.toNat_natCast]
      · rintro ⟨m, rfl⟩
        exact .cons (hchosen m) ((ih hcount' hrest).mpr ⟨m, rfl⟩)

theorem completes_iff (hcount : requested.count (-1) ≤ 1)
    (hleast : ∀ d ∈ requested, -1 ≤ d.toInt) :
    Completes requested count extents ↔
      ∃ n, extents = requested.map (chosenExtent n) ∧
        n ^ requested.count (-1) * (knownVolume requested).toNat = count := by
  unfold Completes
  rw [forall₂_iff_chosenExtent hcount hleast]
  constructor
  · rintro ⟨⟨n, rfl⟩, hvolume⟩
    rw [volume_map_eq_knownVolume hleast] at hvolume
    exact ⟨n, rfl, hvolume⟩
  · rintro ⟨n, rfl, hvolume⟩
    rw [← volume_map_eq_knownVolume hleast] at hvolume
    exact ⟨⟨n, rfl⟩, hvolume⟩

/-- Nothing completes a request for an extent below `-1`. -/
theorem least_of_completes (h : Completes requested count extents) :
    ∀ d ∈ requested, -1 ≤ d.toInt := by
  obtain ⟨hgrants, -⟩ := h
  induction hgrants with
  | nil => simp
  | cons hgrant _ ih =>
      refine List.forall_mem_cons.mpr ⟨?_, ih⟩
      rcases hgrant with rfl | hvalue
      · decide
      · omega

/-- With no extent left open there is one completion, or none. -/
theorem existsUnique_completes_of_closed (hclosed : requested.count (-1) = 0)
    (hleast : ∀ d ∈ requested, -1 ≤ d.toInt) :
    (∃! extents, Completes requested count extents) ↔
      Shape.volume (requested.map (chosenExtent n)) = count := by
  have hcompletes : ∀ extents, Completes requested count extents ↔
      extents = requested.map (chosenExtent n) ∧
        Shape.volume (requested.map (chosenExtent n)) = count := by
    intro extents
    rw [completes_iff (by omega) hleast, volume_map_eq_knownVolume hleast, hclosed]
    constructor
    · rintro ⟨m, rfl, hvolume⟩
      exact ⟨map_chosenExtent_congr hclosed m n, by simpa using hvolume⟩
    · rintro ⟨rfl, hvolume⟩
      exact ⟨n, rfl, by simpa using hvolume⟩
  simp only [hcompletes]
  constructor
  · rintro ⟨extents, ⟨-, hvolume⟩, -⟩
    exact hvolume
  · intro hvolume
    exact ⟨_, ⟨rfl, hvolume⟩, fun extents h => h.1⟩

/-- With one extent left open there is exactly one completion where the others make a positive
product, and dividing by it leaves nothing over. A product of zero allows any choice or none. -/
theorem existsUnique_completes_of_open (hopen : requested.count (-1) = 1)
    (hleast : ∀ d ∈ requested, -1 ≤ d.toInt) :
    (∃! extents, Completes requested count extents) ↔
      0 < knownVolume requested ∧ Shape.volume
        (requested.map (chosenExtent (count / (knownVolume requested).toNat))) = count := by
  have hmem : -1 ∈ requested := List.count_pos_iff.mp (by omega)
  rw [volume_map_eq_knownVolume hleast, hopen, Nat.pow_one]
  simp only [completes_iff (Nat.le_of_eq hopen) hleast, hopen, Nat.pow_one]
  constructor
  · rintro ⟨extents, ⟨n, rfl, hvolume⟩, hunique⟩
    have hpositive : 0 < (knownVolume requested).toNat := by
      -- a product of zero would be completed by the next choice as well
      refine Nat.pos_of_ne_zero fun hzero => ?_
      rw [hzero, Nat.mul_zero] at hvolume
      have hother := hunique (requested.map (chosenExtent (n + 1)))
        ⟨n + 1, rfl, by rw [hzero, Nat.mul_zero, hvolume]⟩
      have hsame : n + 1 = n := eq_of_map_chosenExtent_eq hmem hother
      omega
    have hquotient : count / (knownVolume requested).toNat = n := by
      rw [← hvolume, Nat.mul_div_cancel _ hpositive]
    rw [hquotient]
    exact ⟨by omega, hvolume⟩
  · rintro ⟨hpositive, hvolume⟩
    have hpositive' : 0 < (knownVolume requested).toNat := by omega
    refine ⟨_, ⟨_, rfl, hvolume⟩, ?_⟩
    rintro extents ⟨m, rfl, hm⟩
    have hquotient : count / (knownVolume requested).toNat = m := by
      rw [← hm, Nat.mul_div_cancel _ hpositive']
    rw [hquotient]

end Kernel

end TensorCapture
