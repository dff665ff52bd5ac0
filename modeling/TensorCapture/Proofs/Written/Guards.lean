import TensorCapture.Proofs.Written.Documents
import TensorCapture.Stored.Guard

set_option autoImplicit false

/-! # Sets of guards are read back

A set of guards that is stored as a text is read back as it was, with its members in their order,
provided that the document is not too deep for the reader: the set, its array and each guard take
one level, and so does the innermost source, while each further step of a source takes two.
-/

namespace TensorCapture

/-! ## Sources -/

theorem Stored.naturalBelow?_natural {n bound : Nat} (h : n < bound) :
    Stored.naturalBelow? bound (.natural n) = some n := by
  have hfits : (0 : Int) ≤ n ∧ (n : Int) < bound := by omega
  exact if_pos hfits

namespace Source

/-- The number of steps from the variable to the value. -/
def depth : Source → Nat
  | .local _ => 0
  | .global _ => 0
  | .member base _ => base.depth + 1
  | .item base _ => base.depth + 1

/-- The numbers of items in the source are words. -/
def HasWords : Source → Prop
  | .local _ => True
  | .global _ => True
  | .member base _ => base.HasWords
  | .item base index => base.HasWords ∧ index < Word.bound

variable {s : Source}

theorem exact_toJson (h : s.HasWords) : s.toJson.Exact := by
  induction s with
  | «local» name => exact .object (by simpa using .text name)
  | global name => exact .object (by simpa using .text name)
  | member base name ih =>
      have hparts : (Json.object [("base", base.toJson), ("member", .text name)]).Exact :=
        .object (by simpa using ⟨ih h, .text name⟩)
      exact .object (by simpa using hparts)
  | item base index ih =>
      have hparts : (Json.object [("base", base.toJson), ("index", .natural index)]).Exact :=
        .object (by simpa using ⟨ih h.1, Json.exact_natural h.2⟩)
      exact .object (by simpa using hparts)

/-- A stored source is read back where there are levels for all of its steps. -/
theorem ofJson?_toJson (h : s.HasWords) (levels : Nat) :
    ofJson? levels s.toJson = if 2 * s.depth < levels then some s else none := by
  induction s generalizing levels with
  | «local» name =>
      cases levels with
      | zero => rfl
      | succ levels => rfl
  | global name =>
      cases levels with
      | zero => rfl
      | succ levels => rfl
  | member base name ih =>
      rcases levels with _ | _ | levels
      · rfl
      · have hdeep : ¬2 * (base.depth + 1) < 1 := by omega
        exact (if_neg hdeep).symm
      · show (ofJson? levels base.toJson).bind (fun base => some (base.member name)) =
          if 2 * (base.depth + 1) < levels + 2 then some (base.member name) else none
        rw [ih h levels]
        by_cases hdepth : 2 * base.depth < levels
        · rw [if_pos hdepth, if_pos (by omega)]
          rfl
        · rw [if_neg hdepth, if_neg (by omega)]
          rfl
  | item base index ih =>
      rcases levels with _ | _ | levels
      · rfl
      · have hdeep : ¬2 * (base.depth + 1) < 1 := by omega
        exact (if_neg hdeep).symm
      · show (ofJson? levels base.toJson).bind (fun base =>
            (Stored.naturalBelow? Word.bound (.natural index)).bind fun index =>
              some (base.item index)) =
          if 2 * (base.depth + 1) < levels + 2 then some (base.item index) else none
        rw [ih h.1 levels, Stored.naturalBelow?_natural h.2]
        by_cases hdepth : 2 * base.depth < levels
        · rw [if_pos hdepth, if_pos (by omega)]
          rfl
        · rw [if_neg hdepth, if_neg (by omega)]
          rfl

end Source

/-! ## Guards -/

namespace Guard

variable {g : Guard}

theorem exact_toJson (h : g.source.HasWords) : g.toJson.Exact := by
  have hcheck : (Stored.bare g.check.tag).Exact := .text g.check.tag
  exact .object (by simpa using ⟨Source.exact_toJson h, hcheck, .bool g.volatile⟩)

theorem choice?_tag (c : Check) (levels : Nat) :
    Stored.choice? Check.tag Check.all levels (Stored.bare c.tag) = some c := by
  cases c <;> rfl

/-- A stored guard is read back where its source is. -/
theorem ofJson?_toJson (h : g.source.HasWords) (levels : Nat) :
    ofJson? (levels + 1) g.toJson = if 2 * g.source.depth < levels then some g else none := by
  show ((Source.ofJson? levels g.source.toJson).bind fun source =>
    (Stored.choice? Check.tag Check.all levels (Stored.bare g.check.tag)).bind fun check =>
      some (⟨source, check, g.volatile⟩ : Guard)) = _
  rw [Source.ofJson?_toJson h, choice?_tag]
  split <;> rfl

/-- Stored guards are read back where all of their sources are. -/
theorem mapM_ofJson?_toJson (levels : Nat) {guards : List Guard}
    (h : ∀ g ∈ guards, g.source.HasWords) :
    (guards.map toJson).mapM (ofJson? (levels + 1)) =
      if ∀ g ∈ guards, 2 * g.source.depth < levels then some guards else none := by
  induction guards with
  | nil => rfl
  | cons g rest ih =>
      obtain ⟨hg, hrest⟩ := List.forall_mem_cons.mp h
      rw [List.map_cons, List.mapM_cons, ofJson?_toJson hg, ih hrest]
      simp only [List.forall_mem_cons]
      by_cases hfirst : 2 * g.source.depth < levels
      · by_cases hothers : ∀ g ∈ rest, 2 * g.source.depth < levels
        · rw [if_pos hfirst, if_pos hothers, if_pos ⟨hfirst, hothers⟩]
          rfl
        · rw [if_pos hfirst, if_neg hothers, if_neg fun hall => hothers hall.2]
          rfl
      · have hnot : ¬(2 * g.source.depth < levels ∧ ∀ g ∈ rest, 2 * g.source.depth < levels) :=
          fun hall => hfirst hall.1
        rw [if_neg hfirst, if_neg hnot]
        rfl

end Guard

/-! ## Sets -/

namespace GuardSet

variable {s : GuardSet}

theorem exact_toJson (h : ∀ g ∈ s, g.source.HasWords) : s.toJson.Exact := by
  have hguards : (Json.array (s.members.map Guard.toJson)).Exact := by
    refine .array fun item hitem => ?_
    obtain ⟨g, hg, rfl⟩ := List.mem_map.mp hitem
    exact Guard.exact_toJson (h g hg)
  exact .object (by simpa using hguards)

/-- A set that is written as a text is read back as it was, unless a source has more than 61
steps: then it is not read at all. -/
theorem ofText?_toText (h : ∀ g ∈ s, g.source.HasWords) :
    ofText? s.toText = if ∀ g ∈ s, g.source.depth ≤ 61 then some s else none := by
  have hdepth (g : Guard) : 2 * g.source.depth < 124 ↔ g.source.depth ≤ 61 := by omega
  have hmembers := Guard.mapM_ofJson?_toJson 124 h
  unfold ofText? toText
  rw [Json.read?_compact (exact_toJson h), Option.bind_some]
  show ((s.members.map Guard.toJson).mapM (Guard.ofJson? 125)).bind
    (fun members => some (⟨members⟩ : GuardSet)) = _
  rw [hmembers]
  simp only [hdepth]
  by_cases hall : ∀ g ∈ s, g.source.depth ≤ 61
  · rw [if_pos hall]
    exact congrArg (Option.bind · _) (if_pos hall)
  · rw [if_neg hall]
    exact congrArg (Option.bind · _) (if_neg hall)

end GuardSet

end TensorCapture
