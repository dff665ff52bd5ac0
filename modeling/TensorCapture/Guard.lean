import TensorCapture.Source

set_option autoImplicit false

/-! # Guards

A guard is a check on the value at a source that has to hold for a captured graph to be used
again. Sets of guards keep the order in which their members came. They grow by insertion and
union; literalizing a scalar downgrades some members to constant matches. Main statements:
insertion and union keep a set free of duplicates, and say which members it has.
-/

namespace TensorCapture

/-- What is checked. -/
inductive Check where
  /-- The value has the captured type. -/
  | typeMatch
  /-- The value is the captured object. -/
  | idMatch
  /-- The value is the function that was inlined. -/
  | functionMatch
  /-- The value equals the captured one. -/
  | constantMatch
  /-- The metadata of the tensor are the captured ones. -/
  | tensorMatch
  deriving DecidableEq, Repr

/-- Every check. -/
def Check.all : List Check :=
  [.typeMatch, .idMatch, .functionMatch, .constantMatch, .tensorMatch]

/-- The name in documents. -/
def Check.tag : Check → String
  | .typeMatch => "TypeMatch"
  | .idMatch => "IdMatch"
  | .functionMatch => "FunctionMatch"
  | .constantMatch => "ConstantMatch"
  | .tensorMatch => "TensorMatch"

/-- The rank in evaluation order: types come before everything that reads metadata. -/
def Check.priority : Check → Nat
  | .typeMatch => 0
  | .idMatch | .functionMatch => 1
  | .constantMatch => 2
  | .tensorMatch => 3

/-- A check on the value at a source. -/
structure Guard where
  source : Source
  check : Check
  /-- Whether the guard holds for the current trace only. -/
  volatile : Bool
  deriving DecidableEq, Repr

/-- A guard that holds beyond the current trace. -/
def Guard.lasting (source : Source) (check : Check) : Guard := ⟨source, check, false⟩

/-- The expression that reads the checked value. -/
def Guard.name (g : Guard) : String := g.source.name

/-- The guard as a constant match. -/
def Guard.toConstantMatch (g : Guard) : Guard := { g with check := .constantMatch }

/-- Guards in the order in which they came. -/
structure GuardSet where
  members : List Guard
  deriving DecidableEq, Repr

namespace GuardSet

/-- The set without members. -/
def empty : GuardSet := ⟨[]⟩

instance : EmptyCollection GuardSet := ⟨empty⟩

instance : Inhabited GuardSet := ⟨empty⟩

instance : Membership Guard GuardSet := ⟨fun s g => g ∈ s.members⟩

instance (g : Guard) (s : GuardSet) : Decidable (g ∈ s) :=
  inferInstanceAs (Decidable (g ∈ s.members))

/-- The number of members. -/
def size (s : GuardSet) : Nat := s.members.length

/-- Whether there are no members. -/
def isEmpty (s : GuardSet) : Bool := s.members.isEmpty

/-- Adds a guard at the end, unless it is a member. -/
def insert (s : GuardSet) (g : Guard) : GuardSet :=
  if g ∈ s then s else ⟨s.members ++ [g]⟩

/-- Adds the members of another set in their order. -/
def union (s t : GuardSet) : GuardSet := t.members.foldl insert s

instance : Union GuardSet := ⟨union⟩

/-- The set of the guards in a list. -/
def ofList (guards : List Guard) : GuardSet := guards.foldl insert empty

/-- The members that hold for the current trace only. -/
def volatileMembers (s : GuardSet) : List Guard := s.members.filter (·.volatile)

/-- The members in evaluation order; those of one rank stay in the order in which they came. -/
def ordered (s : GuardSet) : List Guard :=
  s.members.mergeSort fun g h => g.check.priority ≤ h.check.priority

/-- A guard, turned into a constant match where it is one of the targets. -/
def downgradeGuard (targets : List Guard) (g : Guard) : Guard :=
  if g ∈ targets then g.toConstantMatch else g

/-- Turns every member among the targets into a constant match. Of members that become equal
the first stays. -/
def downgrade (s : GuardSet) (targets : List Guard) : GuardSet :=
  ofList (s.members.map (downgradeGuard targets))

/-- The number of members among the targets. -/
def countIn (s : GuardSet) (targets : List Guard) : Nat :=
  s.members.countP fun g => g ∈ targets

/-! ## Members -/

theorem mem_def {g : Guard} {s : GuardSet} : g ∈ s ↔ g ∈ s.members := Iff.rfl

@[simp] theorem not_mem_empty (g : Guard) : g ∉ (∅ : GuardSet) := List.not_mem_nil

theorem mem_insert {g h : Guard} {s : GuardSet} : g ∈ s.insert h ↔ g ∈ s ∨ g = h := by
  unfold insert
  split
  · constructor
    · exact Or.inl
    · rintro (hg | rfl)
      · exact hg
      · assumption
  · simp [mem_def]

theorem mem_foldl_insert {g : Guard} {s : GuardSet} {guards : List Guard} :
    g ∈ guards.foldl insert s ↔ g ∈ s ∨ g ∈ guards := by
  induction guards generalizing s with
  | nil => simp
  | cons h rest ih => simp [ih, mem_insert, or_assoc]

theorem mem_union {g : Guard} {s t : GuardSet} : g ∈ s ∪ t ↔ g ∈ s ∨ g ∈ t :=
  mem_foldl_insert

theorem mem_ofList {g : Guard} {guards : List Guard} : g ∈ ofList guards ↔ g ∈ guards := by
  rw [ofList, mem_foldl_insert]
  constructor
  · rintro (h | h)
    · exact absurd h List.not_mem_nil
    · exact h
  · exact Or.inr

theorem mem_downgrade {g : Guard} {s : GuardSet} {targets : List Guard} :
    g ∈ s.downgrade targets ↔ ∃ h ∈ s, downgradeGuard targets h = g := by
  rw [downgrade, mem_ofList, List.mem_map]
  rfl

/-! ## Duplicates -/

/-- No two members are equal. -/
def Distinct (s : GuardSet) : Prop := s.members.Nodup

theorem distinct_empty : Distinct ∅ := List.nodup_nil

theorem Distinct.insert {s : GuardSet} (hs : s.Distinct) (g : Guard) : (s.insert g).Distinct := by
  unfold GuardSet.insert
  split
  · exact hs
  · rename_i hg
    unfold Distinct at *
    rw [List.nodup_append]
    refine ⟨hs, by simp, ?_⟩
    intro a ha b hb
    rw [List.mem_singleton] at hb
    rintro rfl
    subst hb
    exact hg ha

theorem Distinct.foldl_insert {s : GuardSet} (hs : s.Distinct) (guards : List Guard) :
    (guards.foldl GuardSet.insert s).Distinct := by
  induction guards generalizing s with
  | nil => exact hs
  | cons g rest ih => exact ih (hs.insert g)

theorem Distinct.union {s : GuardSet} (hs : s.Distinct) (t : GuardSet) : (s ∪ t).Distinct :=
  hs.foldl_insert t.members

theorem distinct_ofList (guards : List Guard) : (ofList guards).Distinct :=
  distinct_empty.foldl_insert guards

end GuardSet

end TensorCapture
