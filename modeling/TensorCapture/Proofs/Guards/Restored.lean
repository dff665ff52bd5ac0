import TensorCapture.Proofs.Guards.Algebra
import TensorCapture.Proofs.Written.Guards

set_option autoImplicit false

/-! # Sets of guards that are restored

Sets that are collected have no guard twice, and inserting, uniting and downgrading keep that. A
set that is read from a text has the guards of the text as they stand, and so it has a guard twice
where the text has. How often guards are repeated is all that matters: insertion and union do not
change the number of repeated members, whatever they add, and downgrading leaves none, since it
collects the members anew.
-/

namespace TensorCapture

namespace GuardSet

variable {s : GuardSet}

/-! ## Repeated members -/

/-- The number of different members. -/
def distinctSize (s : GuardSet) : Nat := s.members.toFinset.card

/-- The number of members that an equal one precedes. -/
def repeats (s : GuardSet) : Nat := s.size - s.distinctSize

theorem size_eq (s : GuardSet) : s.size = s.distinctSize + s.repeats := by
  have hle : s.distinctSize ≤ s.size := List.toFinset_card_le s.members
  unfold repeats
  omega

theorem repeats_eq_zero_iff : s.repeats = 0 ↔ s.Distinct := by
  have hsize := s.size_eq
  constructor
  · intro h
    have hcard : s.members.toFinset.card = s.members.length := by
      show s.distinctSize = s.size
      omega
    exact Multiset.toFinset_card_eq_card_iff_nodup.mp hcard
  · intro h
    have hcard : s.distinctSize = s.size := List.toFinset_card_of_nodup h
    omega

theorem size_eq_distinctSize_iff : s.size = s.distinctSize ↔ s.Distinct := by
  have hsize := s.size_eq
  rw [← repeats_eq_zero_iff]
  omega

/-- A guard that is added is a new one. -/
theorem repeats_insert (s : GuardSet) (g : Guard) : (s.insert g).repeats = s.repeats := by
  by_cases hg : g ∈ s
  · rw [insert_of_mem hg]
  · have hmembers := members_insert_of_not_mem hg
    have hsize : (s.insert g).size = s.size + 1 := by
      simp [size, hmembers]
    have hdistinct : (s.insert g).distinctSize = s.distinctSize + 1 := by
      have hnew : g ∉ s.members.toFinset := fun h => hg (List.mem_toFinset.mp h)
      unfold distinctSize
      rw [hmembers, List.toFinset_append, Finset.union_comm, List.toFinset_cons, List.toFinset_nil]
      simp [hnew]
    unfold repeats
    omega

theorem repeats_union (s t : GuardSet) : (s ∪ t).repeats = s.repeats := by
  obtain ⟨guards⟩ := t
  show (guards.foldl GuardSet.insert s).repeats = s.repeats
  induction guards generalizing s with
  | nil => rfl
  | cons g rest ih => rw [List.foldl_cons, ih, repeats_insert]

theorem repeats_downgrade (s : GuardSet) (targets : List Guard) :
    (s.downgrade targets).repeats = 0 :=
  repeats_eq_zero_iff.mpr (distinct_ofList _)

/-! ## Edits -/

/-- What is done with a set once it is there. -/
inductive Edit where
  | insert (g : Guard)
  | extend (other : GuardSet)
  | downgrade (targets : List Guard)

/-- Whether the edit collects the members anew. -/
def Edit.isDowngrade : Edit → Bool
  | .downgrade _ => true
  | _ => false

/-- The set after an edit. -/
def edit (s : GuardSet) : Edit → GuardSet
  | .insert g => s.insert g
  | .extend other => s ∪ other
  | .downgrade targets => s.downgrade targets

/-- The set after several edits, the first one first. -/
def edited (s : GuardSet) (edits : List Edit) : GuardSet := edits.foldl edit s

theorem repeats_edit (s : GuardSet) (e : Edit) :
    (s.edit e).repeats = if e.isDowngrade then 0 else s.repeats := by
  cases e with
  | insert g => exact s.repeats_insert g
  | extend other => exact s.repeats_union other
  | downgrade targets => exact s.repeats_downgrade targets

/-- Members stay repeated until the set is downgraded. -/
theorem repeats_edited (s : GuardSet) (edits : List Edit) :
    (s.edited edits).repeats = if edits.any Edit.isDowngrade then 0 else s.repeats := by
  induction edits generalizing s with
  | nil => rfl
  | cons e edits ih =>
      show ((s.edit e).edited edits).repeats = _
      rw [ih, repeats_edit, List.any_cons]
      cases e.isDowngrade <;> simp

theorem distinct_edited_iff (s : GuardSet) (edits : List Edit) :
    (s.edited edits).Distinct ↔ s.Distinct ∨ edits.any Edit.isDowngrade = true := by
  rw [← repeats_eq_zero_iff, repeats_edited, ← repeats_eq_zero_iff]
  cases edits.any Edit.isDowngrade <;> simp

/-! ## Texts -/

/-- The document stores a set of the guards that these documents store: in its field for them, or as
its only part. -/
inductive Stores : Json → List Json → Prop where
  | object {fields : List (String × Json)} {items : List Json}
      (h : fields.lookup "guards" = some (.array items)) : Stores (.object fields) items
  | array (items : List Json) : Stores (.array [.array items]) items

/-- The guard that a document stores, inside a stored set. -/
def restore? : Json → Option Guard := Guard.ofJson? (Stored.levelLimit - 2)

/-- A record with one part is an object with a field for it, or an array of it. -/
theorem parts?_eq_some {name : String} {levels levels' : Nat} {document part : Json}
    (h : Stored.parts? [name] (levels + 1) document = some ([some part], levels')) :
    levels' = levels ∧ ((∃ fields, document = .object fields ∧ fields.lookup name = some part) ∨
      document = .array [part]) := by
  unfold Stored.parts? at h
  split at h
  · split at h
    · cases h
    · obtain ⟨hparts, hlevels⟩ := Prod.mk.inj (Option.some.inj h)
      exact ⟨hlevels.symm, .inl ⟨_, rfl, (List.cons.inj hparts).1⟩⟩
  · split at h
    · cases h
    · obtain ⟨hparts, hlevels⟩ := Prod.mk.inj (Option.some.inj h)
      have hitems : _ = [part] := List.map_injective_iff.mpr (Option.some_injective Json) hparts
      exact ⟨hlevels.symm, .inr (by rw [hitems])⟩
  · cases h

theorem map_eq_of_mapM {α β : Type} {f : α → Option β} {xs : List α} {ys : List β}
    (h : xs.mapM f = some ys) : xs.map f = ys.map some := by
  induction xs generalizing ys with
  | nil =>
      cases h
      rfl
  | cons x xs ih =>
      rw [List.mapM_cons] at h
      obtain ⟨y, hy, h⟩ := Option.bind_eq_some_iff.mp h
      obtain ⟨rest, hrest, h⟩ := Option.bind_eq_some_iff.mp h
      cases h
      rw [List.map_cons, List.map_cons, hy, ih hrest]

/-- A set that is read has a member for each guard that is stored, in their order. -/
theorem exists_of_ofText? {text : String} (h : ofText? text = some s) :
    ∃ document items, Json.read? text = some document ∧ Stores document items ∧
      items.map restore? = s.members.map some := by
  obtain ⟨document, hread, hset⟩ := Option.bind_eq_some_iff.mp h
  unfold GuardSet.ofJson? at hset
  split at hset
  · next guards levels hparts =>
      obtain ⟨rfl, hdocument⟩ := parts?_eq_some hparts
      obtain ⟨⟨items, levels⟩, hitems, hset⟩ := Option.bind_eq_some_iff.mp hset
      obtain ⟨members, hmembers, hset⟩ := Option.bind_eq_some_iff.mp hset
      cases hset
      cases guards with
      | array stored =>
          cases hitems
          refine ⟨document, items, hread, ?_, map_eq_of_mapM hmembers⟩
          rcases hdocument with ⟨fields, rfl, hlookup⟩ | rfl
          · exact .object hlookup
          · exact .array items
      | null | bool _ | integer _ | real _ | text _ | unreadable | object _ => cases hitems
  · cases hset

/-- Where the guards of a text are different, so are the members of the set. -/
theorem distinct_iff_pairwise {items : List Json} (h : items.map restore? = s.members.map some) :
    s.Distinct ↔ items.Pairwise fun i j => restore? i ≠ restore? j := by
  calc s.Distinct ↔ (s.members.map some).Nodup :=
        (List.nodup_map_iff (Option.some_injective Guard)).symm
    _ ↔ (items.map restore?).Nodup := by rw [h]
    _ ↔ items.Pairwise fun i j => restore? i ≠ restore? j := List.pairwise_map

end GuardSet

open GuardSet

/-- **A restored set repeats the guards that its text repeats, until it is downgraded.** A set that
is read from a text has a member for each guard of the text, in their order. Whatever is inserted or
united with it, as long as it is not downgraded it has no guard twice if and only if the text has
none; once it was downgraded it has none. Its size is the number of different guards in it, and one
for each repeated guard of the text where it was not downgraded. So the size is the number of
different guards just where no guard is there twice. The text that is written for a set gives this
set again, if it can be read; and sets that were not read from a text have no guard twice, whatever
was done with them. -/
theorem restored_repeats {text : String} {s : GuardSet} (h : ofText? text = some s)
    (edits : List Edit) :
    (∃ document items, Json.read? text = some document ∧ Stores document items ∧
      items.map restore? = s.members.map some ∧
      ((s.edited edits).Distinct ↔ (items.Pairwise fun i j => restore? i ≠ restore? j) ∨
        edits.any Edit.isDowngrade = true)) ∧
    ((s.edited edits).size = (s.edited edits).distinctSize ↔ (s.edited edits).Distinct) ∧
    (s.edited edits).size = (s.edited edits).distinctSize +
      (if edits.any Edit.isDowngrade then 0 else s.repeats) ∧
    (∀ t : GuardSet, (∀ g ∈ t, g.source.HasWords) →
      ofText? t.toText = if ∀ g ∈ t, g.source.depth ≤ 61 then some t else none) ∧
    (∀ guards : List Guard, ((ofList guards).edited edits).Distinct) := by
  obtain ⟨document, items, hread, hstores, hitems⟩ := exists_of_ofText? h
  have hdistinct : (s.edited edits).Distinct ↔
      (items.Pairwise fun i j => restore? i ≠ restore? j) ∨ edits.any Edit.isDowngrade = true := by
    rw [distinct_edited_iff, distinct_iff_pairwise hitems]
  have hsize : (s.edited edits).size = (s.edited edits).distinctSize +
      (if edits.any Edit.isDowngrade then 0 else s.repeats) := by
    rw [← repeats_edited]
    exact size_eq _
  exact ⟨⟨document, items, hread, hstores, hitems, hdistinct⟩, size_eq_distinctSize_iff, hsize,
    fun t hwords => ofText?_toText hwords,
    fun guards => (distinct_edited_iff _ edits).mpr (.inl (distinct_ofList guards))⟩

/-- A text with one guard twice. -/
def GuardSet.textOfTwo : String :=
  let source := "\x7b\"Local\":\"x\"\x7d"
  let guard :=
    "\x7b\"source\":" ++ source ++ ",\"kind\":\"TensorMatch\",\"volatile\":true\x7d"
  "\x7b\"guards\":[" ++ guard ++ "," ++ guard ++ "]\x7d"

theorem GuardSet.ofText?_textOfTwo : ofText? textOfTwo = some ⟨[.ofTensor, .ofTensor]⟩ := by
  decide +kernel

/-- The guard stays there twice when it is inserted once more and another one is added. It is there
once only after a downgrade, even if that has no targets. -/
theorem restored_repeats_two :
    ofText? textOfTwo = some ⟨[.ofTensor, .ofTensor]⟩ ∧
      (edited ⟨[.ofTensor, .ofTensor]⟩
        [.insert .ofTensor, .extend (ofList [Guard.ofTensor.toConstantMatch])]).size = 3 ∧
      ¬(edited ⟨[.ofTensor, .ofTensor]⟩
        [.insert .ofTensor, .extend (ofList [Guard.ofTensor.toConstantMatch])]).Distinct ∧
      (edited ⟨[.ofTensor, .ofTensor]⟩ [.downgrade []]).size = 1 := by
  obtain ⟨-, hiff, hsize, -⟩ := restored_repeats ofText?_textOfTwo
    [.insert .ofTensor, .extend (ofList [Guard.ofTensor.toConstantMatch])]
  obtain ⟨-, -, hdowngraded, -⟩ := restored_repeats ofText?_textOfTwo [.downgrade []]
  have hthree : (edited ⟨[.ofTensor, .ofTensor]⟩
      [.insert .ofTensor, .extend (ofList [Guard.ofTensor.toConstantMatch])]).size = 3 :=
    hsize.trans (by decide)
  refine ⟨ofText?_textOfTwo, hthree, ?_, hdowngraded.trans (by decide)⟩
  rw [← hiff, hthree]
  decide

/-- A set that was restored may have a guard twice, and its size counts it twice. -/
theorem exists_restored_twice :
    ¬∀ (text : String) (s : GuardSet) (edits : List Edit), ofText? text = some s →
      (s.edited edits).Distinct ∧ (s.edited edits).size = (s.edited edits).distinctSize := by
  intro h
  obtain ⟨-, hsize⟩ := h textOfTwo ⟨[.ofTensor, .ofTensor]⟩ [] ofText?_textOfTwo
  revert hsize
  decide

end TensorCapture
