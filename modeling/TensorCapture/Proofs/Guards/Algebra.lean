import Mathlib.Data.Finset.Card
import Mathlib.Data.List.Induction
import TensorCapture.Guard

set_option autoImplicit false

/-! # The algebra of guard sets

A set of guards is a list without duplicates, and all of its laws are laws of ordered lists. Union
puts the new members of one set behind those of the other. To downgrade a set is to change each of
its members and to keep the first of those that became equal, and it makes no difference whether
equal guards are dropped before the change or only afterwards. Hence downgrading distributes over
union, and downgrading twice is downgrading once, to all targets of both.

The proofs take the guards of a list from the back, because the last guard is the one that was
inserted last.
-/

namespace TensorCapture

theorem Guard.toConstantMatch_toConstantMatch (g : Guard) :
    g.toConstantMatch.toConstantMatch = g.toConstantMatch := rfl

namespace GuardSet

variable {s t u : GuardSet} {g : Guard} {targets others : List Guard}

/-! ## Insertion -/

theorem insert_of_mem (h : g ∈ s) : s.insert g = s := if_pos h

theorem members_insert_of_not_mem (h : g ∉ s) : (s.insert g).members = s.members ++ [g] := by
  simp [GuardSet.insert, h]

theorem foldl_insert_append_singleton (s : GuardSet) (guards : List Guard) (g : Guard) :
    (guards ++ [g]).foldl GuardSet.insert s = (guards.foldl GuardSet.insert s).insert g := by
  rw [List.foldl_append]
  rfl

theorem ofList_append_singleton (guards : List Guard) (g : Guard) :
    ofList (guards ++ [g]) = (ofList guards).insert g :=
  foldl_insert_append_singleton empty guards g

/-- Of guards that are inserted one after the other, the first of those that are equal count, and
of these the ones that were no members. -/
theorem members_foldl_insert (s : GuardSet) (guards : List Guard) :
    (guards.foldl GuardSet.insert s).members =
      s.members ++ guards.eraseDups.filter (· ∉ s) := by
  induction guards using List.reverseRecOn with
  | nil => simp
  | append_singleton rest g ih =>
      -- the last guard counts only where no guard before it is equal
      have hdups : (rest ++ [g]).eraseDups =
          rest.eraseDups ++ (if g ∈ rest then [] else [g]) := by
        rw [List.eraseDups_append]
        by_cases hrest : g ∈ rest <;> simp [List.removeAll, List.eraseDups_cons, hrest]
      rw [foldl_insert_append_singleton, hdups, List.filter_append, ← List.append_assoc, ← ih]
      by_cases hmem : g ∈ rest.foldl GuardSet.insert s
      · have hold : g ∈ s ∨ g ∈ rest := mem_foldl_insert.mp hmem
        rw [insert_of_mem hmem]
        by_cases hrest : g ∈ rest
        · simp [hrest]
        · simp [hrest, hold.resolve_right hrest]
      · have hnew : g ∉ s ∧ g ∉ rest := not_or.mp (mem_foldl_insert.not.mp hmem)
        rw [members_insert_of_not_mem hmem]
        simp [hnew]

/-- Collecting guards keeps the first of those that are equal. -/
theorem members_ofList (guards : List Guard) : (ofList guards).members = guards.eraseDups := by
  have h : (ofList guards).members = [] ++ guards.eraseDups.filter (· ∉ empty) :=
    members_foldl_insert empty guards
  have hall : ∀ g : Guard, g ∉ empty := not_mem_empty
  rw [h]
  simp [hall]

theorem Distinct.ofList_members (h : s.Distinct) : ofList s.members = s := by
  obtain ⟨guards⟩ := s
  have hnodup : guards.Nodup := h
  clear h
  induction guards using List.reverseRecOn with
  | nil => rfl
  | append_singleton rest g ih =>
      obtain ⟨hrest, -, hdisjoint⟩ := List.nodup_append.mp hnodup
      -- the guards before it are a set again, and it is none of them
      have hrestored : ofList rest = ⟨rest⟩ := ih hrest
      have hnew : g ∉ ofList rest := by
        intro hg
        exact hdisjoint g (mem_ofList.mp hg) g (List.mem_singleton_self g) rfl
      have hmembers := members_insert_of_not_mem hnew
      rw [hrestored] at hmembers
      show ofList (rest ++ [g]) = ⟨rest ++ [g]⟩
      rw [ofList_append_singleton, hrestored]
      exact congrArg GuardSet.mk hmembers

/-! ## Union -/

theorem union_insert (s t : GuardSet) (g : Guard) : s ∪ t.insert g = (s ∪ t).insert g := by
  by_cases hg : g ∈ t
  · have hunion : g ∈ s ∪ t := mem_union.mpr (.inr hg)
    rw [insert_of_mem hg, insert_of_mem hunion]
  · have hmembers : (t.insert g).members = t.members ++ [g] := members_insert_of_not_mem hg
    show (t.insert g).members.foldl GuardSet.insert s = _
    rw [hmembers, foldl_insert_append_singleton]
    rfl

/-- The members of a union are those of the first set, and behind them the new ones among those of
the second. -/
theorem members_union (s : GuardSet) (ht : t.Distinct) :
    (s ∪ t).members = s.members ++ t.members.filter (· ∉ s) := by
  have hfirst : t.members.eraseDups = t.members := by
    rw [← members_ofList, ht.ofList_members]
  calc (s ∪ t).members = s.members ++ t.members.eraseDups.filter (· ∉ s) :=
        members_foldl_insert s t.members
    _ = s.members ++ t.members.filter (· ∉ s) := by rw [hfirst]

theorem union_assoc (s t u : GuardSet) : s ∪ t ∪ u = s ∪ (t ∪ u) := by
  obtain ⟨guards⟩ := u
  show guards.foldl GuardSet.insert (s ∪ t) = s ∪ guards.foldl GuardSet.insert t
  induction guards using List.reverseRecOn with
  | nil => rfl
  | append_singleton rest g ih =>
      rw [foldl_insert_append_singleton, foldl_insert_append_singleton, union_insert, ih]

/-- To add members adds nothing. -/
theorem union_of_subset (h : ∀ g ∈ t, g ∈ s) : s ∪ t = s := by
  obtain ⟨guards⟩ := t
  have hmem : ∀ g ∈ guards, g ∈ s := h
  clear h
  show guards.foldl GuardSet.insert s = s
  induction guards with
  | nil => rfl
  | cons g rest ih =>
      have hg : g ∈ s := hmem g (List.mem_cons_self ..)
      rw [List.foldl_cons, insert_of_mem hg]
      exact ih fun h hh => hmem h (List.mem_cons_of_mem g hh)

theorem union_self (s : GuardSet) : s ∪ s = s := union_of_subset fun _ h => h

/-! ## Members that are changed -/

/-- A guard that was a member already has an image that is one already. -/
theorem ofList_map_insert (f : Guard → Guard) (s : GuardSet) (g : Guard) :
    ofList ((s.insert g).members.map f) = (ofList (s.members.map f)).insert (f g) := by
  by_cases h : g ∈ s
  · have himage : f g ∈ ofList (s.members.map f) := mem_ofList.mpr (List.mem_map_of_mem h)
    rw [insert_of_mem h, insert_of_mem himage]
  · rw [members_insert_of_not_mem h, List.map_append]
    exact ofList_append_singleton (s.members.map f) (f g)

/-- Whether equal guards are dropped before guards are changed or only afterwards makes no
difference. -/
theorem ofList_map_ofList (f : Guard → Guard) (guards : List Guard) :
    ofList ((ofList guards).members.map f) = ofList (guards.map f) := by
  induction guards using List.reverseRecOn with
  | nil => rfl
  | append_singleton rest g ih =>
      rw [ofList_append_singleton, ofList_map_insert, ih, List.map_append]
      exact (ofList_append_singleton (rest.map f) (f g)).symm

/-- Nor does it make a difference whether two sets are united before or afterwards. -/
theorem ofList_map_union (f : Guard → Guard) (s t : GuardSet) :
    ofList ((s ∪ t).members.map f) = ofList (s.members.map f) ∪ ofList (t.members.map f) := by
  obtain ⟨guards⟩ := t
  show ofList ((guards.foldl GuardSet.insert s).members.map f) = _ ∪ ofList (guards.map f)
  induction guards using List.reverseRecOn with
  | nil => rfl
  | append_singleton rest g ih =>
      calc ofList (((rest ++ [g]).foldl GuardSet.insert s).members.map f)
          = (ofList ((rest.foldl GuardSet.insert s).members.map f)).insert (f g) := by
            rw [foldl_insert_append_singleton, ofList_map_insert]
        _ = (ofList (s.members.map f) ∪ ofList (rest.map f)).insert (f g) := by rw [ih]
        _ = ofList (s.members.map f) ∪ (ofList (rest.map f)).insert (f g) :=
            (union_insert _ _ _).symm
        _ = ofList (s.members.map f) ∪ ofList ((rest ++ [g]).map f) := by
            rw [List.map_append]
            exact congrArg _ (ofList_append_singleton (rest.map f) (f g)).symm

/-! ## Downgrading -/

/-- To downgrade a guard twice is to downgrade it where one of the two lists has it. -/
theorem downgradeGuard_downgradeGuard (targets others : List Guard) (g : Guard) :
    downgradeGuard others (downgradeGuard targets g) = downgradeGuard (targets ++ others) g := by
  unfold downgradeGuard
  by_cases htargets : g ∈ targets
  · have hboth : g ∈ targets ++ others := List.mem_append_left _ htargets
    rw [if_pos htargets, if_pos hboth]
    -- the second list may have the constant match that the first one made
    split
    · exact g.toConstantMatch_toConstantMatch
    · rfl
  · rw [if_neg htargets]
    simp [htargets]

/-- To downgrade twice is to downgrade all targets at once. -/
theorem downgrade_downgrade (s : GuardSet) (targets others : List Guard) :
    (s.downgrade targets).downgrade others = s.downgrade (targets ++ others) := by
  unfold downgrade
  rw [ofList_map_ofList, List.map_map]
  congr 1
  exact List.map_congr_left fun g _ => downgradeGuard_downgradeGuard targets others g

/-- Of the targets only matters which guards are among them. -/
theorem downgrade_congr (s : GuardSet) (h : ∀ g, g ∈ targets ↔ g ∈ others) :
    s.downgrade targets = s.downgrade others := by
  have hguard (g : Guard) : downgradeGuard targets g = downgradeGuard others g := by
    simp [downgradeGuard, h]
  unfold downgrade
  rw [funext hguard]

theorem downgrade_append_comm (s : GuardSet) (targets others : List Guard) :
    s.downgrade (targets ++ others) = s.downgrade (others ++ targets) :=
  s.downgrade_congr fun g => by simp [or_comm]

theorem downgrade_union (s t : GuardSet) (targets : List Guard) :
    (s ∪ t).downgrade targets = s.downgrade targets ∪ t.downgrade targets :=
  ofList_map_union (downgradeGuard targets) s t

theorem mem_downgrade_of_not_mem (h : g ∈ s) (htargets : g ∉ targets) :
    g ∈ s.downgrade targets :=
  mem_downgrade.mpr ⟨g, h, if_neg htargets⟩

/-- A downgraded guard has its source, and holds for as long as before. -/
theorem downgradeGuard_keeps (targets : List Guard) (g : Guard) :
    (downgradeGuard targets g).source = g.source ∧
      (downgradeGuard targets g).volatile = g.volatile := by
  unfold downgradeGuard
  split
  · exact ⟨rfl, rfl⟩
  · exact ⟨rfl, rfl⟩

theorem exists_mem_downgrade_iff (s : GuardSet) (targets : List Guard) (source : Source)
    (volatile : Bool) :
    (∃ g ∈ s.downgrade targets, g.source = source ∧ g.volatile = volatile) ↔
      ∃ g ∈ s, g.source = source ∧ g.volatile = volatile := by
  constructor
  · rintro ⟨g, hg, hsource, hvolatile⟩
    obtain ⟨before, hbefore, rfl⟩ := mem_downgrade.mp hg
    obtain ⟨hsame, hsame'⟩ := downgradeGuard_keeps targets before
    exact ⟨before, hbefore, hsame ▸ hsource, hsame' ▸ hvolatile⟩
  · rintro ⟨g, hg, hsource, hvolatile⟩
    obtain ⟨hsame, hsame'⟩ := downgradeGuard_keeps targets g
    exact ⟨downgradeGuard targets g, mem_downgrade.mpr ⟨g, hg, rfl⟩, hsame.trans hsource,
      hsame'.trans hvolatile⟩

/-- Where no guard is a member twice, the members among the targets are counted once each. -/
theorem Distinct.countIn_eq_card (h : s.Distinct) (targets : List Guard) :
    s.countIn targets = (s.members.toFinset ∩ targets.toFinset).card := by
  have hfilter : (s.members.filter (· ∈ targets)).toFinset =
      s.members.toFinset ∩ targets.toFinset := by
    ext g
    simp
  have hnodup : (s.members.filter (· ∈ targets)).Nodup := List.Nodup.filter _ h
  calc s.countIn targets = (s.members.filter (· ∈ targets)).length :=
        List.countP_eq_length_filter ..
    _ = (s.members.filter (· ∈ targets)).toFinset.card :=
        (List.toFinset_card_of_nodup hnodup).symm
    _ = (s.members.toFinset ∩ targets.toFinset).card := by rw [hfilter]

/-! ## Sets that are built -/

/-- The sets that collecting, inserting, uniting and downgrading give, in any order. -/
inductive Built : GuardSet → Prop where
  | collect (guards : List Guard) : Built (ofList guards)
  | insert {s : GuardSet} (h : Built s) (g : Guard) : Built (s.insert g)
  | union {s t : GuardSet} (hs : Built s) (ht : Built t) : Built (s ∪ t)
  | downgrade {s : GuardSet} (h : Built s) (targets : List Guard) : Built (s.downgrade targets)

/-- However a set was built, no two of its members are equal. -/
theorem Built.distinct (h : s.Built) : s.Distinct := by
  induction h with
  | collect guards => exact distinct_ofList guards
  | insert _ g ih => exact ih.insert g
  | union _ _ ihs _ => exact ihs.union _
  | downgrade _ targets _ => exact distinct_ofList _

end GuardSet

open GuardSet

/-- **Guard sets are ordered sets, and downgrading is a homomorphism of them.** No two members of a
set are equal. Union puts the new members of the second set behind those of the first; it is
associative, and adding a set again adds nothing. Downgrading makes constant matches of the members
among the targets, keeps the first of those that become equal, and reports how many members were
among the targets. Other members stay, and so do the sources and whether guards hold for one trace
only. Downgrading twice is downgrading to both lists of targets at once, so downgrades commute and
are idempotent; and downgrading a union is uniting what is downgraded. -/
theorem union_downgrade_laws {s t : GuardSet} (hs : s.Built) (ht : t.Built) (u : GuardSet)
    (targets others : List Guard) :
    s.members.Nodup ∧
    (s ∪ t).members = s.members ++ t.members.filter (· ∉ s) ∧
    s ∪ t ∪ u = s ∪ (t ∪ u) ∧
    s ∪ s = s ∧ s ∪ t ∪ t = s ∪ t ∧
    (s.downgrade targets).members = (s.members.map fun g =>
      if g ∈ targets then { g with check := .constantMatch } else g).eraseDups ∧
    (∀ g ∈ s, g ∉ targets → g ∈ s.downgrade targets) ∧
    (∀ source volatile,
      (∃ g ∈ s.downgrade targets, g.source = source ∧ g.volatile = volatile) ↔
        ∃ g ∈ s, g.source = source ∧ g.volatile = volatile) ∧
    s.countIn targets = (s.members.toFinset ∩ targets.toFinset).card ∧
    (s.downgrade others).downgrade targets = s.downgrade (others ++ targets) ∧
    (s.downgrade others).downgrade targets = (s.downgrade targets).downgrade others ∧
    (s.downgrade targets).downgrade targets = s.downgrade targets ∧
    (s ∪ t).downgrade targets = s.downgrade targets ∪ t.downgrade targets := by
  have hcommute :
      (s.downgrade others).downgrade targets = (s.downgrade targets).downgrade others := by
    rw [s.downgrade_downgrade, s.downgrade_downgrade]
    exact s.downgrade_append_comm others targets
  have htwice : (s.downgrade targets).downgrade targets = s.downgrade targets := by
    rw [s.downgrade_downgrade]
    exact s.downgrade_congr fun g => by simp
  have hagain : s ∪ t ∪ t = s ∪ t := union_of_subset fun g hg => mem_union.mpr (.inr hg)
  exact ⟨hs.distinct, members_union s ht.distinct, s.union_assoc t u, s.union_self, hagain,
    members_ofList _, fun g hg htargets => mem_downgrade_of_not_mem hg htargets,
    s.exists_mem_downgrade_iff targets, hs.distinct.countIn_eq_card targets,
    s.downgrade_downgrade others targets, hcommute, htwice, s.downgrade_union t targets⟩

/-- A check of a tensor that holds for the current trace only. -/
def Guard.ofTensor : Guard := ⟨.local "x", .tensorMatch, true⟩

/-- A set with a check of a tensor, and one in which the constant match that it becomes is a member
before it: downgraded, the two guards of the union become one, and it stands where the first one
was. -/
theorem union_downgrade_laws_collision :
    (ofList [.ofTensor]).Built ∧ (ofList [Guard.ofTensor.toConstantMatch, .ofTensor]).Built ∧
      (ofList [.ofTensor] ∪ ofList [Guard.ofTensor.toConstantMatch, .ofTensor]).members =
        [.ofTensor, Guard.ofTensor.toConstantMatch] ∧
      (ofList [.ofTensor] ∪ ofList [Guard.ofTensor.toConstantMatch, .ofTensor]).downgrade
          [.ofTensor] = ofList [Guard.ofTensor.toConstantMatch] ∧
      (ofList [Guard.ofTensor]).countIn [.ofTensor] = 1 := by
  have hs : (ofList [.ofTensor]).Built := .collect _
  have ht : (ofList [Guard.ofTensor.toConstantMatch, .ofTensor]).Built := .collect _
  obtain ⟨-, hunion, -, -, -, -, -, -, hcount, -, -, -, hdowngrade⟩ :=
    union_downgrade_laws hs ht ∅ [.ofTensor] []
  refine ⟨hs, ht, hunion.trans ?_, hdowngrade.trans ?_, hcount.trans ?_⟩
  · decide
  · decide
  · decide

end TensorCapture
