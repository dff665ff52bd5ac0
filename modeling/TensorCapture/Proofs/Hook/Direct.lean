import TensorCapture.Proofs.Created.Carrying
import TensorCapture.Proofs.Hook.Wrapping

set_option autoImplicit false

/-! # Method calls that go to no hook

Where calls go to no hook, a method call on an instance of a tensor subclass runs the method on
the tensor that the instance wraps. The result carries the guards of the tensor and of all
arguments, and no others. The guards of the instance itself are not looked at, so one that neither
the tensor nor an argument carries is lost. An instance that a hook call gave has the guards of
what it wraps, so a method call on such an instance loses none.
-/

namespace TensorCapture

open Capture Trace

/-! ## No guard is added -/

section Selected

variable {x : SymbolicTensor} {name : String} {p : Provenance} {answer v index : Variable}
  {indices : List Variable} {g : Guard}

/-- An item of an answer from the metadata carries the guards of the answer and of the index
alone: the extents of a size have none. -/
theorem SymbolicTensor.guards_itemAt_subset (hquery : x.query? name p = some (.ok answer))
    (hitem : answer.itemAt index = .ok v) (hg : g ∈ v.guards) :
    g ∈ p.guards ∨ g ∈ index.guards := by
  have hprovenance : answer.provenance = p := provenance_query hquery
  rcases Variable.itemAt_cases hitem with ⟨literals, q, literal, rfl, rfl⟩ |
    ⟨kind, items, node, q, found, hfound, rfl, rfl⟩
  · obtain rfl : q = p := hprovenance
    exact GuardSet.mem_union.mp hg
  · obtain rfl : q = p := hprovenance
    rcases Variable.mem_guards_addGuards.mp hg with hown | hgiven
    · rcases query?_cases hquery with ⟨literal, hanswer⟩ | ⟨extents, hanswer⟩
      · cases hanswer
      · cases hanswer
        obtain ⟨n, -, rfl⟩ := List.mem_map.mp hfound
        exact absurd hown (GuardSet.not_mem_empty g)
    · exact GuardSet.mem_union.mp hgiven

/-- What positional arguments select from an answer carries no guards but those asked for, where
these include the guards of the arguments. -/
theorem SymbolicTensor.guards_indexed_subset (hquery : x.query? name p = some (.ok answer))
    (hindices : ∀ index ∈ indices, ∀ g ∈ index.guards, g ∈ p.guards)
    (hv : answer.indexed indices p = .ok v) (hg : g ∈ v.guards) : g ∈ p.guards := by
  unfold Variable.indexed at hv
  split at hv
  · cases hv
    have hprovenance : answer.provenance = p := provenance_query hquery
    rw [← hprovenance]
    exact hg
  · rename_i index
    rcases guards_itemAt_subset hquery hv hg with hp | hindex
    · exact hp
    · exact hindices index (List.mem_singleton_self index) g hindex
  · obtain ⟨items, -, rfl⟩ := Except.exists_of_map_eq_ok hv
    exact hg

end Selected

/-- The result of a method call carries the guards of the tensor and of all arguments, and no
others. -/
theorem Capture.guards_callMethod (x : SymbolicTensor) (name : String) (args : List Variable)
    (kwargs : Named Variable) :
    Ensures (fun _ v => ∀ g, g ∈ v.guards ↔ ∃ w ∈ .tensor x :: args ++ kwargs.values, g ∈ w.guards)
      (callMethod x name args kwargs) := by
  have hsubset : Ensures (fun _ v => ∀ g ∈ v.guards,
      g ∈ (Provenance.propagate (.tensor x :: args ++ kwargs.values)).guards)
      (callMethod x name args kwargs) := by
    refine ensures_callMethod (fun answer v hquery hselected g hg => ?_)
      fun known v hmade g hg => ?_
    · refine SymbolicTensor.guards_indexed_subset hquery (fun index hindex h hh => ?_) hselected hg
      have hmem : index ∈ .tensor x :: args ++ kwargs.values :=
        List.mem_append_left _ (List.mem_cons_of_mem _ hindex)
      exact Provenance.mem_propagate.mpr ⟨index, hmem, hh⟩
    · rw [← hmade.guards_eq]
      exact hg
  intro t u v hout g
  constructor
  · intro hg
    exact Provenance.mem_propagate.mp (hsubset hout g hg)
  · intro hg
    exact yields_callMethod x name args kwargs hout g (Provenance.mem_propagate.mpr hg)

/-! ## Calls on instances -/

section Instance

variable {inline : FunctionCall → Capture Variable} {x : SymbolicTensor} {origin : Source}
  {hook : String} {subclass : RuntimeClass} {p : Provenance} {name : String}
  {args : List Variable} {kwargs : Named Variable} {t u : Trace} {v : Variable}

/-- Where calls go to no hook, so does the result of a method call on an instance. -/
theorem Capture.guards_callOverride_of_not (hdispatching : t.dispatching = false)
    (hout : (callOverride inline (.tensor x) origin hook subclass p name args kwargs).outcome t =
      (.ok v, u)) (g : Guard) :
    g ∈ v.guards ↔ ∃ w ∈ .tensor x :: args ++ kwargs.values, g ∈ w.guards := by
  rw [outcome_callOverride_of_not hdispatching] at hout
  exact guards_callMethod x name args kwargs hout g

/-- An instance that a hook call gave has the guards of what it wraps. -/
theorem Capture.guards_of_callOverride {wrapped result : Variable} {q : Provenance}
    {origin' : Source} {hook' : String} {subclass' : RuntimeClass}
    (hdispatching : t.dispatching = true)
    (hout : (callOverride inline wrapped origin hook subclass p name args kwargs).outcome t =
      (.ok (.override result origin' hook' subclass' q), u)) (g : Guard) :
    g ∈ q.guards ↔ g ∈ result.guards := by
  obtain ⟨returned, s, -, hwrapped⟩ := callOverride_eq_ok hdispatching hout
  cases hwrapped
  exact Provenance.mem_guards_ofGuards

/-- A method call on an instance that goes to no hook gives a result with exactly the guards of the
wrapped tensor and of all arguments. So none is lost if and only if every guard of the instance
itself is one of these; of an instance that a hook call gave, they all are. -/
theorem direct_call_guards (hdispatching : t.dispatching = false)
    (hout : (callOverride inline (.tensor x) origin hook subclass p name args kwargs).outcome t =
      (.ok v, u)) :
    (∀ g, g ∈ v.guards ↔ ∃ w ∈ .tensor x :: args ++ kwargs.values, g ∈ w.guards) ∧
    ((∀ w ∈ .override (.tensor x) origin hook subclass p :: .tensor x :: args ++ kwargs.values,
        ∀ g ∈ w.guards, g ∈ v.guards) ↔
      ∀ g ∈ p.guards, ∃ w ∈ .tensor x :: args ++ kwargs.values, g ∈ w.guards) ∧
    ∀ inline' wrapped' p' name' args' kwargs' t' u', t'.dispatching = true →
      (callOverride inline' wrapped' origin hook subclass p' name' args' kwargs').outcome t' =
        (.ok (.override (.tensor x) origin hook subclass p), u') →
      ∀ w ∈ .override (.tensor x) origin hook subclass p :: .tensor x :: args ++ kwargs.values,
        ∀ g ∈ w.guards, g ∈ v.guards := by
  have hexact := guards_callOverride_of_not hdispatching hout
  have hlost : (∀ w ∈ .override (.tensor x) origin hook subclass p :: .tensor x :: args ++
        kwargs.values, ∀ g ∈ w.guards, g ∈ v.guards) ↔
      ∀ g ∈ p.guards, ∃ w ∈ .tensor x :: args ++ kwargs.values, g ∈ w.guards := by
    constructor
    · intro hkept g hg
      exact (hexact g).mp (hkept _ (List.mem_cons_self ..) g hg)
    · intro hp w hw g hg
      rcases List.mem_cons.mp hw with rfl | hw
      · exact (hexact g).mpr (hp g hg)
      · exact (hexact g).mpr ⟨w, hw, hg⟩
  refine ⟨hexact, hlost, fun inline' wrapped' p' name' args' kwargs' t' u' ht' hgiven => ?_⟩
  refine hlost.mpr fun g hg => ?_
  exact ⟨.tensor x, List.mem_cons_self .., (guards_of_callOverride ht' hgiven g).mp hg⟩

end Instance

/-- An extent asked for at an index that was read from a local variable carries the guards of the
tensor and of the index. -/
theorem direct_call_guards_grid :
    ∃ v u, ({ Trace.ofInput "x" with dispatching := false } : Trace).dispatching = false ∧
      (callOverride (fun _ => refuse .noInliner) (.tensor .grid) (.local "x")
          "S.__torch_function__" (.subclass "S") (.ofGuards .ofInput) "size" [.axisIndex]
          []).outcome
        { Trace.ofInput "x" with dispatching := false } = (.ok v, u) ∧
      .lasting (.local "x") .tensorMatch ∈ v.guards ∧
      .lasting (.local "i") .constantMatch ∈ v.guards := by
  obtain ⟨v, u, hout⟩ : ∃ v u,
      (callOverride (fun _ => refuse .noInliner) (.tensor .grid) (.local "x")
          "S.__torch_function__" (.subclass "S") (.ofGuards .ofInput) "size" [.axisIndex]
          []).outcome
        { Trace.ofInput "x" with dispatching := false } = (.ok v, u) := ⟨_, _, rfl⟩
  obtain ⟨hexact, -, -⟩ := direct_call_guards rfl hout
  refine ⟨v, u, rfl, hout, (hexact _).mpr ⟨.tensor .grid, ?_, ?_⟩,
    (hexact _).mpr ⟨.axisIndex, ?_, ?_⟩⟩
  · exact List.mem_cons_self ..
  · decide
  · exact List.mem_cons_of_mem _ (List.mem_cons_self ..)
  · decide

/-- The guard on the type of an instance is lost when a method call on it goes to no hook. -/
theorem exists_instance_guard_lost :
    ¬∀ (inline : FunctionCall → Capture Variable) (x : SymbolicTensor) (origin : Source)
        (hook : String) (subclass : RuntimeClass) (p : Provenance) (name : String)
        (args : List Variable) (kwargs : Named Variable) (t u : Trace) (v : Variable),
      t.dispatching = false →
      (callOverride inline (.tensor x) origin hook subclass p name args kwargs).outcome t =
        (.ok v, u) →
      ∀ w ∈ .override (.tensor x) origin hook subclass p :: .tensor x :: args ++ kwargs.values,
        ∀ g ∈ w.guards, g ∈ v.guards := by
  intro h
  have hkept := h (fun _ => refuse .noInliner) .grid (.local "x") "S.__torch_function__"
    (.subclass "S") (.ofGuards (.ofList [.lasting (.local "x") .typeMatch])) "dim" [] []
    { Trace.ofInput "x" with dispatching := false } _ _ rfl rfl _ (List.mem_cons_self ..)
    (.lasting (.local "x") .typeMatch) (by decide)
  exact absurd hkept (by decide)

end TensorCapture
