import TensorCapture.Proofs.Graph.Growth
import TensorCapture.Proofs.Placeholder.Layers

set_option autoImplicit false

/-! # What a later trace keeps

A later trace has the settings and the library of the earlier one, the nodes with their operands
and examples, the modules under their paths, and the layers in their cells. Only a lazy layer
changes: its first call gives it the parameters that it keeps from then on.
-/

namespace TensorCapture

/-! ## Modules -/

namespace Module

/-- The layer that a module runs, once it has parameters. -/
def layer? : Module → Option Linear
  | linear layer => some layer
  | lazyLinear layer => layer.inner
  | replay _ => none

/-- Whether the module is a layer, lazy or not. -/
def isLayer : Module → Bool
  | linear _ | lazyLinear _ => true
  | replay _ => false

/-- What calls can make of a module: a lazy layer gets its parameters. -/
inductive Becomes : Module → Module → Prop where
  | refl (m : Module) : Becomes m m
  | materialized {l : LazyLinear} (h : l.inner = none) (layer : Linear) :
      Becomes (.lazyLinear l) (.lazyLinear { l with inner := some layer })

variable {m m' m'' : Module}

theorem Becomes.trans (h : m.Becomes m') (h' : m'.Becomes m'') : m.Becomes m'' := by
  cases h with
  | refl => exact h'
  | materialized hnone layer =>
      cases h' with
      | refl => exact .materialized hnone layer
      | materialized hsome _ => cases hsome

theorem Becomes.isLayer_eq (h : m.Becomes m') : m'.isLayer = m.isLayer := by
  cases h <;> rfl

/-- A layer that has parameters keeps them. -/
theorem Becomes.layer_eq (h : m.Becomes m') {layer : Linear} (hlayer : m.layer? = some layer) :
    m'.layer? = some layer := by
  cases h with
  | refl => exact hlayer
  | materialized hnone _ =>
      have hsome : some layer = none := hlayer.symm.trans hnone
      cases hsome

/-- A call makes nothing else of a module. -/
theorem becomes_forward (m : Module) (args : List Value) (kwargs : Named Value) (w : Workshop) :
    m.Becomes (m.forward args kwargs w).2.1 := by
  cases m with
  | linear layer => exact .refl _
  | replay r => exact .refl _
  | lazyLinear layer =>
      show (lazyLinear layer).Becomes (lazyLinear (layer.forward args).2.1)
      unfold LazyLinear.forward
      cases hinner : layer.inner with
      | some inner => exact .refl _
      | none =>
          dsimp only
          split
          · exact .refl _
          · split
            · exact .refl _
            · exact .materialized hinner _

/-- A call leaves the cells of all modules as they are. -/
theorem modules_forward (m : Module) (args : List Value) (kwargs : Named Value) (w : Workshop) :
    (m.forward args kwargs w).2.2.modules = w.modules := by
  cases m with
  | linear layer => rfl
  | lazyLinear layer =>
      rcases hrun : layer.forward args with ⟨outcome, layer', width⟩
      cases width with
      | none => simp only [forward, hrun]
      | some inputs =>
          simp only [forward, hrun]
          rfl
  | replay r => rfl

end Module

/-! ## Cells -/

/-- The same cells, in which only lazy layers may have got their parameters. -/
def Trace.Warms (t u : Trace) : Prop :=
  ∀ i : Nat, Option.Rel Module.Becomes t.workshop.modules[i]? u.workshop.modules[i]?

theorem Trace.Warms.of_modules_eq {t u : Trace} (h : u.workshop.modules = t.workshop.modules) :
    t.Warms u := by
  intro i
  rw [h]
  cases t.workshop.modules[i]? with
  | none => exact .none
  | some m => exact .some (.refl m)

instance : IsPreorder Trace Trace.Warms where
  refl _ := .of_modules_eq rfl
  trans t u v h h' i := by
    have hrel := h i
    have hrel' := h' i
    generalize t.workshop.modules[i]? = found at hrel ⊢
    generalize u.workshop.modules[i]? = found' at hrel hrel'
    generalize v.workshop.modules[i]? = found'' at hrel' ⊢
    cases hrel with
    | none => exact hrel'
    | some hm =>
        cases hrel' with
        | some hm' => exact .some (hm.trans hm')

theorem Trace.Warms.exists_after {t u : Trace} (h : t.Warms u) {i : Nat} {m : Module}
    (hm : t.workshop.modules[i]? = some m) :
    ∃ m', u.workshop.modules[i]? = some m' ∧ m.Becomes m' := by
  have hrel := h i
  rw [hm] at hrel
  generalize u.workshop.modules[i]? = found at hrel ⊢
  cases hrel with
  | some hbecomes => exact ⟨_, rfl, hbecomes⟩

theorem Trace.Warms.exists_before {t u : Trace} (h : t.Warms u) {i : Nat} {m' : Module}
    (hm' : u.workshop.modules[i]? = some m') :
    ∃ m, t.workshop.modules[i]? = some m ∧ m.Becomes m' := by
  have hrel := h i
  rw [hm'] at hrel
  generalize t.workshop.modules[i]? = found at hrel ⊢
  cases hrel with
  | some hbecomes => exact ⟨_, rfl, hbecomes⟩

namespace Capture

theorem warms_say (level : Log.Level) (channel : Log.Channel) (text : String) :
    Keeps Trace.Warms (say level channel text) :=
  fun _ => .of_modules_eq rfl

theorem warms_runKernel (act : Library → Kernel Value × Library) :
    Keeps Trace.Warms (runKernel act) := by
  intro t
  rw [outcome_runKernel]
  exact .of_modules_eq rfl

theorem warms_runMethod (name : String) (args : List Value) (kwargs : Named Value) :
    Keeps Trace.Warms (runMethod name args kwargs) := by
  cases args with
  | nil => exact keeps_pure _
  | cons receiver rest => exact warms_runKernel _

theorem warms_inMode {α : Type} (placeholders : Bool) {act : Capture α}
    (h : Keeps Trace.Warms act) : Keeps Trace.Warms (inMode placeholders act) :=
  keeps_ite _
    (fun t => h { t with workshop := { t.workshop with library := t.workshop.library.enter } }) h

theorem warms_runCopy (copy : Module) (args : List Value) (kwargs : Named Value) :
    Keeps Trace.Warms (runCopy copy args kwargs) := by
  intro t
  unfold runCopy
  rw [outcome_runModule]
  exact .of_modules_eq (copy.modules_forward args kwargs t.workshop)

/-- Calling the module in a cell makes of it what a call can make of it. -/
theorem warms_runItself {t : Trace} {handle : Nat} {m : Module}
    (h : ∀ found, t.workshop.modules[handle]? = some found → found = m) (args : List Value)
    (kwargs : Named Value) : t.Warms ((runItself handle m args kwargs).outcome t).2 := by
  unfold runItself
  rw [outcome_runModule]
  intro i
  dsimp only
  rw [Workshop.Twin.getElem?_modules_storeIn, m.modules_forward args kwargs t.workshop]
  by_cases hi : handle = i
  · subst hi
    rw [if_pos rfl]
    cases hfound : t.workshop.modules[handle]? with
    | none => exact .none
    | some found =>
        rw [h found hfound]
        exact .some (m.becomes_forward args kwargs t.workshop)
  · rw [if_neg hi]
    exact Trace.Warms.of_modules_eq rfl i

theorem outcome_moduleFor {path : String} {given : Option Nat} {t t' : Trace} {handle : Nat}
    {m : Module} (h : (moduleFor path given).outcome t = (.ok (handle, m), t')) :
    t' = t ∧ given.or (t.graph.module? path) = some handle ∧
      t.workshop.modules[handle]? = some m := by
  unfold moduleFor at h
  rw [outcome_bind_ok (outcome_get t)] at h
  split at h
  · cases h
  · rename_i found hfound
    split at h
    · cases h
    · rename_i m' hm'
      cases h
      exact ⟨rfl, hfound, hm'⟩

theorem warms_runItself_inMode (placeholders : Bool) {t : Trace} {handle : Nat} {m : Module}
    (h : ∀ found, t.workshop.modules[handle]? = some found → found = m) (args : List Value)
    (kwargs : Named Value) :
    t.Warms ((inMode placeholders (runItself handle m args kwargs)).outcome t).2 := by
  cases placeholders with
  | false => exact warms_runItself h args kwargs
  | true =>
      -- the cells are the same one level deeper in placeholder mode
      have hentered : ∀ found,
          ({ t with workshop := { t.workshop with library := t.workshop.library.enter } } :
            Trace).workshop.modules[handle]? = some found → found = m := h
      exact warms_runItself hentered args kwargs

theorem warms_callModule (path : String) (given : Option Nat) (args : List Value)
    (kwargs : Named Value) (placeholders : Bool) :
    Keeps Trace.Warms (callModule path given args kwargs placeholders) := by
  have second (handle : Nat) (m : Module) : Keeps Trace.Warms (do
      let m ← asks fun t => (t.workshop.modules[handle]?).getD m
      inMode placeholders (runItself handle m args kwargs)) := by
    intro t
    refine related_bind (keeps_asks _ t) fun called t' hout => ?_
    cases hout
    refine warms_runItself_inMode placeholders (fun found hfound => ?_) args kwargs
    show found = (t.workshop.modules[handle]?).getD m
    rw [hfound]
    rfl
  intro t
  refine related_bind (keeps_moduleFor path given t) fun (handle, m) t' hout => ?_
  obtain ⟨rfl, -, hm⟩ := outcome_moduleFor hout
  refine related_bind (keeps_asks _ t') fun w t₁ hout => ?_
  cases hout
  dsimp only
  by_cases hlazy : m.isLazy t'.workshop = true
  · -- the module that is called first is the one in the cell
    rw [if_pos hlazy]
    refine related_bind (warms_say _ _ _ t') fun _ t₁ hout => ?_
    cases hout
    refine related_bind (warms_runItself ?_ args kwargs) fun first t₂ _ => ?_
    · intro found hfound
      exact Option.some.inj (hfound.symm.trans hm)
    · split
      · exact keeps_bind (keeps_interpretError _ args placeholders _) (fun _ => second handle m) t₂
      · exact second handle m t₂
  · rw [if_neg hlazy]
    refine keeps_ite _ ?_ ?_ t'
    · exact warms_inMode true (warms_runCopy _ args kwargs)
    · exact warms_runCopy _ args kwargs

theorem warms_callTarget (target : Target) (module? : Option Nat) (args : List Value)
    (kwargs : Named Value) (placeholders : Bool) :
    Keeps Trace.Warms (callTarget target module? args kwargs placeholders) := by
  cases target with
  | placeholder name => exact keeps_breach _
  | builtin b => exact warms_inMode _ (warms_runKernel _)
  | function name => exact warms_inMode _ (warms_runKernel _)
  | method name => exact warms_inMode _ (warms_runMethod _ _ _)
  | module path => exact warms_callModule _ _ _ _ _

theorem warms_runNode (id : NodeId) (module? : Option Nat) :
    Keeps Trace.Warms (runNode id module?) :=
  keeps_runNode (fun target => warms_callTarget target module?) id

theorem warms_keepingGenerator {α : Type} {act : Capture α} (h : Keeps Trace.Warms act) :
    Keeps Trace.Warms (keepingGenerator act) :=
  fun t => h t

theorem warms_exampleValue (id : NodeId) (supplied : Option Value) (module? : Option Nat) :
    Keeps Trace.Warms (exampleValue id supplied module?) := by
  apply warms_keepingGenerator
  cases supplied with
  | none => exact warms_runNode id module?
  | some value => exact keeps_bind keeps_config fun _ => keeps_pure _

end Capture

/-! ## Later traces -/

/-- Every module in a cell is a layer. -/
def Trace.Layered (t : Trace) : Prop :=
  ∀ (i : Nat) (m : Module), t.workshop.modules[i]? = some m → m.isLayer = true

/-- A later trace. -/
structure Trace.Continues (t u : Trace) : Prop where
  config_eq : u.config = t.config
  library_eq : u.library = t.library
  node : ∀ (i : Nat) (n : Node), t.graph.nodes[i]? = some n →
    ∃ n', u.graph.nodes[i]? = some n' ∧ n.Grows n'
  module : ∀ (path : String) (handle : Nat), t.graph.module? path = some handle →
    u.graph.module? path = some handle
  cell : ∀ (i : Nat) (m : Module), t.workshop.modules[i]? = some m →
    ∃ m', u.workshop.modules[i]? = some m' ∧ m.Becomes m'
  layered : t.Layered → u.Layered

namespace Trace

variable {t u v : Trace}

theorem Continues.refl (t : Trace) : t.Continues t where
  config_eq := rfl
  library_eq := rfl
  node _ n hn := ⟨n, hn, .refl n⟩
  module _ _ h := h
  cell _ m hm := ⟨m, hm, .refl m⟩
  layered h := h

theorem Continues.trans (h : t.Continues u) (h' : u.Continues v) : t.Continues v where
  config_eq := h'.config_eq.trans h.config_eq
  library_eq := h'.library_eq.trans h.library_eq
  node i n hn := by
    obtain ⟨n', hn', hgrows⟩ := h.node i n hn
    obtain ⟨n'', hn'', hgrows'⟩ := h'.node i n' hn'
    exact ⟨n'', hn'', hgrows.trans hgrows'⟩
  module path handle hm := h'.module path handle (h.module path handle hm)
  cell i m hm := by
    obtain ⟨m', hm', hbecomes⟩ := h.cell i m hm
    obtain ⟨m'', hm'', hbecomes'⟩ := h'.cell i m' hm'
    exact ⟨m'', hm'', hbecomes.trans hbecomes'⟩
  layered hlayered := h'.layered (h.layered hlayered)

/-- A trace whose graph grew and is otherwise as before. -/
theorem Continues.of_graph {g : Graph} (hnode : ∀ (i : Nat) (n : Node),
      t.graph.nodes[i]? = some n → ∃ n', g.nodes[i]? = some n' ∧ n.Grows n')
    (hmodules : g.modules = t.graph.modules) : t.Continues { t with graph := g } where
  config_eq := rfl
  library_eq := rfl
  node := hnode
  module path handle hm := by
    unfold Graph.module? at hm ⊢
    rw [hmodules]
    exact hm
  cell _ m hm := ⟨m, hm, .refl m⟩
  layered h := h

/-- A trace whose workshop worked, with the same library. -/
theorem Continues.of_workshop {w : Workshop} (hlibrary : w.library = t.workshop.library)
    (hcells : t.Warms { t with workshop := w }) : t.Continues { t with workshop := w } where
  config_eq := rfl
  library_eq := hlibrary
  node _ n hn := ⟨n, hn, .refl n⟩
  module _ _ h := h
  cell _ _ hm := hcells.exists_after hm
  layered hlayered i m' hm' := by
    obtain ⟨m, hm, hbecomes⟩ := hcells.exists_before hm'
    rw [hbecomes.isLayer_eq]
    exact hlayered i m hm

/-- A trace with the same settings, graph and workshop. -/
theorem Continues.of_eq (hconfig : u.config = t.config) (hgraph : u.graph = t.graph)
    (hworkshop : u.workshop = t.workshop) : t.Continues u where
  config_eq := hconfig
  library_eq := congrArg Workshop.library hworkshop
  node i n hn := by
    rw [hgraph]
    exact ⟨n, hn, .refl n⟩
  module path handle hm := by
    rw [hgraph]
    exact hm
  cell i m hm := by
    rw [hworkshop]
    exact ⟨m, hm, .refl m⟩
  layered hlayered i m hm := by
    rw [hworkshop] at hm
    exact hlayered i m hm

end Trace

end TensorCapture
