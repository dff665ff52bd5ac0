import TensorCapture.Proofs.Capture.Isolation
import TensorCapture.Proofs.Placeholder.Performing

set_option autoImplicit false

/-! # Placeholder traces do not depend on elements

Two runs with placeholders ask for the same operations, on supplied examples, with layers and with
inlined code that are equal up to the elements of tensors. Then every operation comes to the same
outcome in both, up to the elements of supplied parameters that a variable remembers, and both
graphs are the same. No example value in them holds elements.
-/

namespace TensorCapture

/-! ## Twins at the start -/

namespace Trace

variable {t t' : Trace}

/-- Traces with placeholders are twins before their first step. -/
theorem twin_start (name name' : String) {config : Config}
    (h : config.placeholderPropagation = true) (library : Library) :
    (start name config library).Twin (start name' config library) where
  config_eq := rfl
  placeholders := h
  graph_eq := rfl
  hollow := Graph.hollow_empty
  workshop := ⟨rfl, fun _ => .none⟩
  inliner := .none
  dispatching_eq := rfl

theorem Twin.size_modules_eq (h : t.Twin t') :
    t'.workshop.modules.size = t.workshop.modules.size := by
  have hnone (i : Nat) : t.workshop.modules[i]? = none ↔ t'.workshop.modules[i]? = none := by
    obtain ⟨hnone, hnone'⟩ | ⟨m, m', hm, hm', -⟩ := h.workshop.cell i
    · rw [hnone, hnone']
    · rw [hm, hm']
      exact iff_of_false (Option.some_ne_none m) (Option.some_ne_none m')
  -- the first empty cell is the same, and it tells the size
  simp only [Array.getElem?_eq_none_iff] at hnone
  have hle := (hnone t'.workshop.modules.size).mpr (Nat.le_refl _)
  have hge := (hnone t.workshop.modules.size).mp (Nat.le_refl _)
  omega

/-- Twin modules get the same handle. -/
theorem Twin.addModule (h : t.Twin t') {m m' : Module} (hm : m.Twin m') :
    (t'.addModule m').1 = (t.addModule m).1 ∧ (t.addModule m).2.Twin (t'.addModule m').2 := by
  have hsize := h.size_modules_eq
  refine ⟨hsize, h.withWorkshop ⟨h.workshop.library_eq, fun i => ?_⟩⟩
  show Option.Rel Module.Twin (t.workshop.modules.push m)[i]? (t'.workshop.modules.push m')[i]?
  rw [Array.getElem?_push, Array.getElem?_push, hsize]
  by_cases hi : i = t.workshop.modules.size
  · rw [if_pos hi, if_pos hi]
    exact .some hm
  · rw [if_neg hi, if_neg hi]
    exact h.workshop.modules i

theorem Twin.register (h : t.Twin t') (path : String) (handle : Nat) :
    (t.register path handle).Twin (t'.register path handle) := by
  have hgraph : (t.graph.register path handle).Hollow := h.hollow.congr rfl
  have htwin := h.withGraph hgraph
  unfold Trace.register
  rw [h.graph_eq]
  exact htwin

end Trace

/-! ## Runs -/

theorem Capture.Alike.map_erase_eq {r r' : Outcome CaptureError Answer}
    (h : Alike Answer.Same r r') : r.map Answer.erase = r'.map Answer.erase := by
  cases h with
  | ok h => exact congrArg Except.ok h
  | error fault => rfl

namespace Run

/-- The outcomes without the elements of supplied tensors. -/
def erasedOutcomes (outcomes : List (Outcome CaptureError Answer)) :
    List (Outcome CaptureError Answer) :=
  outcomes.map (Except.map Answer.erase)

/-- Runs of twins that came to the same so far. -/
structure Twin (r r' : Run) : Prop where
  trace : r.trace.Twin r'.trace
  outcomes : erasedOutcomes r.outcomes = erasedOutcomes r'.outcomes

/-- Two clients that ask for the same as long as they are told the same, up to elements. -/
def SameClients (client client' : Client) : Prop :=
  ∀ outcomes outcomes', erasedOutcomes outcomes = erasedOutcomes outcomes' →
    (client outcomes).Same (client' outcomes')

variable {client client' : Client} {r r' : Run}

theorem Twin.next (h : r.Twin r') (hclients : SameClients client client') :
    (r.next client).Twin (r'.next client') := by
  -- told the same so far, the clients ask for the same operation up to elements
  have hsame := hclients r.outcomes r'.outcomes h.outcomes
  obtain ⟨halike, htwin⟩ := Capture.agree_perform hsame r.trace r'.trace h.trace
  refine ⟨htwin, ?_⟩
  have hlast := halike.map_erase_eq
  show (r.outcomes ++ [_]).map _ = (r'.outcomes ++ [_]).map _
  rw [List.map_append, List.map_append]
  exact congrArg₂ (· ++ ·) h.outcomes (congrArg ([·]) hlast)

theorem Twin.alone (h : r.Twin r') (hclients : SameClients client client') (count : Nat) :
    (r.alone client count).Twin (r'.alone client' count) := by
  induction count generalizing r r' with
  | zero => exact h
  | succ count ih =>
      rw [alone_succ, alone_succ]
      exact ih (h.next hclients)

end Run

/-- **A placeholder trace does not depend on elements.** On twins, clients that ask for the same
operations up to elements are told the same after any number of operations, errors included, and
the graphs are the same: the nodes with their example values, the inputs, the literals and the
guards. Every tensor in an example value is a placeholder. -/
theorem placeholder_run_ignores_elements {t t' : Trace} (ht : t.Twin t')
    {client client' : Client} (hclients : Run.SameClients client client') (count : Nat) :
    Run.erasedOutcomes (Run.alone client ⟨t, []⟩ count).outcomes =
        Run.erasedOutcomes (Run.alone client' ⟨t', []⟩ count).outcomes ∧
      (Run.alone client' ⟨t', []⟩ count).trace.graph =
        (Run.alone client ⟨t, []⟩ count).trace.graph ∧
      ∀ (i : Nat) (n : Node) (v : Value) (tensor : Tensor),
        (Run.alone client ⟨t, []⟩ count).trace.graph.nodes[i]? = some n → n.example? = some v →
          v.Holds tensor → tensor.isPlaceholder = true := by
  have hstart : Run.Twin ⟨t, []⟩ ⟨t', []⟩ := ⟨ht, rfl⟩
  have hend := hstart.alone hclients count
  refine ⟨hend.outcomes, hend.trace.graph_eq, fun i n v tensor hn hv hholds => ?_⟩
  exact (hend.trace.hollow i n v hn hv).isPlaceholder hholds

/-! ## A layer applied to an input -/

/-- A trace with placeholders and one layer, whose weight is one row. -/
def Trace.withLayer (row : Array Float) : Trace :=
  let (handle, t) := (Trace.start "main" .standard (.ofSeed 0)).addModule
    (.linear (.ofTensors "layer" (.ofElements [1, 2] row .f32) none))
  t.register "layer" handle

/-- Adds an input with an example and applies the layer to it. -/
def Client.applyLayer (row : Array Float) : Client := fun outcomes =>
  match outcomes.length with
  | 0 => .addInput "x" (.local "x")
  | 1 => .create ⟨0⟩ (some (.tensor (.ofElements [2] row .f32))) none .plain .none
  | 2 => .record (.module "layer") [.node ⟨0⟩] []
  | _ => .create ⟨1⟩ none none .plain .none

theorem Trace.twin_withLayer (row row' : Array Float) :
    (Trace.withLayer row).Twin (Trace.withLayer row') := by
  have hstandard : Config.standard.placeholderPropagation = true := rfl
  have hstart := Trace.twin_start "main" "main" hstandard (.ofSeed 0)
  have hlayer (row : Array Float) : Linear.erase
      (.ofTensors "layer" (.ofElements [1, 2] row .f32) none) =
        ⟨"layer", ((Tensor.placeholder [1, 2] .f32).toParameter), none⟩ := rfl
  obtain ⟨-, hadded⟩ := hstart.addModule (.linear ((hlayer row).trans (hlayer row').symm))
  exact hadded.register "layer" 0

theorem Client.sameClients_applyLayer (row row' : Array Float) :
    Run.SameClients (Client.applyLayer row) (Client.applyLayer row') := by
  intro outcomes outcomes' h
  have hlength : outcomes.length = outcomes'.length := by
    have hlength := congrArg List.length h
    rwa [Run.erasedOutcomes, Run.erasedOutcomes, List.length_map, List.length_map] at hlength
  unfold Client.applyLayer
  rw [hlength]
  split <;> rfl

/-- Other weights and another example change nothing, and both nodes get their example. -/
theorem placeholder_run_ignores_elements_withLayer :
    (Trace.withLayer #[1, 2]).Twin (Trace.withLayer #[3, 4]) ∧
      (Run.alone (Client.applyLayer #[3, 4]) ⟨Trace.withLayer #[3, 4], []⟩ 4).trace.graph =
        (Run.alone (Client.applyLayer #[1, 2]) ⟨Trace.withLayer #[1, 2], []⟩ 4).trace.graph ∧
      ((Run.alone (Client.applyLayer #[1, 2]) ⟨Trace.withLayer #[1, 2], []⟩
        4).trace.graph.nodes.toList.map fun n => n.example?.map Value.typeName) =
          [some "torch.Tensor", some "torch.Tensor"] := by
  have htwin := Trace.twin_withLayer #[1, 2] #[3, 4]
  have hclients := Client.sameClients_applyLayer #[1, 2] #[3, 4]
  have h := placeholder_run_ignores_elements htwin hclients 4
  exact ⟨htwin, h.2.1, rfl⟩

end TensorCapture
