import TensorCapture.Capture.Execution
import TensorCapture.Proofs.Capture.Isolation
import TensorCapture.Proofs.Placeholder.Independence
import TensorCapture.Proofs.Shadow.Methods

set_option autoImplicit false

/-! # A program captured eagerly and on placeholders

A program is captured twice, with settings that differ in the use of placeholders alone. As long as
all its operations succeed in both captures, the trace on placeholders shadows the eager trace: it
has the same nodes and guards, and every operation gives the same variables, but for numbers that
only the eager trace remembers. Where shapes are dynamic there is a proviso. `item` gives a zero on
placeholders, and what an operation takes for a count must not come from there: a program that
subscripts a tuple with it can get another item in each capture.
-/

namespace TensorCapture

/-! ## Operations and answers -/

/-- The same answer, up to shadows. -/
inductive Answer.ShadowedBy : Answer → Answer → Prop where
  | value {v v' : Variable} (h : v.ShadowedBy v') : ShadowedBy (value v) (value v')
  | node (id : NodeId) : ShadowedBy (node id) (node id)
  | values {vs vs' : List Variable} (h : Variable.AllShadowedBy vs vs') :
      ShadowedBy (values vs) (values vs')

/-- The same operation on a trace and on its shadow. Supplied examples are plain tensors and
parameters. -/
inductive Operation.ShadowedBy : Operation → Operation → Prop where
  | callMethod {x x' : SymbolicTensor} {args args' : List Variable}
      {kwargs kwargs' : Named Variable} (hx : x.ShadowedBy x') (name : String)
      (hargs : Variable.AllShadowedBy args args')
      (hkwargs : Variable.NamedShadowedBy kwargs kwargs') :
      ShadowedBy (callMethod (.tensor x) name args kwargs)
        (callMethod (.tensor x') name args' kwargs')
  | readMember {x x' : SymbolicTensor} (hx : x.ShadowedBy x') (name : String) :
      ShadowedBy (readMember x name) (readMember x' name)
  | unpack {x x' : SymbolicTensor} (hx : x.ShadowedBy x') : ShadowedBy (unpack x) (unpack x')
  | addInput (name : String) (source : Source) :
      ShadowedBy (addInput name source) (addInput name source)
  | record (target : Target) (args : List Operand) (kwargs : Named Operand) :
      ShadowedBy (record target args kwargs) (record target args kwargs)
  | recordItem (node : NodeId) (index : Nat) :
      ShadowedBy (recordItem node index) (recordItem node index)
  | create (node : NodeId) {supplied : Option Value} (hsupplied : ∀ v ∈ supplied, v.Plain)
      (module? : Option Nat) {role role' : TensorRole} (hrole : role.ShadowedBy role')
      (p : Provenance) :
      ShadowedBy (create node supplied module? role p) (create node supplied module? role' p)

/-- The nodes from which the operation takes an index, an axis, a count or an extent when it runs a
node: the node that it records for a method, or the one that it classifies. -/
def Operation.counted (g : Graph) : Operation → List NodeId
  | callMethod (.tensor x) name args kwargs =>
      match Capture.callOperands x args kwargs with
      | .ok (operands, _) => g.counted (.method name) operands
      | .error _ => []
  | create node none _ _ _ =>
      match g.nodes[node.index]? with
      | some n => g.counted n.target n.args
      | none => []
  | _ => []

namespace Capture

variable {settings : Config} {t t' : Trace}

theorem shadows_value {act act' : Capture Variable}
    (h : Shadows settings Variable.ShadowedBy act act' t t') :
    Shadows settings Answer.ShadowedBy (Answer.value <$> act) (Answer.value <$> act') t t' :=
  meets_map h fun _ _ _ _ ⟨hv, hu⟩ => ⟨.value hv, hu⟩

theorem shadows_values {act act' : Capture (List Variable)}
    (h : Shadows settings Variable.AllShadowedBy act act' t t') :
    Shadows settings Answer.ShadowedBy (Answer.values <$> act) (Answer.values <$> act') t t' :=
  meets_map h fun _ _ _ _ ⟨hvs, hu⟩ => ⟨.values hvs, hu⟩

theorem shadows_node {act act' : Capture NodeId} (h : Shadows settings Eq act act' t t') :
    Shadows settings Answer.ShadowedBy (Answer.node <$> act) (Answer.node <$> act') t t' := by
  refine meets_map h ?_
  rintro id u _ u' ⟨rfl, hu⟩
  exact ⟨.node id, hu⟩

/-- An operation, of which the counts agree, is performed on a trace and on its shadow. -/
theorem shadows_perform (h : t.ShadowedBy settings t') {operation operation' : Operation}
    (hoperation : operation.ShadowedBy operation')
    (hcounted : CountsAgree settings t t' (operation.counted t.graph)) :
    Shadows settings Answer.ShadowedBy (perform operation) (perform operation') t t' := by
  cases hoperation with
  | callMethod hx name hargs hkwargs =>
      refine shadows_value (shadows_callMethod h hx name hargs hkwargs ?_)
      intro operands named hoperands
      rw [Operation.counted, hoperands] at hcounted
      exact hcounted
  | readMember hx name => exact shadows_value (shadows_readMember h hx name)
  | unpack hx => exact shadows_values (shadows_unpack h hx)
  | addInput name source => exact shadows_node (shadows_addInput h name source)
  | record target args kwargs =>
      refine shadows_node (meets_imp (meets_record h target args kwargs) ?_)
      rintro id u _ u' ⟨rfl, hu, -⟩
      exact ⟨rfl, hu⟩
  | recordItem node index =>
      refine shadows_node (meets_imp (meets_recordItem h node index) ?_)
      rintro id u _ u' ⟨rfl, hu, -⟩
      exact ⟨rfl, hu⟩
  | create node hsupplied module? hrole p =>
      refine shadows_value (shadows_create h hrole p node hsupplied module? ?_)
      rintro rfl n hn
      rw [Operation.counted, hn] at hcounted
      exact hcounted

end Capture

/-! ## Runs -/

namespace Run

/-- Every operation so far succeeded. -/
def Succeeds (r : Run) : Prop := ∀ outcome ∈ r.outcomes, outcome.isOk = true

instance (r : Run) : Decidable r.Succeeds :=
  inferInstanceAs (Decidable (∀ outcome ∈ r.outcomes, outcome.isOk = true))

/-- Both operations succeeded, with answers that shadow each other. -/
def SameAnswer (outcome outcome' : Outcome CaptureError Answer) : Prop :=
  ∃ answer answer', outcome = .ok answer ∧ outcome' = .ok answer' ∧ answer.ShadowedBy answer'

/-- A run whose operations succeeded, and one that shadows it. -/
structure ShadowedBy (settings : Config) (r r' : Run) : Prop where
  trace : r.trace.ShadowedBy settings r'.trace
  outcomes : List.Forall₂ SameAnswer r.outcomes r'.outcomes

/-- Two clients that ask for the same as long as they are answered the same. -/
def ShadowedClients (client client' : Client) : Prop :=
  ∀ outcomes outcomes', List.Forall₂ SameAnswer outcomes outcomes' →
    (client outcomes).ShadowedBy (client' outcomes')

/-- What the next operation takes for counts is the same in both runs. -/
def NextCountsAgree (settings : Config) (client : Client) (r r' : Run) : Prop :=
  Capture.CountsAgree settings r.trace r'.trace ((client r.outcomes).counted r.trace.graph)

variable {settings : Config} {client client' : Client} {r r' : Run}

theorem alone_succ' (client : Client) (r : Run) (count : Nat) :
    r.alone client (count + 1) = (r.alone client count).next client :=
  Function.iterate_succ_apply' (next client) count r

theorem Succeeds.of_next (h : (r.next client).Succeeds) : r.Succeeds :=
  fun outcome houtcome => h outcome (List.mem_append_left _ houtcome)

/-- The operation after which all have succeeded did so itself. -/
theorem Succeeds.exists_answer (h : (r.next client).Succeeds) :
    ∃ answer u, (Capture.perform (client r.outcomes)).outcome r.trace = (.ok answer, u) ∧
      r.next client = ⟨u, r.outcomes ++ [.ok answer]⟩ := by
  unfold next at h ⊢
  rcases hout : (Capture.perform (client r.outcomes)).outcome r.trace with ⟨outcome, u⟩
  rw [hout] at h
  have hok := h outcome (List.mem_append_right _ (List.mem_singleton_self outcome))
  cases outcome with
  | error fault => cases hok
  | ok answer => exact ⟨answer, u, rfl, rfl⟩

/-- One operation that succeeds in both runs. -/
theorem ShadowedBy.next (h : r.ShadowedBy settings r') (hclients : ShadowedClients client client')
    (hcounts : NextCountsAgree settings client r r') (hok : (r.next client).Succeeds)
    (hok' : (r'.next client').Succeeds) :
    (r.next client).ShadowedBy settings (r'.next client') := by
  obtain ⟨answer, u, hout, hnext⟩ := hok.exists_answer
  obtain ⟨answer', u', hout', hnext'⟩ := hok'.exists_answer
  have hoperation := hclients r.outcomes r'.outcomes h.outcomes
  obtain ⟨hanswer, htrace⟩ :=
    Capture.shadows_perform h.trace hoperation hcounts answer u answer' u' hout hout'
  rw [hnext, hnext']
  refine ⟨htrace, List.rel_append h.outcomes ?_⟩
  exact .cons ⟨answer, answer', rfl, rfl, hanswer⟩ .nil

/-- Any number of operations that succeed in both runs. -/
theorem ShadowedBy.alone (h : r.ShadowedBy settings r') (hclients : ShadowedClients client client')
    (count : Nat) (hok : (r.alone client count).Succeeds)
    (hok' : (r'.alone client' count).Succeeds)
    (hcounts : ∀ k < count,
      NextCountsAgree settings client (r.alone client k) (r'.alone client' k)) :
    (r.alone client count).ShadowedBy settings (r'.alone client' count) := by
  induction count with
  | zero => exact h
  | succ count ih =>
      rw [alone_succ'] at hok hok' ⊢
      rw [alone_succ']
      have hbefore := ih hok.of_next hok'.of_next fun k hk => hcounts k (by omega)
      exact hbefore.next hclients (hcounts count (by omega)) hok hok'

end Run

/-! ## Traces -/

/-- The operation that a node records. -/
def Node.operation (n : Node) : Target × List Operand × Named Operand :=
  (n.target, n.args, n.kwargs)

theorem Graph.ShadowedBy.operations_eq {dynamicShapes : Bool} {g g' : Graph}
    (h : g.ShadowedBy dynamicShapes g') :
    g'.nodes.map Node.operation = g.nodes.map Node.operation := by
  refine Array.ext_getElem? fun i => ?_
  rw [Array.getElem?_map, Array.getElem?_map]
  have hrel := h.node i
  generalize g.nodes[i]? = found at hrel ⊢
  generalize g'.nodes[i]? = found' at hrel ⊢
  cases hrel with
  | none => rfl
  | some hnode =>
      show some (Node.operation _) = some (Node.operation _)
      unfold Node.operation
      rw [hnode.target_eq, hnode.args_eq, hnode.kwargs_eq]

namespace Trace

variable {settings : Config} {t t' : Trace}

/-- Traces before their first step, with settings that differ in the use of placeholders. -/
theorem shadowedBy_start (name name' : String) (h : settings.placeholderPropagation = false)
    (seed : UInt64) :
    (start name settings (.ofSeed seed)).ShadowedBy settings
      (start name' { settings with placeholderPropagation := true } (.ofSeed seed)) where
  eager := h
  config_eq := rfl
  config_eq' := rfl
  graph := Graph.shadowedBy_empty
  library_eq := rfl
  depth_eq := rfl
  modules _ := .none

/-- Modules that differ in elements at most are put in cells with the same handle. -/
theorem ShadowedBy.addModule (h : t.ShadowedBy settings t') {m m' : Module} (hm : m.Twin m') :
    (t'.addModule m').1 = (t.addModule m).1 ∧
      (t.addModule m).2.ShadowedBy settings (t'.addModule m').2 := by
  have hsize : t'.workshop.modules.size = t.workshop.modules.size :=
    Array.size_eq_of_rel h.modules
  refine ⟨hsize, h.withWorkshop rfl rfl fun i => ?_⟩
  show Option.Rel Module.Twin (t.workshop.modules.push m)[i]? (t'.workshop.modules.push m')[i]?
  rw [Array.getElem?_push, Array.getElem?_push, hsize]
  by_cases hi : i = t.workshop.modules.size
  · rw [if_pos hi, if_pos hi]
    exact .some hm
  · rw [if_neg hi, if_neg hi]
    exact h.modules i

theorem ShadowedBy.register (h : t.ShadowedBy settings t') (path : String) (handle : Nat) :
    (t.register path handle).ShadowedBy settings (t'.register path handle) := by
  refine h.withGraph ⟨h.graph.node, ?_⟩
  exact congrArg (Graph.register · path handle) h.graph.others_eq

end Trace

/-- **The trace on placeholders is the eager trace without the data.** A program is captured on a
trace and on its shadow, and all its operations succeed in both captures. Where shapes are dynamic,
what an operation takes for an index, an axis, a count or an extent is the same in both. Then both
graphs have the same nodes and guards, and every operation gives the same variables in both, up to
the numbers that only the eager trace remembers. -/
theorem placeholder_run_shadows_eager {settings : Config} {t t' : Trace}
    (ht : t.ShadowedBy settings t') {client client' : Client}
    (hclients : Run.ShadowedClients client client') (count : Nat)
    (hok : (Run.alone client ⟨t, []⟩ count).Succeeds)
    (hok' : (Run.alone client' ⟨t', []⟩ count).Succeeds)
    (hcounts : ∀ k < count, Run.NextCountsAgree settings client
      (Run.alone client ⟨t, []⟩ k) (Run.alone client' ⟨t', []⟩ k)) :
    let r := Run.alone client ⟨t, []⟩ count
    let r' := Run.alone client' ⟨t', []⟩ count
    r'.trace.graph.nodes.map Node.operation = r.trace.graph.nodes.map Node.operation ∧
      r'.trace.graph.guards = r.trace.graph.guards ∧
      List.Forall₂ Run.SameAnswer r.outcomes r'.outcomes := by
  have hstart : Run.ShadowedBy settings ⟨t, []⟩ ⟨t', []⟩ := ⟨ht, .nil⟩
  have hend := hstart.alone hclients count hok hok' hcounts
  refine ⟨hend.trace.graph.operations_eq, ?_, hend.outcomes⟩
  exact (congrArg Graph.guards hend.trace.graph.others_eq :)

/-! ## An item that is multiplied -/

/-- Settings under which shapes are dynamic, with placeholders or without. -/
def Config.dynamic (placeholders : Bool) : Config := ⟨true, true, placeholders, true⟩

/-- A trace with dynamic shapes and one layer, whose weight is one row. -/
def Trace.withRow (placeholders : Bool) (row : Array Float) : Trace :=
  let (handle, t) := (Trace.start "main" (.dynamic placeholders) (.ofSeed 0)).addModule
    (.linear (.ofTensors "layer" (.ofElements [1, 2] row .f32) none))
  t.register "layer" handle

/-- Applies the layer to an input and multiplies the input by the item that comes of it. -/
def Client.multiplyByItem (row : Array Float) : Client := fun outcomes =>
  match outcomes.length with
  | 0 => .addInput "x" (.local "x")
  | 1 => .create ⟨0⟩ (some (.tensor (.ofElements [2] row .f32))) none .plain .none
  | 2 => .record (.module "layer") [.node ⟨0⟩] []
  | 3 => .create ⟨1⟩ none none .plain .none
  | 4 => .record (.method "item") [.node ⟨1⟩] []
  | 5 => .create ⟨2⟩ none none .plain .none
  | 6 => .record (.function "mul") [.node ⟨0⟩, .node ⟨2⟩] []
  | _ => .create ⟨3⟩ none none .plain .none

theorem Trace.shadowedBy_dynamic : (Trace.start "main" (.dynamic false) (.ofSeed 0)).ShadowedBy
    (.dynamic false) (Trace.start "main" (.dynamic true) (.ofSeed 0)) :=
  shadowedBy_start "main" "main" rfl 0

theorem Trace.shadowedBy_withRow (row : Array Float) :
    (Trace.withRow false row).ShadowedBy (.dynamic false) (Trace.withRow true row) := by
  obtain ⟨-, hadded⟩ := shadowedBy_dynamic.addModule (.linear rfl)
  exact hadded.register "layer" 0

theorem Client.shadowed_multiplyByItem (row : Array Float) :
    Run.ShadowedClients (Client.multiplyByItem row) (Client.multiplyByItem row) := by
  intro outcomes outcomes' h
  have hplain : ∀ v ∈ some (Value.tensor (.ofElements [2] row .f32)), v.Plain := by
    rintro _ ⟨⟩
    exact Value.plain_tensor rfl
  have hnone : ∀ v ∈ (none : Option Value), v.Plain := nofun
  unfold Client.multiplyByItem
  rw [← h.length_eq]
  split
  · exact .addInput "x" (.local "x")
  · exact .create ⟨0⟩ hplain none (.refl .plain) .none
  · exact .record (.module "layer") [.node ⟨0⟩] []
  · exact .create ⟨1⟩ hnone none (.refl .plain) .none
  · exact .record (.method "item") [.node ⟨1⟩] []
  · exact .create ⟨2⟩ hnone none (.refl .plain) .none
  · exact .record (.function "mul") [.node ⟨0⟩, .node ⟨2⟩] []
  · exact .create ⟨3⟩ hnone none (.refl .plain) .none

/-- The zero that stands in for the item does not show: both graphs have the same four operations,
and all four get an example. -/
theorem placeholder_run_shadows_eager_multiplyByItem :
    (Trace.withRow false #[1, 2]).ShadowedBy (.dynamic false) (Trace.withRow true #[1, 2]) ∧
      (Run.alone (Client.multiplyByItem #[1, 2])
        ⟨Trace.withRow true #[1, 2], []⟩ 8).trace.graph.nodes.map Node.operation =
        (Run.alone (Client.multiplyByItem #[1, 2])
          ⟨Trace.withRow false #[1, 2], []⟩ 8).trace.graph.nodes.map Node.operation ∧
      ((Run.alone (Client.multiplyByItem #[1, 2])
        ⟨Trace.withRow false #[1, 2], []⟩ 8).trace.graph.nodes.toList.map fun n =>
          n.example?.map Value.typeName) =
        [some "torch.Tensor", some "torch.Tensor", some "float", some "torch.Tensor"] := by
  have htrace := Trace.shadowedBy_withRow #[1, 2]
  have hclients := Client.shadowed_multiplyByItem #[1, 2]
  -- neither the layer nor the item nor the product takes a count
  have hcounted : ∀ k < 8, (Client.multiplyByItem #[1, 2]
      (Run.alone (Client.multiplyByItem #[1, 2])
        ⟨Trace.withRow false #[1, 2], []⟩ k).outcomes).counted
      (Run.alone (Client.multiplyByItem #[1, 2])
        ⟨Trace.withRow false #[1, 2], []⟩ k).trace.graph = [] := by
    decide +kernel
  have hcounts (k : Nat) (hk : k < 8) :
      Run.NextCountsAgree (.dynamic false) (Client.multiplyByItem #[1, 2])
        (Run.alone (Client.multiplyByItem #[1, 2]) ⟨Trace.withRow false #[1, 2], []⟩ k)
        (Run.alone (Client.multiplyByItem #[1, 2]) ⟨Trace.withRow true #[1, 2], []⟩ k) := by
    unfold Run.NextCountsAgree
    rw [hcounted k hk]
    exact Capture.countsAgree_nil _ _ _
  obtain ⟨hnodes, -, -⟩ := placeholder_run_shadows_eager htrace hclients 8 (by decide +kernel)
    (by decide +kernel) hcounts
  refine ⟨htrace, hnodes, ?_⟩
  decide +kernel

/-! ## An item that selects -/

/-- The number of axes of the tensor that an operation gave. -/
def Answer.ndim? : Answer → Option Nat
  | value (.tensor x) => x.metadata.map Metadata.ndim
  | _ => none

theorem Answer.ShadowedBy.ndim?_eq {answer answer' : Answer} (h : answer.ShadowedBy answer') :
    answer'.ndim? = answer.ndim? := by
  cases h with
  | value h =>
      cases h with
      | tensor h => exact congrArg (Option.map Metadata.ndim) h.metadata_eq
      | _ => rfl
  | node _ => rfl
  | values _ => rfl

/-- The numbers of axes of the tensors that the operations gave. -/
def Run.ndims (r : Run) : List (Option Nat) :=
  r.outcomes.map fun outcome => outcome.toOption.bind Answer.ndim?

theorem Run.ndims_eq {r r' : Run} (h : List.Forall₂ SameAnswer r.outcomes r'.outcomes) :
    r'.ndims = r.ndims := by
  unfold ndims
  generalize r.outcomes = outcomes at h ⊢
  generalize r'.outcomes = outcomes' at h ⊢
  induction h with
  | nil => rfl
  | cons hanswer _ ih =>
      obtain ⟨answer, answer', rfl, rfl, hshadow⟩ := hanswer
      rw [List.map_cons, List.map_cons, ih]
      exact congrArg (· :: _) hshadow.ndim?_eq

/-- Selects one of two inputs by the item of another one. -/
def Client.selectByItem : Client := fun outcomes =>
  match outcomes.length with
  | 0 => .addInput "x" (.local "x")
  | 1 => .create ⟨0⟩ (some (.tensor (.ofElements [] #[1] .bool))) none .plain .none
  | 2 => .addInput "y" (.local "y")
  | 3 => .create ⟨1⟩ (some (.tensor (.ofElements [1] #[1] .f32))) none .plain .none
  | 4 => .addInput "z" (.local "z")
  | 5 => .create ⟨2⟩ (some (.tensor (.ofElements [1, 1] #[1] .f32))) none .plain .none
  | 6 => .record (.method "item") [.node ⟨0⟩] []
  | 7 => .create ⟨3⟩ none none .plain .none
  | 8 => .record (.builtin .getItem) [.tuple [.node ⟨1⟩, .node ⟨2⟩], .node ⟨3⟩] []
  | _ => .create ⟨4⟩ none none .plain .none

theorem Client.shadowed_selectByItem :
    Run.ShadowedClients Client.selectByItem Client.selectByItem := by
  intro outcomes outcomes' h
  have hplain (size : List Nat) (t : ElementType) :
      ∀ v ∈ some (Value.tensor (.ofElements size #[1] t)), v.Plain := by
    rintro _ ⟨⟩
    exact Value.plain_tensor rfl
  have hnone : ∀ v ∈ (none : Option Value), v.Plain := nofun
  unfold Client.selectByItem
  rw [← h.length_eq]
  split
  · exact .addInput "x" (.local "x")
  · exact .create ⟨0⟩ (hplain [] .bool) none (.refl .plain) .none
  · exact .addInput "y" (.local "y")
  · exact .create ⟨1⟩ (hplain [1] .f32) none (.refl .plain) .none
  · exact .addInput "z" (.local "z")
  · exact .create ⟨2⟩ (hplain [1, 1] .f32) none (.refl .plain) .none
  · exact .record (.method "item") [.node ⟨0⟩] []
  · exact .create ⟨3⟩ hnone none (.refl .plain) .none
  · exact .record (.builtin .getItem) [.tuple [.node ⟨1⟩, .node ⟨2⟩], .node ⟨3⟩] []
  · exact .create ⟨4⟩ hnone none (.refl .plain) .none

/-- Where the item selects, the proviso is needed: the eager run selects the input with two axes,
and the run on placeholders the one with one axis. All operations succeed in both. -/
theorem placeholder_run_differs_by_item :
    let r := Run.alone Client.selectByItem ⟨Trace.start "main" (.dynamic false) (.ofSeed 0), []⟩ 10
    let r' := Run.alone Client.selectByItem ⟨Trace.start "main" (.dynamic true) (.ofSeed 0), []⟩ 10
    (Trace.start "main" (.dynamic false) (.ofSeed 0)).ShadowedBy (.dynamic false)
        (Trace.start "main" (.dynamic true) (.ofSeed 0)) ∧
      Run.ShadowedClients Client.selectByItem Client.selectByItem ∧
      r.Succeeds ∧ r'.Succeeds ∧ ¬List.Forall₂ Run.SameAnswer r.outcomes r'.outcomes := by
  refine ⟨Trace.shadowedBy_dynamic, Client.shadowed_selectByItem, ?_, ?_, fun hsame => ?_⟩
  · decide +kernel
  · decide +kernel
  · have hndims := Run.ndims_eq hsame
    revert hndims
    decide +kernel

end TensorCapture
