import TensorCapture.Proofs.Shadow.Operands

set_option autoImplicit false

/-! # Modules in a trace and its shadow

A layer is called eagerly and on placeholders. Where both calls give a result, that of the shadow
is the eager one without elements, and the two modules go on to differ in elements at most: a lazy
layer draws its parameters from its seed and from the width of its input, and an input has the same
width on placeholders. A trace and its shadow therefore stay abreast.
-/

namespace TensorCapture

variable {args args' : List Value}

/-! ## Layers -/

/-- A layer that gives a result was called on one tensor. -/
theorem Linear.exists_input {l : Linear} {v : Value} (h : l.forward args = .ok v) :
    ∃ input : Tensor, args = [.tensor input] := by
  unfold forward at h
  split at h
  · rename_i input
    exact ⟨input, rfl⟩
  · cases h

theorem Value.allBlurTo_tensor {input : Tensor}
    (h : List.Forall₂ BlursTo [.tensor input] args') : args' = [.tensor input.erase] := by
  cases h with
  | cons hinput hrest =>
      cases hrest
      rw [hinput.eq_of_tensor]

theorem Linear.forward_shadow {l l' : Linear} (h : l.erase = l'.erase)
    (hargs : List.Forall₂ Value.BlursTo args args') {v w : Value} (hv : l.forward args = .ok v)
    (hw : l'.forward args' = .ok w) : w = v.erase := by
  obtain ⟨input, rfl⟩ := exists_input hv
  obtain rfl := Value.allBlurTo_tensor hargs
  -- the input without elements hides those of the parameters
  have herased : l.erase.forward (Value.eraseAll [.tensor input]) = .ok w := by
    rw [h, ← l'.forward_eraseAll]
    exact hw
  exact (l.forward_mirrors [.tensor input]).eq_erase hv herased

theorem LazyLinear.forward_plain (l : LazyLinear) {v : Value} (h : (l.forward args).1 = .ok v) :
    v.Plain := by
  unfold forward at h
  split at h
  · exact Linear.forward_plain _ args v h
  · split at h
    · cases h
    · split at h
      · cases h
      · exact Linear.forward_plain _ args v h

theorem LazyLinear.exists_input {l : LazyLinear} {v : Value} (h : (l.forward args).1 = .ok v) :
    ∃ input : Tensor, args = [.tensor input] := by
  unfold forward at h
  split at h
  · exact Linear.exists_input h
  · split at h
    · cases h
    · split at h
      · cases h
      · exact Linear.exists_input h

theorem LazyLinear.forward_shadow {l l' : LazyLinear} (h : l.erase = l'.erase)
    (hargs : List.Forall₂ Value.BlursTo args args') {v w : Value}
    (hv : (l.forward args).1 = .ok v) (hw : (l'.forward args').1 = .ok w) :
    w = v.erase ∧ (l.forward args).2.1.erase = (l'.forward args').2.1.erase := by
  obtain ⟨input, rfl⟩ := exists_input hv
  obtain rfl := Value.allBlurTo_tensor hargs
  obtain ⟨name, outputs, seed, inner⟩ := l
  obtain ⟨name', outputs', seed', inner'⟩ := l'
  obtain ⟨hname, houtputs, hseed, hinner⟩ := inner_erase_eq h
  dsimp only at hname houtputs hseed hinner
  subst hname houtputs hseed
  cases inner with
  | some linear =>
      cases inner' with
      | none => cases hinner
      | some linear' => exact ⟨Linear.forward_shadow (Option.some.inj hinner) hargs hv hw, h⟩
  | none =>
      cases inner' with
      | some linear' => cases hinner
      | none =>
          -- the width is the same, and with it the parameters
          have hwidth : widthOf ⟨name', outputs', seed', none⟩ [.tensor input.erase] =
              widthOf ⟨name', outputs', seed', none⟩ [.tensor input] := rfl
          unfold forward at hv hw ⊢
          dsimp only at hv hw ⊢
          rw [hwidth] at hw ⊢
          cases hinputs : widthOf ⟨name', outputs', seed', none⟩ [.tensor input] with
          | error fault =>
              rw [hinputs] at hv
              cases hv
          | ok inputs =>
              rw [hinputs] at hv hw
              dsimp only at hv hw ⊢
              cases hlinear : Linear.seeded name' inputs outputs' seed' with
              | error fault =>
                  rw [hlinear] at hv
                  cases hv
              | ok linear =>
                  rw [hlinear] at hv hw
                  exact ⟨Linear.forward_shadow rfl hargs hv hw, rfl⟩

/-- Where two modules that differ in elements at most both give a result, they go on to. -/
theorem Module.Twin.forward_shadow {m m' : Module} (h : m.Twin m')
    (hargs : List.Forall₂ Value.BlursTo args args') (kwargs kwargs' : Named Value)
    (w w' : Workshop) {v v' : Value} (hv : (m.forward args kwargs w).1 = .ok v)
    (hv' : (m'.forward args' kwargs' w').1 = .ok v') :
    v.Plain ∧ v' = v.erase ∧
      (m.forward args kwargs w).2.1.Twin (m'.forward args' kwargs' w').2.1 := by
  cases h with
  | @linear l l' h =>
      exact ⟨l.forward_plain args v hv, Linear.forward_shadow h hargs hv hv', .linear h⟩
  | @lazyLinear l l' h =>
      obtain ⟨hvalue, hlayer⟩ := LazyLinear.forward_shadow h hargs hv hv'
      exact ⟨l.forward_plain hv, hvalue, .lazyLinear hlayer⟩

/-! ## Copies -/

theorem LazyLinear.erase_erase (l : LazyLinear) : l.erase.erase = l.erase := by
  obtain ⟨name, outputs, seed, inner⟩ := l
  cases inner with
  | none => rfl
  | some linear =>
      exact congrArg (fun l => LazyLinear.mk name outputs seed (some l)) linear.erase_erase

/-- The copies that are called: an independent one, and one without elements. -/
theorem Module.Twin.copies {m m' : Module} (h : m.Twin m') : m.deepCopy.Twin m'.erase := by
  cases h with
  | @linear l l' h => exact .linear (h.trans l'.erase_erase.symm)
  | @lazyLinear l l' h => exact .lazyLinear (h.trans l'.erase_erase.symm)

/-! ## Traces abreast -/

/-- The same modules are under the same paths, up to elements. -/
structure Trace.Abreast (t t' : Trace) : Prop where
  module?_eq : t'.graph.module? = t.graph.module?
  modules : ∀ i : Nat, Option.Rel Module.Twin t.workshop.modules[i]? t'.workshop.modules[i]?

theorem Trace.ShadowedBy.abreast {settings : Config} {t t' : Trace}
    (h : t.ShadowedBy settings t') : t.Abreast t' where
  module?_eq := (congrArg Graph.module? h.graph.others_eq :)
  modules := h.modules

namespace Capture

variable {t t' : Trace}

/-- Where both replies are values, the one is shadowed by the other, and the traces stay abreast. -/
def RepliesShadowed (unknown : Prop) (r : Except LibraryError Value) (u : Trace)
    (r' : Except LibraryError Value) (u' : Trace) : Prop :=
  ∀ v v', r = .ok v → r' = .ok v' → v.ShadowedBy unknown v' ∧ u.Abreast u'

theorem reply_eq_ok {k : Kernel Value} {v : Value} (h : reply k = .ok (.ok v)) : k = .ok v := by
  rcases k with (_ | _) | _
  · cases h
  · cases h
  · cases h
    rfl

theorem meets_asks {α : Type} (f f' : Trace → α) :
    Meets (fun a u a' u' => a = f t ∧ u = t ∧ a' = f' t' ∧ u' = t') (asks f) (asks f') t t' := by
  intro a u a' u' hout hout'
  cases hout
  cases hout'
  exact ⟨rfl, rfl, rfl, rfl⟩

/-- A module that was called has replied, and has changed the cells and the library alone. -/
theorem runModule_eq_ok {placeholders : Bool} {m : Module} {keep : Module → Workshop → Workshop}
    {args : List Value} {kwargs : Named Value} {r : Except LibraryError Value} {u : Trace}
    (hout : (inMode placeholders (runModule m keep args kwargs)).outcome t = (.ok r, u)) :
    ∃ w : Workshop, w.modules = t.workshop.modules ∧
      reply (m.forward args kwargs w).1 = .ok r ∧ u.graph = t.graph ∧
      u.workshop.modules =
        (keep (m.forward args kwargs w).2.1 (m.forward args kwargs w).2.2).modules := by
  cases placeholders with
  | false =>
      change (runModule m keep args kwargs).outcome t = _ at hout
      rw [outcome_runModule] at hout
      obtain ⟨hreply, rfl⟩ := Prod.mk.inj hout
      exact ⟨t.workshop, rfl, hreply, rfl, rfl⟩
  | true =>
      change (inPlaceholderMode (runModule m keep args kwargs)).outcome t = _ at hout
      unfold inPlaceholderMode at hout
      rw [outcome_ofFunction] at hout
      dsimp only at hout
      rw [outcome_runModule] at hout
      obtain ⟨hreply, rfl⟩ := Prod.mk.inj hout
      exact ⟨{ t.workshop with library := t.workshop.library.enter }, rfl, hreply, rfl, rfl⟩

/-- Where a call of a module did not give a value, the capture does not go on from it. -/
theorem meets_first {α : Type} {Q : α → Trace → α → Trace → Prop} (path : String)
    (args args' : List Value) {r r' : Except LibraryError Value} {next next' : Capture α}
    (h : ∀ v v', r = .ok v → r' = .ok v' → Meets Q next next' t t') :
    Meets Q (do
        if let .error e := r then
          let _ ← interpretError (.module path) args false e
        next) (do
        if let .error e := r' then
          let _ ← interpretError (.module path) args' true e
        next') t t' := by
  cases r with
  | error e =>
      intro a u a' u' hout
      obtain ⟨fault, hfault⟩ := interpretError_of_not_item (.module path) rfl args false e t
      dsimp only at hout
      rw [outcome_bind_error hfault] at hout
      cases hout
  | ok v =>
      cases r' with
      | error e =>
          intro a u a' u' _ hout'
          obtain ⟨fault, hfault⟩ := interpretError_of_not_item (.module path) rfl args' true e t'
          dsimp only at hout'
          rw [outcome_bind_error hfault] at hout'
          cases hout'
      | ok v' => exact h v v' rfl rfl

section Calls

variable (h : t.Abreast t') (hargs : List.Forall₂ Value.BlursTo args args')
  (kwargs kwargs' : Named Value) (unknown : Prop)

include h

theorem meets_say (level : Log.Level) (channel : Log.Channel) (text text' : String) :
    Meets (fun _ u _ u' => u.Abreast u') (say level channel text) (say level channel text')
      t t' := by
  intro a u a' u' hout hout'
  cases hout
  cases hout'
  exact ⟨h.module?_eq, h.modules⟩

theorem meets_moduleFor (path : String) (given : Option Nat) :
    Meets (fun r u r' u' => r'.1 = r.1 ∧ r.2.Twin r'.2 ∧ u = t ∧ u' = t')
      (moduleFor path given) (moduleFor path given) t t' := by
  rintro ⟨handle, m⟩ u ⟨handle', m'⟩ u' hout hout'
  obtain ⟨rfl, hhandle, hm⟩ := outcome_moduleFor hout
  obtain ⟨rfl, hhandle', hm'⟩ := outcome_moduleFor hout'
  rw [h.module?_eq, hhandle] at hhandle'
  obtain rfl := Option.some.inj hhandle'
  have hrel := h.modules handle
  rw [hm, hm'] at hrel
  cases hrel with
  | some htwin => exact ⟨rfl, htwin, rfl, rfl⟩

include hargs

/-- A module and its twin are called in modes of their own. They are put back into the same cell
or are dropped. -/
theorem meets_runModule (placeholders placeholders' : Bool) {m m' : Module} (hm : m.Twin m')
    {keep : Module → Workshop → Workshop}
    (hkeep : ∀ {m m' : Module} {w w' : Workshop}, m.Twin m' →
      (∀ i : Nat, Option.Rel Module.Twin w.modules[i]? w'.modules[i]?) →
      ∀ i : Nat, Option.Rel Module.Twin (keep m w).modules[i]? (keep m' w').modules[i]?) :
    Meets (RepliesShadowed unknown) (inMode placeholders (runModule m keep args kwargs))
      (inMode placeholders' (runModule m' keep args' kwargs')) t t' := by
  intro r u r' u' hout hout' v v' hv hv'
  subst hv hv'
  obtain ⟨w, hw, hreply, hgraph, hmodules⟩ := runModule_eq_ok hout
  obtain ⟨w', hw', hreply', hgraph', hmodules'⟩ := runModule_eq_ok hout'
  obtain ⟨hplain, rfl, htwin⟩ := hm.forward_shadow hargs kwargs kwargs' w w' (reply_eq_ok hreply)
    (reply_eq_ok hreply')
  refine ⟨hplain.shadowedBy unknown, ?_, ?_⟩
  · rw [hgraph, hgraph', h.module?_eq]
  · rw [hmodules, hmodules']
    refine hkeep htwin ?_
    rw [m.modules_forward, m'.modules_forward, hw, hw']
    exact h.modules

theorem meets_runItself (placeholders placeholders' : Bool) (handle : Nat) {m m' : Module}
    (hm : m.Twin m') :
    Meets (RepliesShadowed unknown) (inMode placeholders (runItself handle m args kwargs))
      (inMode placeholders' (runItself handle m' args' kwargs')) t t' := by
  refine meets_runModule h hargs kwargs kwargs' unknown placeholders placeholders' hm ?_
  intro m m' w w' hm hrel i
  rw [Workshop.Twin.getElem?_modules_storeIn, Workshop.Twin.getElem?_modules_storeIn]
  by_cases hi : handle = i
  · rw [if_pos hi, if_pos hi]
    have hcell := hrel i
    generalize w.modules[i]? = found at hcell ⊢
    generalize w'.modules[i]? = found' at hcell ⊢
    cases hcell with
    | none => exact .none
    | some _ => exact .some hm
  · rw [if_neg hi, if_neg hi]
    exact hrel i

theorem meets_runCopies {m m' : Module} (hm : m.Twin m') :
    Meets (RepliesShadowed unknown) (runCopy m.deepCopy args kwargs)
      (inMode true (runCopy m'.erase args' kwargs')) t t' :=
  meets_runModule h hargs kwargs kwargs' unknown false true hm.copies fun _ hrel => hrel

/-- The call of a module that is in the cell by now. -/
theorem meets_secondCall (handle : Nat) {m m' : Module} (hm : m.Twin m') :
    Meets (RepliesShadowed unknown) (do
        let m ← asks fun t => (t.workshop.modules[handle]?).getD m
        inMode false (runItself handle m args kwargs)) (do
        let m' ← asks fun t => (t.workshop.modules[handle]?).getD m'
        inMode true (runItself handle m' args' kwargs')) t t' := by
  refine meets_bind (meets_asks _ _) ?_
  rintro _ u _ u' ⟨rfl, rfl, rfl, rfl⟩
  refine meets_runItself h hargs kwargs kwargs' unknown false true handle ?_
  have hcell := h.modules handle
  generalize u.workshop.modules[handle]? = found at hcell ⊢
  generalize u'.workshop.modules[handle]? = found' at hcell ⊢
  cases hcell with
  | none => exact hm
  | some hm => exact hm

theorem meets_callModule (path : String) (given : Option Nat) :
    Meets (RepliesShadowed unknown) (callModule path given args kwargs false)
      (callModule path given args' kwargs' true) t t' := by
  refine meets_bind (meets_moduleFor h path given) ?_
  rintro ⟨_, m⟩ _ ⟨handle, m'⟩ _ ⟨rfl, hm, rfl, rfl⟩
  refine meets_bind (meets_asks _ _) ?_
  rintro w _ w' _ ⟨-, rfl, -, rfl⟩
  dsimp only
  rw [hm.isLazy_eq w w']
  refine meets_ite _ ?_ ?_
  · -- the first call gives the layer its parameters
    refine meets_bind (meets_say h _ _ _ _) fun _ t _ t' h => ?_
    refine meets_bind (meets_runItself h hargs kwargs kwargs' unknown false false handle hm) ?_
    intro first t first' t' hfirst
    refine meets_first path args args' fun v v' hv hv' => ?_
    exact meets_secondCall (hfirst v v' hv hv').2 hargs kwargs kwargs' unknown handle hm
  · exact meets_runCopies h hargs kwargs kwargs' unknown hm

end Calls

end Capture

end TensorCapture
