import TensorCapture.Proofs.Layers.Linear
import TensorCapture.Proofs.Rerun.Calls

set_option autoImplicit false

/-! # Families of lazy layers

A lazy layer is called, copied, and copied without elements, and so are its copies, in any order. A
family is what has come of one layer after some of these calls. Each member waits for its first call
on a tensor with an axis, or it has settled on parameters: those that the first call fixed, on it or
on the layer it was copied from, or their copy without elements. A settled member never changes, and
no call on one member changes another.
-/

namespace TensorCapture

/-! ## Drawing the parameters -/

namespace Linear

variable {name : String} {width outputs : Nat} {seed : UInt64} {drawn : Linear}

/-- The parameters for so many inputs and outputs can be allocated. -/
def Drawable (width outputs : Nat) : Prop :=
  outputs * width ≤ Word.allocatable ∧ outputs ≤ Word.allocatable

theorem samples_of_le {count : Nat} (h : count ≤ Word.allocatable) (bound : Float)
    (g : Generator) : ∃ drawn, samples (some count) bound g = .ok drawn := by
  have hallocated : Kernel.allocate (some count) = .ok count := by
    unfold Kernel.allocate
    rw [Option.bind_some, if_pos h]
    rfl
  unfold samples
  rw [hallocated]
  exact ⟨_, rfl⟩

theorem samples_of_not {count? : Option Nat} (h : ∀ n, count? = some n → Word.allocatable < n)
    (bound : Float) (g : Generator) : samples count? bound g = .error .abort := by
  have hrefused : Kernel.allocate count? = .error .abort := by
    cases count? with
    | none => rfl
    | some n =>
        unfold Kernel.allocate
        rw [Option.bind_some, if_neg (Nat.not_le.mpr (h n rfl))]
        rfl
  unfold samples
  rw [hrefused]
  rfl

/-- Drawing parameters that can be allocated gives a layer of the width and the number of
outputs. -/
theorem seeded_of_drawable (h : Drawable width outputs) (name : String) (seed : UInt64) :
    ∃ drawn, seeded name width outputs seed = .ok drawn ∧
      drawn.weight.size = [outputs, width] := by
  have hword : Word.mul? outputs width = some (outputs * width) :=
    Word.mul?_eq_some_iff.mpr ⟨rfl, Nat.lt_of_le_of_lt h.1 (by decide)⟩
  obtain ⟨⟨weight, g⟩, hweight⟩ := samples_of_le h.1
    (1.0 / (UInt64.ofNat (max width 1)).toFloat.sqrt) (.ofSeed seed)
  obtain ⟨bias, hbias⟩ := samples_of_le h.2
    (1.0 / (UInt64.ofNat (max width 1)).toFloat.sqrt) g
  unfold seeded
  simp only [hword, hweight, hbias, bind, Except.bind]
  exact ⟨_, rfl, rfl⟩

/-- Drawing other parameters ends the run. -/
theorem seeded_of_not_drawable (h : ¬Drawable width outputs) (name : String) (seed : UInt64) :
    seeded name width outputs seed = .error .abort := by
  unfold seeded
  dsimp only
  by_cases hproduct : outputs * width ≤ Word.allocatable
  · have hword : Word.mul? outputs width = some (outputs * width) :=
      Word.mul?_eq_some_iff.mpr ⟨rfl, Nat.lt_of_le_of_lt hproduct (by decide)⟩
    obtain ⟨⟨weight, g⟩, hweight⟩ := samples_of_le hproduct
      (1.0 / (UInt64.ofNat (max width 1)).toFloat.sqrt) (.ofSeed seed)
    have hoverfull : ∀ n, some outputs = some n → Word.allocatable < n := by
      rintro n ⟨⟩
      exact Nat.not_le.mp fun houtputs => h ⟨hproduct, houtputs⟩
    have hbias := samples_of_not hoverfull (1.0 / (UInt64.ofNat (max width 1)).toFloat.sqrt) g
    simp only [hword, hweight, hbias, bind, Except.bind]
  · have hoverfull : ∀ n, Word.mul? outputs width = some n → Word.allocatable < n := by
      intro n hn
      obtain ⟨rfl, -⟩ := Word.mul?_eq_some_iff.mp hn
      exact Nat.not_le.mp hproduct
    rw [samples_of_not hoverfull]
    rfl

theorem size_weight_of_seeded (h : seeded name width outputs seed = .ok drawn) :
    drawn.weight.size = [outputs, width] := by
  by_cases hdrawable : Drawable width outputs
  · obtain ⟨layer, hlayer, hsize⟩ := seeded_of_drawable hdrawable name seed
    rw [h] at hlayer
    cases hlayer
    exact hsize
  · rw [seeded_of_not_drawable hdrawable] at h
    cases h

end Linear

/-- Parameters that are drawn for a width, or their copy without elements. -/
def Linear.Drawn (name : String) (outputs : Nat) (seed : UInt64) (width : Nat) (linear : Linear) :
    Prop :=
  ∃ drawn, Linear.seeded name width outputs seed = .ok drawn ∧
    (linear = drawn ∨ linear = drawn.erase)

/-! ## One call -/

namespace LazyLinear

variable {l : LazyLinear} {args : List Value}

/-- A call on exactly one tensor that has an axis. -/
def Fits (args : List Value) : Prop :=
  ∃ input, args = [.tensor input] ∧ input.size ≠ []

/-- A layer with parameters runs them and stays as it is. -/
theorem forward_of_inner {linear : Linear} (h : l.inner = some linear) (args : List Value) :
    l.forward args = (linear.forward args, l, none) := by
  unfold forward
  rw [h]

/-- Other calls are refused, and the layer stays as it is. -/
theorem forward_of_not_fits (hlazy : l.inner = none) (h : ¬Fits args) :
    ∃ failure, l.forward args = (.error (.error (.failed failure)), l, none) := by
  have hrefused : ∃ failure, l.widthOf args = .error (.error (.failed failure)) := by
    unfold widthOf
    split
    · rename_i input
      have hscalar : input.size = [] := by
        by_contra hsize
        exact h ⟨input, rfl, hsize⟩
      rw [hscalar]
      exact ⟨_, rfl⟩
    · exact ⟨_, rfl⟩
  obtain ⟨failure, hfailure⟩ := hrefused
  refine ⟨failure, ?_⟩
  unfold forward
  rw [hlazy]
  simp only [hfailure]

/-- A first call on a tensor with an axis. -/
theorem forward_first (hlazy : l.inner = none) {input : Tensor} {width : Nat}
    (hwidth : input.size.getLast? = some width) {drawn : Linear}
    (hdrawn : Linear.seeded l.name width l.outputs l.seed = .ok drawn) :
    l.forward [.tensor input] =
      (drawn.forward [.tensor input], { l with inner := some drawn }, some width) := by
  unfold forward
  rw [hlazy]
  simp only [widthOf, hwidth, Kernel.orFail, hdrawn]

/-- Parameters that cannot be drawn end the run. -/
theorem forward_first_abort (hlazy : l.inner = none) {input : Tensor} {width : Nat}
    (hwidth : input.size.getLast? = some width)
    (h : ¬Linear.Drawable width l.outputs) :
    l.forward [.tensor input] = (.error .abort, l, some width) := by
  have habort := Linear.seeded_of_not_drawable h l.name l.seed
  unfold forward
  rw [hlazy]
  simp only [widthOf, hwidth, Kernel.orFail, habort]

theorem Fits.exists_width (h : Fits args) :
    ∃ (input : Tensor) (width : Nat), args = [.tensor input] ∧
      input.size.getLast? = some width := by
  obtain ⟨input, rfl, hsize⟩ := h
  exact ⟨input, _, rfl, List.getLast?_eq_some_getLast hsize⟩

/-- A call made again comes to the same, and leaves the layer as the first one did. -/
theorem forward_again (l : LazyLinear) (args : List Value) :
    ((l.forward args).2.1.forward args).1 = (l.forward args).1 ∧
      ((l.forward args).2.1.forward args).2.1 = (l.forward args).2.1 := by
  -- a call that leaves the layer as it is is made again on the same layer
  have unchanged {outcome : Kernel Value} {width? : Option Nat}
      (hcall : l.forward args = (outcome, l, width?)) :
      ((l.forward args).2.1.forward args).1 = (l.forward args).1 ∧
        ((l.forward args).2.1.forward args).2.1 = (l.forward args).2.1 := by
    rw [hcall]
    dsimp only
    rw [hcall]
    exact ⟨rfl, rfl⟩
  cases hinner : l.inner with
  | some linear => exact unchanged (forward_of_inner hinner args)
  | none =>
      by_cases hfits : Fits args
      · obtain ⟨input, width, rfl, hwidth⟩ := hfits.exists_width
        by_cases hdrawable : Linear.Drawable width l.outputs
        · obtain ⟨drawn, hdrawn, -⟩ := Linear.seeded_of_drawable hdrawable l.name l.seed
          rw [forward_first hinner hwidth hdrawn]
          dsimp only
          rw [forward_of_inner rfl]
          exact ⟨rfl, rfl⟩
        · exact unchanged (forward_first_abort hinner hwidth hdrawable)
      · obtain ⟨failure, hcall⟩ := forward_of_not_fits hinner hfits
        exact unchanged hcall

end LazyLinear

/-! ## Families -/

/-- A call on a member of a family. Copies join the family as its last members. -/
inductive FamilyCall where
  | forward (member : Nat) (args : List Value) (kwargs : Named Value)
  | deepCopy (member : Nat)
  /-- A copy whose parameters are placeholders. -/
  | erase (member : Nat)

/-- The call is one on this member, with exactly one tensor that has an axis. -/
def FamilyCall.Fixes (i : Nat) (c : FamilyCall) : Prop :=
  ∃ args kwargs, c = .forward i args kwargs ∧ LazyLinear.Fits args

/-- Some modules and the workshop that they are called in. -/
structure Family where
  members : List Module
  workshop : Workshop

namespace Family

/-- The family of a lazy layer before all calls. -/
def ofLazy (name : String) (outputs : Nat) (seed : UInt64) (w : Workshop) : Family :=
  ⟨[.lazyLinear (.unmaterialized name outputs seed)], w⟩

/-- The family after a call. Nothing happens where there is no such member. -/
def step (f : Family) (c : FamilyCall) : Family :=
  match c with
  | .forward i args kwargs =>
      match f.members[i]? with
      | some m =>
          let (_, m, workshop) := m.forward args kwargs f.workshop
          ⟨f.members.set i m, workshop⟩
      | none => f
  | .deepCopy i => { f with members := f.members ++ (f.members[i]?.map Module.deepCopy).toList }
  | .erase i => { f with members := f.members ++ (f.members[i]?.map Module.erase).toList }

/-- The family after several calls. -/
def run (f : Family) (calls : List FamilyCall) : Family := calls.foldl step f

/-- What a call on a member comes to. -/
def answer (f : Family) (i : Nat) (args : List Value) (kwargs : Named Value) :
    Option (Kernel Value) :=
  f.members[i]?.map fun m => (m.forward args kwargs f.workshop).1

variable {f : Family} {i : Nat} {m : Module} {c : FamilyCall}

/-- A call on a member leaves what the call makes of it. -/
theorem members_step_forward (hm : f.members[i]? = some m) (args : List Value)
    (kwargs : Named Value) :
    (f.step (.forward i args kwargs)).members[i]? =
      some (m.forward args kwargs f.workshop).2.1 := by
  have hlt : i < f.members.length := (List.getElem?_eq_some_iff.mp hm).1
  simp only [step, hm]
  rw [List.getElem?_set_self hlt]

/-- No other call changes it. -/
theorem members_step_of_ne (hm : f.members[i]? = some m)
    (hother : ∀ args kwargs, c ≠ .forward i args kwargs) : (f.step c).members[i]? = some m := by
  have hlt : i < f.members.length := (List.getElem?_eq_some_iff.mp hm).1
  cases c with
  | forward j args kwargs =>
      have hne : j ≠ i := fun h => hother args kwargs (by rw [h])
      unfold step
      dsimp only
      cases f.members[j]? with
      | none => exact hm
      | some m' =>
          dsimp only
          rw [List.getElem?_set_ne hne, hm]
  | deepCopy j => exact (List.getElem?_append_left hlt).trans hm
  | erase j => exact (List.getElem?_append_left hlt).trans hm

/-- A copy is the last member of the family. -/
theorem members_step_deepCopy (hm : f.members[i]? = some m) :
    (f.step (.deepCopy i)).members[f.members.length]? = some m.deepCopy := by
  simp [step, hm]

theorem members_step_erase (hm : f.members[i]? = some m) :
    (f.step (.erase i)).members[f.members.length]? = some m.erase := by
  simp [step, hm]

/-! ## Waiting and settled members -/

/-- The member waits for its first call: it is lazy, and its number of inputs is not known. -/
structure Waits (f : Family) (i : Nat) : Prop where
  member : ∃ l, f.members[i]? = some (.lazyLinear l) ∧ l.inner = none
  isLazy : ∀ m, f.members[i]? = some m → m.isLazy f.workshop = true
  inputs : ∀ m, f.members[i]? = some m → m.inputs? = none

/-- The member has these parameters: it is not lazy, its number of inputs is known, and every call
on it comes to what the parameters give. -/
structure Settled (f : Family) (i width : Nat) (linear : Linear) : Prop where
  member : ∃ l, f.members[i]? = some (.lazyLinear l) ∧ l.inner = some linear
  isLazy : ∀ m, f.members[i]? = some m → m.isLazy f.workshop = false
  inputs : ∀ m, f.members[i]? = some m → m.inputs? = some width
  answer : ∀ args kwargs, f.answer i args kwargs = some (linear.forward args)

variable {l : LazyLinear} {linear : Linear} {width : Nat}

theorem waits_of_member (hm : f.members[i]? = some (.lazyLinear l)) (hlazy : l.inner = none) :
    f.Waits i := by
  refine ⟨⟨l, hm, hlazy⟩, fun m h => ?_, fun m h => ?_⟩
  · rw [hm] at h
    cases h
    show l.inner.isNone = true
    rw [hlazy]
    rfl
  · rw [hm] at h
    cases h
    show l.inner.bind _ = none
    rw [hlazy]
    rfl

theorem settled_of_member (hm : f.members[i]? = some (.lazyLinear l))
    (hinner : l.inner = some linear) (hwidth : linear.weight.size[1]? = some width) :
    f.Settled i width linear := by
  refine ⟨⟨l, hm, hinner⟩, fun m h => ?_, fun m h => ?_, fun args kwargs => ?_⟩
  · rw [hm] at h
    cases h
    show l.inner.isNone = false
    rw [hinner]
    rfl
  · rw [hm] at h
    cases h
    show l.inner.bind _ = some width
    rw [hinner]
    exact hwidth
  · unfold Family.answer
    rw [hm, Option.map_some]
    have hlayer : (Module.lazyLinear l).layer? = some linear := hinner
    exact congrArg some (Capture.forward_of_layer hlayer args kwargs f.workshop)

theorem Settled.width_eq (h : f.Settled i width linear) :
    linear.weight.size[1]? = some width := by
  obtain ⟨l, hm, hinner⟩ := h.member
  have hinputs : l.inner.bind (fun linear => linear.weight.size[1]?) = some width :=
    h.inputs _ hm
  rw [hinner] at hinputs
  exact hinputs

/-! ## Through further calls -/

/-- A settled member stays as it is, through calls on it too. -/
theorem Settled.step (h : f.Settled i width linear) (c : FamilyCall) :
    (f.step c).Settled i width linear := by
  obtain ⟨l, hm, hinner⟩ := h.member
  refine settled_of_member ?_ hinner h.width_eq
  by_cases hcall : ∃ args kwargs, c = .forward i args kwargs
  · obtain ⟨args, kwargs, rfl⟩ := hcall
    rw [members_step_forward hm]
    simp only [Module.forward, LazyLinear.forward_of_inner hinner]
  · exact members_step_of_ne hm fun args kwargs hc => hcall ⟨args, kwargs, hc⟩

theorem Settled.run (h : f.Settled i width linear) (calls : List FamilyCall) :
    (f.run calls).Settled i width linear := by
  induction calls generalizing f with
  | nil => exact h
  | cons c rest ih => exact ih (h.step c)

/-- A waiting member waits on through a call that is no first one on a tensor with an axis. -/
theorem Waits.step (h : f.Waits i) (hc : ¬c.Fixes i) : (f.step c).Waits i := by
  obtain ⟨l, hm, hlazy⟩ := h.member
  refine waits_of_member ?_ hlazy
  by_cases hcall : ∃ args kwargs, c = .forward i args kwargs
  · obtain ⟨args, kwargs, rfl⟩ := hcall
    obtain ⟨failure, hrefused⟩ := LazyLinear.forward_of_not_fits hlazy fun hfits =>
      hc ⟨args, kwargs, rfl, hfits⟩
    rw [members_step_forward hm]
    simp only [Module.forward, hrefused]
  · exact members_step_of_ne hm fun args kwargs heq => hcall ⟨args, kwargs, heq⟩

theorem Waits.run (h : f.Waits i) {calls : List FamilyCall} (hcalls : ∀ c ∈ calls, ¬c.Fixes i) :
    (f.run calls).Waits i := by
  induction calls generalizing f with
  | nil => exact h
  | cons c rest ih =>
      have hstep : (f.step c).Waits i := h.step (hcalls c (List.mem_cons_self ..))
      exact ih hstep fun c' hc' => hcalls c' (List.mem_cons_of_mem c hc')

/-! ## Copies -/

theorem Waits.deepCopy (h : f.Waits i) : (f.step (.deepCopy i)).Waits f.members.length := by
  obtain ⟨l, hm, hlazy⟩ := h.member
  exact waits_of_member (members_step_deepCopy hm) hlazy

/-- There are no parameters to turn into placeholders: the copy waits as the layer does. -/
theorem Waits.erase (h : f.Waits i) : (f.step (.erase i)).Waits f.members.length := by
  obtain ⟨l, hm, hlazy⟩ := h.member
  refine waits_of_member (members_step_erase hm) ?_
  show l.inner.map Linear.erase = none
  rw [hlazy]
  rfl

theorem Settled.deepCopy (h : f.Settled i width linear) :
    (f.step (.deepCopy i)).Settled f.members.length width linear := by
  obtain ⟨l, hm, hinner⟩ := h.member
  exact settled_of_member (members_step_deepCopy hm) hinner h.width_eq

theorem Settled.erase (h : f.Settled i width linear) :
    (f.step (.erase i)).Settled f.members.length width linear.erase := by
  obtain ⟨l, hm, hinner⟩ := h.member
  refine settled_of_member (members_step_erase hm) ?_ h.width_eq
  show l.inner.map Linear.erase = some linear.erase
  rw [hinner]
  rfl

/-! ## Where the parameters come from -/

/-- A lazy layer of this name, number of outputs and seed. Its parameters, once it has any, were
drawn for some width. -/
def Origin (name : String) (outputs : Nat) (seed : UInt64) (m : Module) : Prop :=
  ∃ inner, m = .lazyLinear ⟨name, outputs, seed, inner⟩ ∧
    ∀ linear, inner = some linear → ∃ width, Linear.Drawn name outputs seed width linear

variable {name : String} {outputs : Nat} {seed : UInt64}

theorem Origin.forward (h : Origin name outputs seed m) (args : List Value)
    (kwargs : Named Value) (w : Workshop) :
    Origin name outputs seed (m.forward args kwargs w).2.1 := by
  obtain ⟨inner, rfl, hinner⟩ := h
  show Origin name outputs seed (.lazyLinear (LazyLinear.forward _ args).2.1)
  unfold LazyLinear.forward
  cases inner with
  | some linear => exact ⟨_, rfl, hinner⟩
  | none =>
      dsimp only
      split
      · exact ⟨none, rfl, hinner⟩
      · rename_i width _
        split
        · exact ⟨none, rfl, hinner⟩
        · rename_i drawn hdrawn
          refine ⟨some drawn, rfl, fun linear hlinear => ⟨width, drawn, hdrawn, .inl ?_⟩⟩
          exact (Option.some.inj hlinear).symm

theorem Origin.erase (h : Origin name outputs seed m) : Origin name outputs seed m.erase := by
  obtain ⟨inner, rfl, hinner⟩ := h
  refine ⟨inner.map Linear.erase, rfl, fun linear hlinear => ?_⟩
  obtain ⟨layer, hlayer, rfl⟩ := Option.map_eq_some_iff.mp hlinear
  obtain ⟨width, drawn, hdrawn, hcopy⟩ := hinner layer hlayer
  refine ⟨width, drawn, hdrawn, .inr ?_⟩
  rcases hcopy with rfl | rfl
  · rfl
  · exact Linear.erase_erase drawn

/-- What is in the family after a call was there before it, or the call made it of a member. -/
theorem origins_step (h : ∀ m ∈ f.members, Origin name outputs seed m) (c : FamilyCall) :
    ∀ m ∈ (f.step c).members, Origin name outputs seed m := by
  cases c with
  | forward i args kwargs =>
      unfold step
      dsimp only
      cases hm : f.members[i]? with
      | none => exact h
      | some m =>
          intro m' hm'
          rcases List.mem_or_eq_of_mem_set hm' with hold | rfl
          · exact h m' hold
          · exact (h m (List.mem_of_getElem? hm)).forward args kwargs f.workshop
  | deepCopy i =>
      intro m' hm'
      rcases List.mem_append.mp hm' with hold | hcopy
      · exact h m' hold
      · obtain ⟨m, hm, rfl⟩ := Option.map_eq_some_iff.mp (Option.mem_toList.mp hcopy)
        obtain ⟨inner, rfl, hinner⟩ := h m (List.mem_of_getElem? hm)
        exact ⟨inner, rfl, hinner⟩
  | erase i =>
      intro m' hm'
      rcases List.mem_append.mp hm' with hold | hcopy
      · exact h m' hold
      · obtain ⟨m, hm, rfl⟩ := Option.map_eq_some_iff.mp (Option.mem_toList.mp hcopy)
        exact (h m (List.mem_of_getElem? hm)).erase

theorem origins_run (h : ∀ m ∈ f.members, Origin name outputs seed m) (calls : List FamilyCall) :
    ∀ m ∈ (f.run calls).members, Origin name outputs seed m := by
  induction calls generalizing f with
  | nil => exact h
  | cons c rest ih => exact ih (origins_step h c)

theorem origins_ofLazy (name : String) (outputs : Nat) (seed : UInt64) (w : Workshop)
    (calls : List FamilyCall) :
    ∀ m ∈ ((ofLazy name outputs seed w).run calls).members, Origin name outputs seed m := by
  refine origins_run (fun m hm => ?_) calls
  obtain rfl : m = .lazyLinear (.unmaterialized name outputs seed) := List.mem_singleton.mp hm
  exact ⟨none, rfl, fun linear h => by cases h⟩

/-- Every member waits, or it is settled on parameters that were drawn. -/
theorem waits_or_settled (hm : f.members[i]? = some m) (h : Origin name outputs seed m) :
    f.Waits i ∨ ∃ width linear, Linear.Drawn name outputs seed width linear ∧
      f.Settled i width linear := by
  obtain ⟨inner, rfl, hinner⟩ := h
  cases inner with
  | none => exact .inl (waits_of_member hm rfl)
  | some linear =>
      obtain ⟨width, drawn, hdrawn, hcopy⟩ := hinner linear rfl
      have hsize : drawn.weight.size = [outputs, width] := Linear.size_weight_of_seeded hdrawn
      refine .inr ⟨width, linear, ⟨drawn, hdrawn, hcopy⟩, settled_of_member hm rfl ?_⟩
      rcases hcopy with rfl | rfl
      · rw [hsize]
        rfl
      · show drawn.weight.size[1]? = some width
        rw [hsize]
        rfl

theorem answer_of_member (hm : f.members[i]? = some (.lazyLinear l)) (args : List Value)
    (kwargs : Named Value) : f.answer i args kwargs = some (l.forward args).1 := by
  unfold answer
  rw [hm]
  rfl

/-- The first call on a tensor with an axis draws the parameters for its last extent. -/
theorem Waits.first (h : f.Waits i) (horigin : ∀ m ∈ f.members, Origin name outputs seed m)
    {input : Tensor} (hwidth : input.size.getLast? = some width)
    (hdrawable : Linear.Drawable width outputs) (kwargs : Named Value) :
    ∃ drawn, Linear.seeded name width outputs seed = .ok drawn ∧
      f.answer i [.tensor input] kwargs = some (drawn.forward [.tensor input]) ∧
      (f.step (.forward i [.tensor input] kwargs)).Settled i width drawn := by
  obtain ⟨l, hm, hlazy⟩ := h.member
  obtain ⟨inner, hl, -⟩ := horigin _ (List.mem_of_getElem? hm)
  obtain rfl : l = ⟨name, outputs, seed, inner⟩ := Module.lazyLinear.inj hl
  obtain ⟨drawn, hdrawn, hsize⟩ := Linear.seeded_of_drawable hdrawable name seed
  have hfirst := LazyLinear.forward_first hlazy hwidth hdrawn
  refine ⟨drawn, hdrawn, ?_, ?_⟩
  · rw [answer_of_member hm, hfirst]
  · refine settled_of_member (l := ⟨name, outputs, seed, some drawn⟩) ?_ rfl (by rw [hsize]; rfl)
    rw [members_step_forward hm]
    simp only [Module.forward, hfirst]

/-- Where they cannot be allocated, that call ends the run. -/
theorem Waits.first_aborts (h : f.Waits i)
    (horigin : ∀ m ∈ f.members, Origin name outputs seed m) {input : Tensor}
    (hwidth : input.size.getLast? = some width) (hdrawable : ¬Linear.Drawable width outputs)
    (kwargs : Named Value) : f.answer i [.tensor input] kwargs = some (.error .abort) := by
  obtain ⟨l, hm, hlazy⟩ := h.member
  obtain ⟨inner, hl, -⟩ := horigin _ (List.mem_of_getElem? hm)
  obtain rfl : l = ⟨name, outputs, seed, inner⟩ := Module.lazyLinear.inj hl
  rw [answer_of_member hm, LazyLinear.forward_first_abort hlazy hwidth hdrawable]

/-! ## Materializing once -/

/-- The member materializes once. It waits or has settled on drawn parameters, whatever happened
before; what is to come leaves a settled member alone, and a waiting one until its first call. -/
structure Materializes (name : String) (outputs : Nat) (seed : UInt64) (f : Family) (i : Nat) :
    Prop where
  waits_or_settled : f.Waits i ∨
    ∃ width linear, Linear.Drawn name outputs seed width linear ∧ f.Settled i width linear
  waits_on : f.Waits i → ∀ calls : List FamilyCall, (∀ c ∈ calls, ¬c.Fixes i) →
    (f.run calls).Waits i
  /-- The first call on a tensor with an axis fixes the parameters. -/
  first : f.Waits i → ∀ (input : Tensor) (width : Nat) (kwargs : Named Value),
    input.size.getLast? = some width → Linear.Drawable width outputs →
      ∃ drawn, Linear.seeded name width outputs seed = .ok drawn ∧
        f.answer i [.tensor input] kwargs = some (drawn.forward [.tensor input]) ∧
        (f.step (.forward i [.tensor input] kwargs)).Settled i width drawn
  /-- It ends the run where they cannot be allocated. -/
  first_aborts : f.Waits i → ∀ (input : Tensor) (width : Nat) (kwargs : Named Value),
    input.size.getLast? = some width → ¬Linear.Drawable width outputs →
      f.answer i [.tensor input] kwargs = some (.error .abort)
  stays_settled : ∀ width linear, f.Settled i width linear → ∀ calls : List FamilyCall,
    (f.run calls).Settled i width linear
  copies_wait : f.Waits i →
    (f.step (.deepCopy i)).Waits f.members.length ∧ (f.step (.erase i)).Waits f.members.length
  copies_settled : ∀ width linear, f.Settled i width linear →
    (f.step (.deepCopy i)).Settled f.members.length width linear ∧
      (f.step (.erase i)).Settled f.members.length width linear.erase
  /-- No call on another member changes this one, and neither does copying it. -/
  apart : ∀ c : FamilyCall, (∀ args kwargs, c ≠ .forward i args kwargs) →
    (f.step c).members[i]? = f.members[i]?

theorem waits_ofLazy (name : String) (outputs : Nat) (seed : UInt64) (w : Workshop) :
    (ofLazy name outputs seed w).Waits 0 :=
  waits_of_member rfl rfl

theorem materializes_run (name : String) (outputs : Nat) (seed : UInt64) (w : Workshop)
    (calls : List FamilyCall) {i : Nat}
    (hi : i < ((ofLazy name outputs seed w).run calls).members.length) :
    ((ofLazy name outputs seed w).run calls).Materializes name outputs seed i := by
  have horigin := origins_ofLazy name outputs seed w calls
  have hm := List.getElem?_eq_getElem hi
  exact {
    waits_or_settled := waits_or_settled hm (horigin _ (List.getElem_mem hi))
    waits_on := fun h calls hcalls => h.run hcalls
    first := fun h input width kwargs hwidth hdrawable => h.first horigin hwidth hdrawable kwargs
    first_aborts := fun h input width kwargs hwidth hdrawable =>
      h.first_aborts horigin hwidth hdrawable kwargs
    stays_settled := fun width linear h calls => h.run calls
    copies_wait := fun h => ⟨h.deepCopy, h.erase⟩
    copies_settled := fun width linear h => ⟨h.deepCopy, h.erase⟩
    apart := fun c hc => (members_step_of_ne hm hc).trans hm.symm }

end Family

end TensorCapture
