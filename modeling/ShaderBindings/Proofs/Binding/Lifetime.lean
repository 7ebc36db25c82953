import ShaderBindings.Proofs.Binding.Compilation

/-!
# Binding — Lifetime

What the methods that share the program do to it, one call and then any number
of calls of any number of instances. `Done` says what a single call can do;
`AllDone` chains calls.
-/

namespace ShaderBindings.Binding

variable {σ α : Type} {plan : Plan} {k k' : State} {es : List GL.Event}

/-! ## Counting -/

/-- The state with another count of references. -/
def State.withCount (k : State) (count : Nat) : State :=
  references.set ⟨count⟩ k

/-- The state without a program. -/
def State.withoutProgram (k : State) : State :=
  { k with shared := { k.shared with program := 0 } }

/-- The deletion of the program that is shared. -/
def deletion (k : State) : GL.Event :=
  ⟨.deleteProgram k.shared.program, .ok ()⟩

/-- Taking a reference. -/
theorem acquire_makes (gl : GL.Device σ) (k : State) :
    (References.acquire references >>= fun _ => pure () :
      Work σ Unit).Makes gl k fun es r k' => es = [] ∧ r = .ok () ∧
        k' = k.withCount (k.shared.references.count + 1) := by
  simp only [References.acquire, Act.bind_assoc, pure_bind]
  exact .get_bind fun _ => .modify_bind (.pure ⟨rfl, rfl, rfl⟩)

/-! ## Parts of a call -/

/-- How the program is compiled for one more reference. -/
inductive Compiled (plan : Plan) (k : State) :
    List GL.Event → Except Error Unit → State → Prop
  | kept (h : k.shared.program ≠ 0) :
    Compiled plan k [] (.ok ())
      (k.withCount (k.shared.references.count + 1))
  | made {es : List GL.Event} {k' : State} (h : k.shared.program = 0)
      (hs : ShaderCompiled plan k es (.ok ()) k') :
    Compiled plan k es (.ok ())
      (k'.withCount (k'.shared.references.count + 1))
  | notMade {es : List GL.Event} {k' : State} {e : Error}
      (h : k.shared.program = 0) (hs : ShaderCompiled plan k es (.error e) k') :
    Compiled plan k es (.error e) k'

theorem seenProgram_of_named (h : Named plan) (m : Method) (self : String) :
    (seenProgram plan m self : Work σ Int) =
      shared >>= fun b => pure b.program := by
  simp [seenProgram, h m]

theorem forgetProgram_of_named (h : Named plan) (m : Method) (self : String) :
    (forgetProgram plan m self : Work σ Unit) =
      share fun b => { b with program := 0 } := by
  simp [forgetProgram, h m]

theorem compile_makes {gl : GL.Device σ} (hgl : ∀ call, gl.Answers call)
    (hname : Named plan) (self : String) (k : State) :
    (compile gl plan self).Makes gl k (Compiled plan k) := by
  simp only [compile, reach_of_named hname, seenProgram_of_named hname,
    pure_bind, Act.bind_assoc]
  refine shared_bind ?_
  by_cases h : k.shared.program = 0
  · simp only [h, if_true]
    refine .bind (compileShader_makes hgl hname k) ?_ ?_
    · rintro es _ k' hs
      refine (acquire_makes gl k').mono ?_
      rintro es' r k'' ⟨rfl, rfl, rfl⟩
      simpa using .made h hs
    · rintro es e k' hs
      exact .notMade h hs
  · simp only [h, if_false]
    refine (acquire_makes gl k).mono ?_
    rintro es r k' ⟨rfl, rfl, rfl⟩
    exact .kept h

/-- How the program is deleted and compiled again. -/
theorem recompile_makes {gl : GL.Device σ} (hgl : ∀ call, gl.Answers call)
    (hname : Named plan) (self : String) (k : State) :
    (recompile gl plan self).Makes gl k fun es r k' => ∃ es',
      es = deletion k :: es' ∧ Compiled plan k.withoutProgram es' r k' := by
  simp only [recompile, reach_of_named hname, seenProgram_of_named hname,
    forgetProgram_of_named hname, pure_bind, Act.bind_assoc]
  refine shared_bind (.answered_bind (hgl _) fun _ => .modify_bind ?_)
  refine (compile_makes hgl hname self k.withoutProgram).mono ?_
  exact fun es r k' h => ⟨es, rfl, h⟩

/-- How a reference is given back. -/
inductive Disposed (k : State) : List GL.Event → State → Prop
  | notHeld (h : k.shared.references.count = 0) : Disposed k [] k
  | last (h : k.shared.references.count = 1) :
    Disposed k [deletion k] (k.withCount 0).withoutProgram
  | shared {n : Nat} (h : k.shared.references.count = n + 2) :
    Disposed k [] (k.withCount (n + 1))

theorem dispose_makes {gl : GL.Device σ} (hgl : ∀ call, gl.Answers call)
    (hname : Named plan) (k : State) :
    (dispose gl plan).Makes gl k fun es r k' => r = .ok () ∧
      Disposed k es k' := by
  simp only [dispose, References.release, releaseProgram, reach_of_named hname,
    pure_bind, Act.bind_assoc]
  refine .get_bind fun _ => ?_
  cases h : (references.get k).count with
  | zero => exact .write_bind (.pure ⟨rfl, .notHeld h⟩)
  | succ n =>
    cases n with
    | zero =>
      simp only [if_true, Act.bind_assoc]
      refine .modify_bind (shared_bind (.answered_bind (hgl _) fun _ => ?_))
      exact .modify_bind (.get_bind fun _ => .pure ⟨rfl, .last h⟩)
    | succ n =>
      simp only [Nat.succ_ne_zero, if_false, Act.bind_assoc]
      exact .modify_bind (.get_bind fun _ => .pure ⟨rfl, .shared h⟩)

/-! ## One call -/

/-- What can be done with instances, by their names, and with the files. -/
inductive Use
  | create (self : String)
  | compile (self : String)
  | recompile (self : String)
  | dispose (self : String)
  /-- The instance is entered as a context. -/
  | enter (self : String)
  /-- The instance is left, whatever has happened since. -/
  | leave (self : String)
  /-- The files are changed by someone else. -/
  | edit (files : File.System)

namespace Use

/-- What is done. -/
def act (gl : GL.Device σ) (plan : Plan) : Use → Work σ Unit
  | create self => Binding.create plan self
  | compile self | enter self => Binding.compile gl plan self
  | recompile self => Binding.recompile gl plan self
  | dispose _ | leave _ => Binding.dispose gl plan
  | edit files => Act.onSecond (Act.modify fun b => { b with files })

/-- The use takes a reference, and compiles if there is no program. -/
def compiles : Use → Bool
  | compile _ | enter _ => true
  | _ => false

/-- The use gives a reference back. -/
def disposes : Use → Bool
  | dispose _ | leave _ => true
  | _ => false

/-- The use has nothing to do with the program. -/
def isAside : Use → Bool
  | create _ | edit _ => true
  | _ => false

end Use

/-- All that one use can do. -/
inductive Done (plan : Plan) (k : State) :
    Use → List GL.Event → Except Error Unit → State → Prop
  | aside {u : Use} {k' : State} (hu : u.isAside = true)
      (hk : k'.shared = k.shared) :
    Done plan k u [] (.ok ()) k'
  | compiled {u : Use} {es : List GL.Event} {r : Except Error Unit}
      {k' : State} (hname : Named plan) (hu : u.compiles = true)
      (h : Compiled plan k es r k') :
    Done plan k u es r k'
  | recompiled {self : String} {es : List GL.Event} {r : Except Error Unit}
      {k' : State} (hname : Named plan)
      (h : Compiled plan k.withoutProgram es r k') :
    Done plan k (.recompile self) (deletion k :: es) r k'
  | disposed {u : Use} {es : List GL.Event} {k' : State}
      (hname : Named plan) (hu : u.disposes = true) (h : Disposed k es k') :
    Done plan k u es (.ok ()) k'
  /-- The class is not found by its name, and nothing is done. -/
  | notFound {u : Use} {name : String} (hu : u.isAside = false)
      (h : Unnamed plan name) :
    Done plan k u [] (.error (.undefinedName name)) k

theorem aside_makes (gl : GL.Device σ) {u : Use} (hu : u.isAside = true)
    (k : State) : (u.act gl plan).Makes gl k (Done plan k u) := by
  cases u with
  | create self | edit files =>
    exact fun s => ⟨[], .ok (), s, _, rfl, by simp, by simp, .aside rfl rfl⟩
  | compile self | recompile self | dispose self | enter self | leave self =>
    cases hu

theorem act_makes_of_unnamed (gl : GL.Device σ) {name : String}
    (h : Unnamed plan name) (u : Use) (k : State) :
    (u.act gl plan).Makes gl k (Done plan k u) := by
  cases u with
  | create self | edit files => exact aside_makes gl rfl k
  | compile self | enter self =>
    simp only [Use.act, compile, reach_of_unnamed h, Act.fail_bind]
    exact .fail (.notFound rfl h)
  | recompile self =>
    simp only [Use.act, recompile, reach_of_unnamed h, Act.fail_bind]
    exact .fail (.notFound rfl h)
  | dispose self | leave self =>
    simp only [Use.act, dispose, reach_of_unnamed h, Act.fail_bind]
    exact .fail (.notFound rfl h)

theorem act_makes_of_named {gl : GL.Device σ} (hgl : ∀ call, gl.Answers call)
    (hname : Named plan) (u : Use) (k : State) :
    (u.act gl plan).Makes gl k (Done plan k u) := by
  cases u with
  | create self | edit files => exact aside_makes gl rfl k
  | compile self | enter self =>
    exact (compile_makes hgl hname self k).mono fun _ _ _ =>
      .compiled hname rfl
  | recompile self =>
    refine (recompile_makes hgl hname self k).mono ?_
    rintro es r k' ⟨es', rfl, h⟩
    exact .recompiled hname h
  | dispose self | leave self =>
    refine (dispose_makes hgl hname k).mono ?_
    rintro es r k' ⟨rfl, h⟩
    exact .disposed hname rfl h

theorem act_makes {gl : GL.Device σ} (hgl : ∀ call, gl.Answers call)
    (hfree : NameFree plan) (u : Use) (k : State) :
    (u.act gl plan).Makes gl k (Done plan k u) := by
  obtain hname | ⟨name, h⟩ := hfree.named_or_unnamed
  · exact act_makes_of_named hgl hname u k
  · exact act_makes_of_unnamed gl h u k

/-! ## Any number of calls -/

/-- Uses one after the other, those that raise being no end. Gives what came of
each. -/
def useAll (gl : GL.Device σ) (plan : Plan) :
    List Use → Work σ (List (Except Error Unit)) :=
  Act.collect fun u => Act.attempt (u.act gl plan)

/-- All that uses can do. -/
inductive AllDone (plan : Plan) : State → List Use → List GL.Event →
    List (Except Error Unit) → State → Prop
  | nil {k : State} : AllDone plan k [] [] [] k
  | cons {k k₁ k₂ : State} {u : Use} {uses : List Use}
      {es es' : List GL.Event} {r : Except Error Unit}
      {results : List (Except Error Unit)} (h : Done plan k u es r k₁)
      (ht : AllDone plan k₁ uses es' results k₂) :
    AllDone plan k (u :: uses) (es ++ es') (r :: results) k₂

theorem useAll_makes {gl : GL.Device σ} (hgl : ∀ call, gl.Answers call)
    (hfree : NameFree plan) (uses : List Use) (k : State) :
    (useAll gl plan uses).Makes gl k fun es r k' => ∃ results,
      r = .ok results ∧ AllDone plan k uses es results k' := by
  induction uses generalizing k with
  | nil => exact .pure ⟨[], rfl, .nil⟩
  | cons u rest ih =>
    refine .attempt_bind (act_makes hgl hfree u k) ?_
    intro es r k₁ hdone
    refine .bind (ih k₁) ?_ ?_
    · rintro es' results k₂ ⟨_, ⟨⟩, hrest⟩
      exact .pure ⟨r :: results, rfl, by simpa using .cons hdone hrest⟩
    · rintro es' e k₂ ⟨_, ⟨⟩, -⟩

end ShaderBindings.Binding
