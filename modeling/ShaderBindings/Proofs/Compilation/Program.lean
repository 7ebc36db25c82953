import ShaderBindings.Proofs.Compilation.Stages

/-!
# Compilation — Program

What making a program of stages asks of a device that never fails to take things
down. `Ran` says all that can happen: no program is created, or the program is
built, the shaders are released, and the program is given back or deleted.
-/

namespace ShaderBindings.Compilation

variable {σ K : Type} {program : Int} {stages : List Stage} {held : Held}
variable {es : List GL.Event} {k : K}

/-! ## Building -/

/-- The calls that link a program, with their answers. -/
def linkEvents (program : Int) (linked : Bool) (log : Option RawText) :
    List GL.Event :=
  [ ⟨.linkProgram program, .ok ()⟩,
    ⟨.linkStatus program, .ok linked⟩,
    ⟨.programInfoLog program, .ok log⟩ ]

/-- How a program whose stages have succeeded is linked. -/
inductive Linked (program : Int) (outcomes : List StageOutcome) :
    List GL.Event → Except Error Outcome → Prop
  | answered (linked : Bool) (log : Option RawText) :
    Linked program outcomes (linkEvents program linked log)
      (.ok ⟨program, outcomes, linked, GL.logText log⟩)
  | failed {es : List GL.Event} {fault : ExternalFault}
      (hfaults : GL.faults es = [fault])
      (hbuild : ∀ e ∈ es, isBuilding e.call = true)
      (hown : AttachesOwn program es) :
    Linked program outcomes es (.error (.external fault))

theorem Linked.isBuilding_of_mem {outcomes : List StageOutcome}
    {r : Except Error Outcome} (h : Linked program outcomes es r) :
    ∀ e ∈ es, isBuilding e.call = true := by
  cases h with
  | answered linked log => simp [linkEvents, isBuilding]
  | failed _ hbuild _ => exact hbuild

theorem Linked.attachesOwn {outcomes : List StageOutcome}
    {r : Except Error Outcome} (h : Linked program outcomes es r) :
    AttachesOwn program es := by
  cases h with
  | answered linked log =>
    simp [AttachesOwn, linkEvents, List.filterMap_cons, GL.Event.attached?]
  | failed _ _ hown => exact hown

theorem link_makes (gl : GL.Device σ) {outcomes : List StageOutcome} :
    (Act.onFirst (link gl program outcomes)).Makes gl held fun es r held' =>
      Linked program outcomes es r ∧ held' = held.after es := by
  simp only [link, Act.onFirst_bind, Act.onFirst_pure]
  refine .perform_bind (fun _ => ?_) fun fault _ => ?notLinked
  refine .perform_bind (fun linked => ?_) fun fault _ => ?noStatus
  refine .perform_bind (fun log => ?_) fun fault _ => ?noLog
  case notLinked | noStatus | noLog =>
    refine ⟨.failed (by simp) (by simp [isBuilding]) ?_, ?_⟩
    all_goals
      simp [AttachesOwn, Held.after, List.filterMap_cons,
        GL.Event.shaderCreated?, GL.Event.attached?, GL.Call.newShader?]
  refine .pure ⟨.answered linked log, ?_⟩
  simp [Held.after, List.filterMap_cons, GL.Event.shaderCreated?,
    GL.Event.attached?, GL.Call.newShader?]

/-- How a program is built: its stages are compiled, and if all of them
succeeded it is linked. -/
inductive Built (program : Int) (stages : List Stage) :
    List GL.Event → Except Error Outcome → Prop
  | linked {es es' : List GL.Event} {outcomes : List StageOutcome}
      {r : Except Error Outcome}
      (hs : StagesCompiled program none stages es (.ok outcomes))
      (hall : (outcomes.all fun s => s.succeeded) = true)
      (hl : Linked program outcomes es' r) :
    Built program stages (es ++ es') r
  | notLinked {es : List GL.Event} {outcomes : List StageOutcome}
      (hs : StagesCompiled program none stages es (.ok outcomes))
      (hall : (outcomes.all fun s => s.succeeded) = false) :
    Built program stages es (.ok ⟨program, outcomes, false, ""⟩)
  | notCompiled {es : List GL.Event} {e : Error}
      (hs : StagesCompiled program none stages es (.error e)) :
    Built program stages es (.error e)

theorem build_makes (gl : GL.Device σ) :
    (build gl program stages).Makes gl held fun es r held' =>
      Built program stages es r ∧ held' = held.after es := by
  unfold build
  refine .bind (compileStages_makes gl stages none held) ?_ ?_
  · rintro es outcomes held' ⟨hs, rfl⟩
    cases hall : outcomes.all fun s => s.succeeded with
    | false =>
      simp only [Outcome.compiled, hall]
      exact .write_bind (.pure ⟨by simpa using .notLinked hs hall, by simp⟩)
    | true =>
      simp only [Outcome.compiled, hall]
      refine (link_makes gl).mono ?_
      rintro es' r held' ⟨hl, rfl⟩
      exact ⟨.linked hs hall hl, by simp [Held.after_append]⟩
  · rintro es e held' ⟨hs, rfl⟩
    exact ⟨.notCompiled hs, rfl⟩

namespace Built

variable {r : Except Error Outcome}

theorem isBuilding_of_mem (h : Built program stages es r) :
    ∀ e ∈ es, isBuilding e.call = true := by
  cases h with
  | linked hs _ hl =>
    intro e he
    exact (List.mem_append.mp he).elim (hs.isBuilding_of_mem e)
      (hl.isBuilding_of_mem e)
  | notLinked hs _ => exact hs.isBuilding_of_mem
  | notCompiled hs => exact hs.isBuilding_of_mem

theorem attachesOwn (h : Built program stages es r) :
    AttachesOwn program es := by
  cases h with
  | linked hs _ hl => exact hs.attachesOwn.append hl.attachesOwn
  | notLinked hs _ => exact hs.attachesOwn
  | notCompiled hs => exact hs.attachesOwn

/-- The outcome names the program that was built. -/
theorem program_eq {outcome : Outcome}
    (h : Built program stages es (.ok outcome)) :
    outcome.program = program := by
  cases h with
  | linked _ _ hl => cases hl; rfl
  | notLinked _ _ => rfl

/-- What stops the building of a program. -/
theorem cause (h : Built program stages es r) :
    match r with
    | .ok _ => GL.faults es = [] ∧ mixing? none stages = none
    | .error e =>
      (∃ fault, GL.faults es = [fault] ∧ e = .external fault) ∨
      ∃ a b, GL.faults es = [] ∧ mixing? none stages = some (a, b) ∧
        e = .mixedStages a b := by
  cases h with
  | linked hs _ hl =>
    obtain ⟨hfaults, hmixing⟩ := hs.cause
    cases hl with
    | answered linked log => exact ⟨by simp [hfaults, linkEvents], hmixing⟩
    | failed hf _ _ => exact .inl ⟨_, by simp [hfaults, hf], rfl⟩
  | notLinked hs _ => exact hs.cause
  | notCompiled hs => exact hs.cause

end Built

/-! ## Releasing -/

/-- The calls that take down one shader. -/
def takeDown (program : Int) (attached : List Int) (shader : Int) :
    List GL.Event :=
  (if attached.contains shader then
    [⟨.detachShader program shader, .ok ()⟩] else []) ++
  [⟨.deleteShader shader, .ok ()⟩]

/-- The calls that release all shaders that are held. -/
def Held.releaseEvents (held : Held) (program : Int) : List GL.Event :=
  held.created.flatMap (takeDown program held.attached)

/-- The device never fails to take things down. -/
def Releases (gl : GL.Device σ) : Prop :=
  ∀ call : GL.Call, call.isRelease = true → gl.Answers call

theorem release_makes {gl : GL.Device σ} (hgl : Releases gl) :
    (Act.onFirst (release gl program held)).Makes gl k fun es r k' =>
      es = held.releaseEvents program ∧ r = .ok () ∧ k' = k := by
  refine .each (fun shader => ?_) held.created
  by_cases h : shader ∈ held.attached
  · simp only [List.contains_eq_mem, h, decide_true, if_true, Act.onFirst_bind]
    refine .answered_bind (hgl _ rfl) fun _ => ?_
    refine .perform (fun _ => ?_) fun _ hf => ((hgl _ rfl).not_error hf).elim
    exact ⟨by simp [takeDown, h], rfl, rfl⟩
  · simp only [List.contains_eq_mem, h, decide_false, Bool.false_eq_true,
      if_false]
    refine .perform (fun _ => ?_) fun _ hf => ((hgl _ rfl).not_error hf).elim
    exact ⟨by simp [takeDown, h], rfl, rfl⟩

/-! ## The whole run -/

/-- Calls that build a program, and then the releases of all shaders that they
leave held. -/
def withReleases (program : Int) (es : List GL.Event) : List GL.Event :=
  es ++ (Held.after {} es).releaseEvents program

/-- The deletion of a program. -/
abbrev deletion (program : Int) : GL.Event :=
  ⟨.deleteProgram program, .ok ()⟩

/-- What happens when stages are made into a program by a device that never
fails to take things down. -/
inductive Ran (stages : List Stage) :
    List GL.Event → Except Error Outcome → Prop
  | notCreated {fault : ExternalFault} :
    Ran stages [⟨.createProgram, .error fault⟩] (.error (.external fault))
  | returned {program : Int} {es : List GL.Event} {outcome : Outcome}
      (h : Built program stages es (.ok outcome)) :
    Ran stages (⟨.createProgram, .ok program⟩ :: withReleases program es)
      (.ok outcome)
  | raised {program : Int} {es : List GL.Event} {e : Error}
      (h : Built program stages es (.error e)) :
    Ran stages (⟨.createProgram, .ok program⟩ ::
      (withReleases program es ++ [deletion program])) (.error e)

theorem run_makes {gl : GL.Device σ} (hgl : Releases gl) (hne : stages ≠ []) :
    (Act.onFirst (run gl stages)).Makes gl k fun es r k' =>
      Ran stages es r ∧ k' = k := by
  have hempty : stages.isEmpty = false := by simpa using hne
  simp only [run, hempty, Bool.false_eq_true, if_false, Act.onFirst_bind]
  refine .perform_bind (fun program => ?_) fun fault _ => ⟨.notCreated, rfl⟩
  refine .tracked_bind (build_makes gl) ?_
  rintro es r held ⟨hb, rfl⟩
  cases r with
  | ok outcome =>
    simp only [Act.onFirst_bind, Act.onFirst_pure]
    refine .bind (release_makes hgl) ?_ ?_
    · rintro es' a k' ⟨rfl, -, rfl⟩
      refine .pure ⟨?_, rfl⟩
      rw [List.append_nil]
      exact .returned hb
    · rintro es' e k' ⟨-, h, -⟩
      cases h
  | error e =>
    simp only [Act.onFirst_bind, Act.onFirst_fail]
    refine .bind (release_makes hgl) ?_ ?_
    · rintro es' a k' ⟨rfl, -, rfl⟩
      refine .answered_bind (hgl _ rfl) fun _ => ?_
      refine .fail ⟨?_, rfl⟩
      rw [← List.append_assoc]
      exact .raised hb
    · rintro es' e' k' ⟨-, h, -⟩
      cases h

end ShaderBindings.Compilation
