import Mathlib.Data.List.Nodup
import ShaderBindings.Proofs.Binding.Ownership

/-!
# Binding — Direct compilation

The shared program may be compiled for no instance. Then no reference is taken,
and a program that is there already is replaced without being deleted. The
invariant is a law of conservation: the programs that are created are those that
are deleted, the one that is shared, and those that are lost. So a program is
lost exactly if one is compiled directly while another is there, or by a class
that does not find itself by its name once the program is created.
-/

namespace ShaderBindings.Binding

variable {σ : Type} {plan : Plan} {k k' : State} {b b' b'' : Shared}
variable {es es' : List GL.Event} {r : Except Error Unit}
variable {lost lost' : List Int}

/-! ## Demands -/

/-- What is asked of a class: a use of its instances, or that the program is
compiled for none of them. -/
inductive Demand
  | use (u : Use)
  | direct

/-- What is done. -/
def Demand.act (gl : GL.Device σ) (plan : Plan) : Demand → Work σ Unit
  | use u => u.act gl plan
  | direct => compileShader gl plan

/-- Demands one after the other, those that raise being no end. Gives what came
of each. -/
def meetAll (gl : GL.Device σ) (plan : Plan) :
    List Demand → Work σ (List (Except Error Unit)) :=
  Act.collect fun d => Act.attempt (d.act gl plan)

/-- The calls of a direct compilation by a class that does not find itself by
its name. Only one that would first read its stages makes none. -/
inductive Abandoned (plan : Plan) : List GL.Event → Prop
  | unread (h : plan.options.reload = true) : Abandoned plan []
  | unlinked {s : PlannedStage} {program shader : Int}
      (h : plan.options.reload = false) (hs : plan.stages.head? = some s) :
    Abandoned plan [⟨.createProgram, .ok program⟩,
      ⟨.createShader s.stage.kind, .ok shader⟩]
  | unshared {program : Int} {log : Option RawText}
      (h : plan.options.reload = false) (hs : plan.stages = []) :
    Abandoned plan [⟨.createProgram, .ok program⟩,
      ⟨.linkProgram program, .ok ()⟩, ⟨.programInfoLog program, .ok log⟩]

/-- All that one demand can do. -/
inductive Met (plan : Plan) (k : State) :
    Demand → List GL.Event → Except Error Unit → State → Prop
  | used {u : Use} {es : List GL.Event} {r : Except Error Unit} {k' : State}
      (h : Done plan k u es r k') :
    Met plan k (.use u) es r k'
  | compiled {es : List GL.Event} {r : Except Error Unit} {k' : State}
      (hname : Named plan) (h : ShaderCompiled plan k es r k') :
    Met plan k .direct es r k'
  | abandoned {es : List GL.Event} {name : String} (hname : Unnamed plan name)
      (h : Abandoned plan es) :
    Met plan k .direct es (.error (.undefinedName name)) k

theorem compileReady_makes_of_unnamed {gl : GL.Device σ}
    (hgl : ∀ call, gl.Answers call) {name : String} (h : Unnamed plan name)
    (hreload : plan.options.reload = false) (k : State) :
    (compileReady gl plan).Makes gl k fun es r k' =>
      r = .error (.undefinedName name) ∧ k' = k ∧ Abandoned plan es := by
  unfold compileReady
  refine .answered_bind (hgl _) fun program => ?_
  cases hstages : plan.stages with
  | nil =>
    simp only [attachStages, releaseStages, pure_bind, reach_of_unnamed h,
      Act.fail_bind]
    refine .answered_bind (hgl _) fun _ => .answered_bind (hgl _) fun log => ?_
    exact .write_bind (.fail ⟨rfl, rfl, .unshared hreload hstages⟩)
  | cons s rest =>
    simp only [attachStages, Act.bind_assoc, reach_of_unnamed h, Act.fail_bind]
    refine .answered_bind (hgl _) fun shader => ?_
    exact .fail ⟨rfl, rfl, .unlinked hreload (by simp [hstages])⟩

theorem direct_makes {gl : GL.Device σ} (hgl : ∀ call, gl.Answers call)
    (hfree : NameFree plan) (k : State) :
    (compileShader gl plan).Makes gl k (Met plan k .direct) := by
  obtain hname | ⟨name, h⟩ := hfree.named_or_unnamed
  · exact (compileShader_makes hgl hname k).mono fun _ _ _ => .compiled hname
  rw [compileShader_eq]
  cases hreload : plan.options.reload with
  | true =>
    simp only [if_true, reach_of_unnamed h, Act.fail_bind]
    exact .fail (.abandoned h (.unread hreload))
  | false =>
    refine (compileReady_makes_of_unnamed hgl h hreload k).mono ?_
    rintro es r k' ⟨rfl, rfl, habandoned⟩
    exact .abandoned h habandoned

theorem Demand.act_makes {gl : GL.Device σ} (hgl : ∀ call, gl.Answers call)
    (hfree : NameFree plan) (d : Demand) (k : State) :
    (d.act gl plan).Makes gl k (Met plan k d) := by
  cases d with
  | use u => exact (Binding.act_makes hgl hfree u k).mono fun _ _ _ => .used
  | direct => exact direct_makes hgl hfree k

/-! ## Conservation of programs -/

/-- The program that is shared before, and those that are created, are those
that are deleted, the one that is shared afterwards, and those that are lost. -/
def Conserves (b : Shared) (es : List GL.Event) (b' : Shared)
    (lost : List Int) : Prop :=
  ∀ p, p ≠ 0 → [b.program].count p + (GL.programsCreated es).count p =
    (GL.programsDeleted es).count p + [b'.program].count p + lost.count p

namespace Conserves

theorem of_eq (h : b'.program = b.program) : Conserves b [] b' [] := by
  intro p _
  simp [h]

theorem trans (h : Conserves b es b' lost) (h' : Conserves b' es' b'' lost') :
    Conserves b (es ++ es') b'' (lost ++ lost') := by
  intro p hp
  have hfirst := h p hp
  have hsecond := h' p hp
  rw [GL.programsCreated_append, GL.programsDeleted_append]
  simp only [List.count_append]
  omega

theorem deletion (k : State) :
    Conserves k.shared [deletion k] k.withoutProgram.shared [] := by
  intro p hp
  have hcreated : GL.programsCreated [Binding.deletion k] = [] := rfl
  have hdeleted : GL.programsDeleted [Binding.deletion k] =
      [k.shared.program] := rfl
  rw [hcreated, hdeleted]
  simp [State.withoutProgram, Ne.symm hp]

end Conserves

theorem count_real {p : Int} (hp : p ≠ 0) (programs : List Int) :
    (real programs).count p = programs.count p :=
  List.count_filter (by simpa using hp)

/-- A new program takes the place of the one that is there, which is lost. -/
theorem ShaderCompiled.conserves_of_ok
    (h : ShaderCompiled plan k es (.ok ()) k') :
    Conserves k.shared es k'.shared (real [k.shared.program]) := by
  intro p hp
  rw [count_real hp]
  cases h with
  | answered a _ _ =>
    rw [a.programsCreated_events, a.programsDeleted_events]
    simp only [Answers.result, List.count_nil]
    omega

theorem ShaderCompiled.conserves_of_error {e : Error}
    (h : ShaderCompiled plan k es (.error e) k') :
    Conserves k.shared es k'.shared [] := by
  have hprogram := h.program_of_error
  cases h with
  | notReady _ => exact .of_eq hprogram

/-- A use compiles only where there is no program. -/
theorem Compiled.conserves (h : Compiled plan k es r k') :
    Conserves k.shared es k'.shared [] := by
  cases h with
  | kept _ => exact .of_eq rfl
  | made hnone hs =>
    have hlost := hs.conserves_of_ok
    rw [hnone] at hlost
    exact hlost
  | notMade _ hs => exact hs.conserves_of_error

theorem Disposed.conserves (h : Disposed k es k') :
    Conserves k.shared es k'.shared [] := by
  cases h with
  | notHeld _ | shared _ => exact .of_eq rfl
  | last _ => exact .deletion k

theorem Done.conserves {u : Use} (h : Done plan k u es r k') :
    Conserves k.shared es k'.shared [] := by
  cases h with
  | aside _ hk => exact .of_eq (by rw [hk])
  | compiled _ _ hc => exact hc.conserves
  | recompiled _ hc => exact (Conserves.deletion k).trans hc.conserves
  | disposed _ _ hd => exact hd.conserves
  | notFound _ _ => exact .of_eq rfl

/-! ## Losses -/

/-- The demand, with what came of it, leaves every program in its place: a
program is compiled directly only while there is none, and a direct compilation
fails only before it has created one. -/
def Demand.Safe (plan : Plan) (k : State) : Demand → Except Error Unit → Prop
  | .use _, _ => True
  | .direct, .ok _ => k.shared.program = 0
  | .direct, .error _ => plan.options.reload = true

/-- Every demand is safe in the state that it is made in. -/
def AllSafe (gl : GL.Device σ) (plan : Plan) :
    List Demand → Session σ × State → Prop
  | [], _ => True
  | d :: rest, x =>
    d.Safe plan x.2 (d.act gl plan x).1 ∧ AllSafe gl plan rest (d.act gl plan x).2

theorem Abandoned.conserves (h : Abandoned plan es) (hfresh : Fresh es)
    (b : Shared) : ∃ lost, Conserves b es b lost ∧ 0 ∉ lost ∧
      (lost = [] ↔ plan.options.reload = true) := by
  cases h with
  | unread h => exact ⟨[], .of_eq rfl, by simp, by simp [h]⟩
  | @unlinked s program shader h _ | @unshared program log h _ =>
    refine ⟨[program], fun p _ => ?_, hfresh.nonzero, by simp [h]⟩
    show [b.program].count p + [program].count p = 0 + _ + _
    omega

/-- What one demand loses, which is nothing exactly if it is safe. -/
theorem Met.conserves {d : Demand} (h : Met plan k d es r k')
    (hfresh : Fresh es) : ∃ lost, Conserves k.shared es k'.shared lost ∧
      0 ∉ lost ∧ (lost = [] ↔ d.Safe plan k r) := by
  cases h with
  | used h => exact ⟨[], h.conserves, by simp, by simp [Demand.Safe]⟩
  | compiled _ h =>
    cases r with
    | ok _ =>
      refine ⟨_, h.conserves_of_ok, by simp [real], ?_⟩
      simp [real, Demand.Safe]
    | error e =>
      refine ⟨[], h.conserves_of_error, by simp, ?_⟩
      simpa [Demand.Safe] using h.reload_of_error
  | abandoned _ h => exact h.conserves hfresh k.shared

/-- What any number of demands lose. -/
theorem meetAll_conserves {gl : GL.Device σ} (hgl : ∀ call, gl.Answers call)
    (hfree : NameFree plan) (demands : List Demand) (s : Session σ)
    (k : State) :
    ∃ es results s' k', meetAll gl plan demands (s, k) = (.ok results, s', k') ∧
      s'.trace = s.trace ++ es.map .gl ∧
      (Fresh es → ∃ lost, Conserves k.shared es k'.shared lost ∧ 0 ∉ lost ∧
        (lost = [] ↔ AllSafe gl plan demands (s, k))) := by
  induction demands generalizing s k with
  | nil =>
    refine ⟨[], [], s, k, rfl, by simp, fun _ => ⟨[], .of_eq rfl, by simp, ?_⟩⟩
    simp [AllSafe]
  | cons d rest ih =>
    obtain ⟨es, r, s₁, k₁, hrun, htrace, -, hmet⟩ := d.act_makes hgl hfree k s
    obtain ⟨es', results, s₂, k₂, hrest, htrace', hlosses⟩ := ih s₁ k₁
    refine ⟨es ++ es', r :: results, s₂, k₂, ?_, by simp [htrace', htrace], ?_⟩
    · simp only [meetAll, Act.collect, Bind.bind, Act.bind, Act.attempt, hrun]
      simp only [meetAll] at hrest
      rw [hrest]
      rfl
    · intro hfresh
      obtain ⟨lost, hlost, hzero, hsafe⟩ := hmet.conserves hfresh.of_append_left
      obtain ⟨lost', hlost', hzero', hsafe'⟩ :=
        hlosses hfresh.of_append_right
      refine ⟨lost ++ lost', hlost.trans hlost', by simp [hzero, hzero'], ?_⟩
      rw [List.append_eq_nil_iff, hsafe, hsafe']
      simp [AllSafe, hrun]

/-- No program is lost: each that was created is the one that is shared, or was
deleted. -/
def NoneLost (es : List GL.Event) (b : Shared) : Prop :=
  ∀ p ∈ GL.programsCreated es, p = b.program ∨ p ∈ GL.programsDeleted es

/-- By the law of conservation, no program is lost if and only if nothing is on
the side of the losses. -/
theorem Conserves.noneLost_iff (h : Conserves b es b' lost)
    (hnone : b.program = 0) (hzero : 0 ∉ lost) (hfresh : Fresh es) :
    NoneLost es b' ↔ lost = [] := by
  have hcount (p : Int) (hp : p ≠ 0) : (GL.programsCreated es).count p =
      (GL.programsDeleted es).count p + [b'.program].count p + lost.count p := by
    have hlaw := h p hp
    rwa [hnone, List.count_singleton, if_neg (by simpa using Ne.symm hp),
      Nat.zero_add] at hlaw
  constructor
  · intro hlost
    refine List.eq_nil_iff_forall_not_mem.mpr fun p hp => ?_
    have hp0 : p ≠ 0 := fun h => hzero (h ▸ hp)
    have hlaw := hcount p hp0
    have hpos := List.count_pos_iff.mpr hp
    -- a program that is lost was created, and only once
    have honce := List.nodup_iff_count_le_one.mp hfresh.programs p
    have hcreated : p ∈ GL.programsCreated es :=
      List.count_pos_iff.mp (by omega)
    rcases hlost p hcreated with hshared | hdeleted
    · have hone : [b'.program].count p = 1 := by simp [hshared]
      omega
    · have hdeletion := List.count_pos_iff.mpr hdeleted
      omega
  · rintro rfl p hp
    have hp0 : p ≠ 0 := fun h => hfresh.nonzero (h ▸ hp)
    have hlaw := hcount p hp0
    have hpos := List.count_pos_iff.mpr hp
    by_cases hshared : p = b'.program
    · exact .inl hshared
    · have hother : [b'.program].count p = 0 :=
        List.count_eq_zero.mpr (by simpa using hshared)
      exact .inr (List.count_pos_iff.mp (by rw [List.count_nil] at hlaw; omega))

/-- Whatever is asked of a class, in whatever order, no program is lost exactly
if all demands are safe; provided that the device never fails and gives out
fresh handles. -/
theorem meetAll_noneLost_iff {gl : GL.Device σ} (hgl : ∀ call, gl.Answers call)
    (hfree : NameFree plan) (documentation : Option String)
    (files : File.System) (demands : List Demand) (s : Session σ) :
    let k : State :=
      { shared := { Shared.initial plan with documentation }, files }
    ∃ es results s' k',
      meetAll gl plan demands (s, k) = (.ok results, s', k') ∧
      s'.trace = s.trace ++ es.map .gl ∧
      (Fresh es →
        (NoneLost es k'.shared ↔ AllSafe gl plan demands (s, k))) := by
  intro k
  obtain ⟨es, results, s', k', hrun, htrace, hlosses⟩ :=
    meetAll_conserves hgl hfree demands s k
  refine ⟨es, results, s', k', hrun, htrace, fun hfresh => ?_⟩
  obtain ⟨lost, hlost, hzero, hsafe⟩ := hlosses hfresh
  rw [← hsafe]
  exact hlost.noneLost_iff rfl hzero hfresh

/-- The program is compiled twice for no instance, and the first one is lost. -/
theorem meetAll_noneLost_iff_twice :
    let gl := GL.Device.numbering (fun _ => false) []
    let plan : Plan := ⟨{}, [], [], [⟨⟨"a.vert", .vertex, ""⟩, "vertex"⟩]⟩
    let demands : List Demand := [.direct, .direct]
    ∃ es results s' k',
      meetAll gl plan demands (⟨0, [], []⟩, { shared := Shared.initial plan }) =
        (.ok results, s', k') ∧
      s'.calls = es ∧ Fresh es ∧ ¬ NoneLost es k'.shared := by
  intro gl plan demands
  have hgl (call : GL.Call) : gl.Answers call :=
    GL.Device.numbering_answers rfl
  have hfree : NameFree plan := by
    intro m
    cases m <;> decide +kernel
  obtain ⟨es, results, s', k', hrun, htrace, h⟩ :=
    meetAll_noneLost_iff hgl hfree none {} demands ⟨0, [], []⟩
  have hcalls : s'.calls = es := Session.calls_eq htrace
  have hs' : (meetAll gl plan demands
      (⟨0, [], []⟩, { shared := Shared.initial plan })).2.1 = s' :=
    congrArg (fun x => x.2.1) hrun
  have hcreated : GL.programsCreated es = [1, 3] ∧
      GL.shadersCreated es = [2, 4] := by
    rw [← hcalls, ← hs']
    decide +kernel
  have hfresh : Fresh es := by
    obtain ⟨hprograms, hshaders⟩ := hcreated
    exact ⟨by rw [hprograms]; decide, by rw [hprograms]; decide,
      by rw [hshaders]; decide⟩
  refine ⟨es, results, s', k', hrun, hcalls, hfresh, ?_⟩
  rw [h hfresh]
  -- the second demand succeeds where there is a program
  rintro ⟨-, hsecond, -⟩
  let x := Demand.direct.act gl plan
    (⟨0, [], []⟩, { shared := Shared.initial plan })
  have hok : (Demand.direct.act gl plan x.2).1 = .ok () := by decide +kernel
  have hnone : Demand.Safe plan x.2.2 .direct (.ok ()) := hok ▸ hsecond
  have hthere : x.2.2.shared.program = 1 := by decide +kernel
  cases hthere.symm.trans hnone

end ShaderBindings.Binding
