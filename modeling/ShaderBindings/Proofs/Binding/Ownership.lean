import ShaderBindings.Proofs.Binding.Shaders

/-!
# Binding — Ownership

Who owns the shared program, after any number of calls of any number of
instances. The invariant: the programs that were created are those that were
deleted and then the one that is shared, in this order. So no program is lost,
and none is deleted twice. The count of references tells whether there is a
program, unless a recompilation has deleted it and then could not read a stage.
-/

namespace ShaderBindings.Binding

variable {σ : Type} {plan : Plan} {k k' : State} {b : Shared}
variable {es es' : List GL.Event} {r : Except Error Unit}

/-! ## Handles -/

/-- The handles that were given out are distinct, and none of the programs is
the one that stands for no program. -/
structure Fresh (es : List GL.Event) : Prop where
  programs : (GL.programsCreated es).Nodup
  nonzero : 0 ∉ GL.programsCreated es
  shaders : (GL.shadersCreated es).Nodup

theorem Fresh.of_append_left (h : Fresh (es ++ es')) : Fresh es := by
  obtain ⟨hprograms, hnonzero, hshaders⟩ := h
  rw [GL.programsCreated_append] at hprograms hnonzero
  rw [GL.shadersCreated_append] at hshaders
  exact ⟨(List.nodup_append.mp hprograms).1,
    fun hzero => hnonzero (List.mem_append_left _ hzero),
    (List.nodup_append.mp hshaders).1⟩

theorem Fresh.of_append_right (h : Fresh (es ++ es')) : Fresh es' := by
  obtain ⟨hprograms, hnonzero, hshaders⟩ := h
  rw [GL.programsCreated_append] at hprograms hnonzero
  rw [GL.shadersCreated_append] at hshaders
  exact ⟨(List.nodup_append.mp hprograms).2.1,
    fun hzero => hnonzero (List.mem_append_right _ hzero),
    (List.nodup_append.mp hshaders).2.1⟩

/-- The handles that stand for a program. -/
def real (programs : List Int) : List Int :=
  programs.filter (· ≠ 0)

theorem real_append (programs others : List Int) :
    real (programs ++ others) = real programs ++ real others :=
  List.filter_append _ _

/-- Every handle that was created has been given back, but for the program that
is shared. -/
structure Owned (es : List GL.Event) (b : Shared) : Prop where
  programs : GL.programsCreated es =
    real (GL.programsDeleted es) ++ real [b.program]
  shaders : ShadersLived es

theorem mem_real {p : Int} {programs : List Int} :
    p ∈ real programs ↔ p ∈ programs ∧ p ≠ 0 := by
  simp [real]

/-- The program that was not deleted is the one that is shared. -/
theorem Owned.live (h : Owned es b) (hfresh : Fresh es) (p : Int) :
    p ∈ GL.programsCreated es ∧ p ∉ GL.programsDeleted es ↔
      p = b.program ∧ p ≠ 0 := by
  have hnodup := hfresh.programs
  rw [h.programs] at hnodup ⊢
  obtain ⟨-, -, hdisjoint⟩ := List.nodup_append.mp hnodup
  rw [List.mem_append, mem_real, mem_real, List.mem_singleton]
  constructor
  · rintro ⟨⟨hdeleted, -⟩ | hp, hnot⟩
    · exact (hnot hdeleted).elim
    · exact hp
  · intro hp
    refine ⟨.inr hp, fun hdeleted => ?_⟩
    exact hdisjoint p (mem_real.mpr ⟨hdeleted, hp.2⟩) p
      (mem_real.mpr ⟨List.mem_singleton.mpr hp.1, hp.2⟩) rfl

theorem Owned.deletion (h : Owned es k.shared)
    (hfresh : Fresh (es ++ [deletion k])) :
    Owned (es ++ [deletion k]) k.withoutProgram.shared where
  programs := by
    have hcreated : GL.programsCreated (es ++ [Binding.deletion k]) =
        GL.programsCreated es :=
      (GL.programsCreated_append _ _).trans (List.append_nil _)
    have hdeleted : GL.programsDeleted (es ++ [Binding.deletion k]) =
        GL.programsDeleted es ++ [k.shared.program] :=
      GL.programsDeleted_append _ _
    rw [hcreated, hdeleted, h.programs, real_append]
    exact (List.append_nil _).symm
  shaders := h.shaders.append (shadersLived_deletion k) hfresh.shaders

/-! ## A compilation -/

theorem ready_shared (plan : Plan) (k : State) :
    (ready plan k).2.shared.program = k.shared.program ∧
      (ready plan k).2.shared.references = k.shared.references := by
  unfold ready
  split <;> exact ⟨rfl, rfl⟩

namespace ShaderCompiled

theorem references_eq (h : ShaderCompiled plan k es r k') :
    k'.shared.references = k.shared.references := by
  cases h with
  | notReady _ | answered _ _ _ => exact (ready_shared plan k).2

theorem program_of_error {e : Error}
    (h : ShaderCompiled plan k es (.error e) k') :
    k'.shared.program = k.shared.program := by
  cases h with
  | notReady _ => exact (ready_shared plan k).1

theorem program_of_ok (h : ShaderCompiled plan k es (.ok ()) k')
    (hfresh : Fresh es) : k'.shared.program ≠ 0 := by
  cases h with
  | answered a _ _ =>
    intro hzero
    refine hfresh.nonzero ?_
    rw [a.programsCreated_events]
    exact List.mem_singleton.mpr hzero.symm

/-- A class that has its stages in it can be compiled. -/
theorem reload_of_error {e : Error}
    (h : ShaderCompiled plan k es (.error e) k') :
    plan.options.reload = true := by
  cases h with
  | notReady h =>
    cases hreload : plan.options.reload with
    | true => rfl
    | false =>
      rw [ready_of_embedded hreload] at h
      cases h

/-- When there is no program, a new one becomes the one that is shared. -/
theorem owned (hs : ShaderCompiled plan k es' r k') (h : Owned es k.shared)
    (hnone : k.shared.program = 0) (hfresh : Fresh (es ++ es')) :
    Owned (es ++ es') k'.shared := by
  cases hs with
  | notReady hr =>
    obtain ⟨hprogram, -⟩ := ready_shared plan k
    rw [List.append_nil]
    exact ⟨by rw [hprogram]; exact h.programs, h.shaders⟩
  | answered a hr hfit =>
    have hnonzero : a.program ≠ 0 :=
      program_of_ok (.answered a hr hfit) hfresh.of_append_right
    constructor
    · rw [GL.programsCreated_append, GL.programsDeleted_append,
        a.programsCreated_events, a.programsDeleted_events, List.append_nil,
        h.programs, hnone]
      simp [Answers.result, real, hnonzero]
    · have hshaders := hfresh.of_append_right.shaders
      rw [a.shadersCreated_events hfit.shaders] at hshaders
      exact h.shaders.append (a.shadersLived_events hfit.shaders hshaders)
        hfresh.shaders

end ShaderCompiled

theorem Compiled.owned (hc : Compiled plan k es' r k') (h : Owned es k.shared)
    (hfresh : Fresh (es ++ es')) : Owned (es ++ es') k'.shared := by
  cases hc with
  | kept _ =>
    rw [List.append_nil]
    exact ⟨h.programs, h.shaders⟩
  | made hnone hs =>
    obtain ⟨hprograms, hshaders⟩ := hs.owned h hnone hfresh
    exact ⟨hprograms, hshaders⟩
  | notMade hnone hs => exact hs.owned h hnone hfresh

/-! ## Keeping count -/

/-- What the uses so far amount to: how many references are out, and whether a
recompilation has failed since the program was last there. -/
structure Ledger where
  count : Nat := 0
  interrupted : Bool := false

namespace Ledger

/-- What a use amounts to. A use that fails takes and gives back nothing. -/
def note (l : Ledger) : Use → Except Error Unit → Ledger
  | .compile _, .ok _ | .recompile _, .ok _ | .enter _, .ok _ =>
    ⟨l.count + 1, false⟩
  | .dispose _, .ok _ | .leave _, .ok _ => { l with count := l.count - 1 }
  | .recompile _, .error _ => { l with interrupted := true }
  | _, _ => l

theorem note_of_isAside {u : Use} (hu : u.isAside = true) (l : Ledger)
    (r : Except Error Unit) : l.note u r = l := by
  cases u <;> cases r <;> first | rfl | cases hu

theorem note_of_compiles {u : Use} (hu : u.compiles = true) (l : Ledger) :
    l.note u (.ok ()) = ⟨l.count + 1, false⟩ := by
  cases u <;> first | rfl | cases hu

theorem note_error_of_compiles {u : Use} (hu : u.compiles = true) (l : Ledger)
    (e : Error) : l.note u (.error e) = l := by
  cases u <;> first | rfl | cases hu

theorem note_of_disposes {u : Use} (hu : u.disposes = true) (l : Ledger) :
    l.note u (.ok ()) = { l with count := l.count - 1 } := by
  cases u <;> first | rfl | cases hu

/-- What uses amount to, with what came of each. -/
def after (l : Ledger) : List Use → List (Except Error Unit) → Ledger
  | u :: uses, r :: results => (l.note u r).after uses results
  | _, _ => l

end Ledger

/-- What holds between uses: all handles are owned, the count is that of the
ledger, and it tells whether there is a program. -/
structure Inv (es : List GL.Event) (l : Ledger) (b : Shared) : Prop where
  owned : Owned es b
  count : b.references.count = l.count
  held : b.program ≠ 0 ↔ 0 < l.count ∧ l.interrupted = false

/-- A compilation that succeeds takes a reference, and there is a program. -/
theorem Compiled.inv {n : Nat} (hc : Compiled plan k es' (.ok ()) k')
    (howned : Owned es k.shared) (hcount : k.shared.references.count = n)
    (hfresh : Fresh (es ++ es')) :
    Inv (es ++ es') ⟨n + 1, false⟩ k'.shared where
  owned := hc.owned howned hfresh
  count := by
    cases hc with
    | kept _ => exact congrArg (· + 1) hcount
    | made _ hs => exact congrArg (· + 1) (hs.references_eq ▸ hcount)
  held := by
    have hprogram : k'.shared.program ≠ 0 := by
      cases hc with
      | kept h => exact h
      | made _ hs => exact hs.program_of_ok hfresh.of_append_right
    simp [hprogram]

/-- A compilation that fails leaves no program, and the count as it was. -/
theorem Compiled.eq_of_error {e : Error}
    (hc : Compiled plan k es (.error e) k') :
    k.shared.program = 0 ∧ k'.shared.program = 0 ∧
      k'.shared.references = k.shared.references := by
  cases hc with
  | notMade hnone hs =>
    exact ⟨hnone, hs.program_of_error.trans hnone, hs.references_eq⟩

theorem Disposed.inv {l : Ledger} (hd : Disposed k es' k')
    (hinv : Inv es l k.shared) (hfresh : Fresh (es ++ es')) :
    Inv (es ++ es') { l with count := l.count - 1 } k'.shared := by
  obtain ⟨howned, hcount, hheld⟩ := hinv
  cases hd with
  | notHeld h =>
    have hzero : l.count = 0 := hcount.symm.trans h
    rw [List.append_nil]
    exact ⟨howned, by simp [h, hzero], by simpa [hzero] using hheld⟩
  | last h =>
    have hone : l.count = 1 := hcount.symm.trans h
    have hgiven : Owned es (k.withCount 0).shared :=
      ⟨howned.programs, howned.shaders⟩
    refine ⟨hgiven.deletion hfresh, ?_, ?_⟩
    · simp [hone, State.withoutProgram, State.withCount, references]
    · simp [hone, State.withoutProgram]
  | @shared n h =>
    have hmany : l.count = n + 2 := hcount.symm.trans h
    rw [List.append_nil]
    refine ⟨⟨howned.programs, howned.shaders⟩, ?_, ?_⟩
    · simp [hmany, State.withCount, references]
    · simpa [hmany, State.withCount, references] using hheld

/-- A class that is not found by its name has no program. -/
def Hidden (plan : Plan) (b : Shared) : Prop :=
  ∀ name, Unnamed plan name → b.program = 0 ∧ b.references.count = 0

theorem Done.hidden {u : Use} (hd : Done plan k u es r k')
    (h : Hidden plan k.shared) : Hidden plan k'.shared := by
  cases hd with
  | aside _ hk => rwa [hk]
  | compiled hname _ _ | recompiled hname _ | disposed hname _ _ =>
    exact fun name h' => (hname.not_unnamed h').elim
  | notFound _ _ => exact h

/-- One use keeps the invariant. -/
theorem Done.inv {u : Use} {l : Ledger} (hd : Done plan k u es' r k')
    (hhidden : Hidden plan k.shared) (hinv : Inv es l k.shared)
    (hfresh : Fresh (es ++ es')) : Inv (es ++ es') (l.note u r) k'.shared := by
  cases hd with
  | aside hu hk =>
    rw [Ledger.note_of_isAside hu, List.append_nil, hk]
    exact hinv
  | compiled _ hu hc =>
    cases r with
    | ok _ =>
      rw [Ledger.note_of_compiles hu]
      exact hc.inv hinv.owned hinv.count hfresh
    | error e =>
      rw [Ledger.note_error_of_compiles hu]
      obtain ⟨hbefore, hafter, hcount⟩ := hc.eq_of_error
      refine ⟨hc.owned hinv.owned hfresh, hcount ▸ hinv.count, ?_⟩
      have hheld := hinv.held
      rw [hbefore] at hheld
      rwa [hafter]
  | @recompiled self es'' _ _ _ hc =>
    have hsplit : es ++ deletion k :: es'' = es ++ [deletion k] ++ es'' := by
      simp
    rw [hsplit] at hfresh ⊢
    have howned := hinv.owned.deletion hfresh.of_append_left
    cases r with
    | ok _ => exact hc.inv howned hinv.count hfresh
    | error e =>
      obtain ⟨-, hafter, hcount⟩ := hc.eq_of_error
      refine ⟨hc.owned howned hfresh, ?_, by simp [hafter, Ledger.note]⟩
      rw [hcount]
      exact hinv.count
  | disposed _ hu hdisposed =>
    rw [Ledger.note_of_disposes hu]
    exact hdisposed.inv hinv hfresh
  | notFound _ h =>
    obtain ⟨hprogram, hzero⟩ := hhidden _ h
    have hcount : l.count = 0 := hinv.count.symm.trans hzero
    have hnote (e : Error) : (l.note u (.error e)).count = l.count := by
      cases u <;> rfl
    rw [List.append_nil]
    exact ⟨hinv.owned, by rw [hnote]; exact hinv.count,
      by simp [hprogram, hnote, hcount]⟩

/-- Any number of uses keep the invariant. -/
theorem AllDone.inv {uses : List Use} {results : List (Except Error Unit)}
    {l : Ledger} (hd : AllDone plan k uses es' results k')
    (hhidden : Hidden plan k.shared) (hinv : Inv es l k.shared)
    (hfresh : Fresh (es ++ es')) :
    Inv (es ++ es') (l.after uses results) k'.shared := by
  induction hd generalizing es l with
  | nil => simpa [Ledger.after] using hinv
  | cons h _ ih =>
    rw [← List.append_assoc] at hfresh ⊢
    exact ih (h.hidden hhidden) (h.inv hhidden hinv hfresh.of_append_left)
      hfresh

/-! ## Lifetimes -/

/-- What holds after uses, by the calls that were made, of what is shared. -/
structure Lifetime (plan : Plan) (uses : List Use)
    (results : List (Except Error Unit)) (es : List GL.Event) (b : Shared) :
    Prop where
  /-- There is a program exactly if a reference is out; but not after a
  recompilation that failed, until the next compilation. -/
  held : b.program ≠ 0 ↔
    0 < b.references.count ∧
      (Ledger.after {} uses results).interrupted = false
  /-- Of the programs that were created, the one that is shared is there. -/
  live : ∀ p, p ∈ GL.programsCreated es ∧ p ∉ GL.programsDeleted es ↔
    p = b.program ∧ p ≠ 0
  /-- No program is deleted twice. -/
  once : (real (GL.programsDeleted es)).Nodup
  /-- Every shader has had its life, for the program of its compilation. -/
  shaders : ShadersLived es
  /-- The count is that of the uses that succeeded. -/
  count : b.references.count = (Ledger.after {} uses results).count
  /-- Only classes that read their stages fail, and those with private names. -/
  failed : ∀ e, .error e ∈ results →
    plan.options.reload = true ∨ ∃ name, Unnamed plan name

theorem Done.failed {u : Use} {e : Error}
    (hd : Done plan k u es (.error e) k') :
    plan.options.reload = true ∨ ∃ name, Unnamed plan name := by
  have hcompiled {k : State} {es : List GL.Event}
      (hc : Compiled plan k es (.error e) k') : plan.options.reload = true := by
    cases hc with
    | notMade _ hs => exact hs.reload_of_error
  cases hd with
  | compiled _ _ hc | recompiled _ hc => exact .inl (hcompiled hc)
  | notFound _ h => exact .inr ⟨_, h⟩

theorem AllDone.failed {uses : List Use} {results : List (Except Error Unit)}
    (hd : AllDone plan k uses es results k') :
    ∀ e, .error e ∈ results →
      plan.options.reload = true ∨ ∃ name, Unnamed plan name := by
  induction hd with
  | nil => simp
  | cons h _ ih =>
    intro e he
    obtain rfl | he := List.mem_cons.mp he
    · exact h.failed
    · exact ih e he

end ShaderBindings.Binding
