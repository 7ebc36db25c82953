import ShaderBindings.Proofs.Compilation.Release

/-!
# Compilation — Mixing

What a compilation calls and what comes of it when no call fails. `Traced`
writes the calls out: only stages in a row that are not alike end it early. A
stage is compared with the one before it alone, but in effect with all of them,
so it does not depend on the order of the stages whether they are refused.
-/

namespace ShaderBindings.GL

/-- The call links a program, or asks what came of it. -/
def Call.isLinking : Call → Bool
  | linkProgram _ | linkStatus _ | programInfoLog _ => true
  | _ => false

end ShaderBindings.GL

namespace ShaderBindings.Compilation

variable {σ : Type} {program : Int} {stages : List Stage}
variable {es : List GL.Event} {e : Error} {r : Except Error Outcome}

/-! ## Stages that are alike -/

/-- Both are compute stages, or neither is. -/
def Alike (a b : Stage) : Prop :=
  a.kind = .compute ↔ b.kind = .compute

theorem alike_iff {a b : Stage} :
    Alike a b ↔ a.kind.compatible b.kind = true := by
  rw [Alike, StageKind.compatible, beq_iff_eq, Bool.eq_iff_iff, beq_iff_eq,
    beq_iff_eq]

/-- There are compute stages and others. -/
def Mixed (stages : List Stage) : Prop :=
  (∃ s ∈ stages, s.kind = .compute) ∧ ∃ s ∈ stages, s.kind ≠ .compute

theorem mixing?_ne_none_iff : mixing? none stages ≠ none ↔ Mixed stages := by
  rw [Ne, mixing?_eq_none_iff, Mixed]
  grind

theorem mixed_perm_iff {others : List Stage} (h : others.Perm stages) :
    Mixed others ↔ Mixed stages := by
  simp only [Mixed, h.mem_iff]

/-! ## Traces -/

/-- The calls of a compilation none of which fails, and what comes of it. -/
inductive Traced (stages : List Stage) :
    List GL.Event → Except Error Outcome → Prop
  /-- The stages are compiled up to the first one that is not like the one
  before it. -/
  | mixed {program : Int} {front rest : List Stage} {last next : Stage}
      {answers : List Answer}
      (hstages : stages = front ++ next :: rest)
      (hfront : front.IsChain Alike)
      (hlast : front.getLast? = some last) (hnext : ¬ Alike last next)
      (hlength : answers.length = front.length) :
    Traced stages (⟨.createProgram, .ok program⟩ ::
        (withReleases program (stageEvents program front answers) ++
          [deletion program]))
      (.error (.mixedStages last.kind next.kind))
  /-- All stages are compiled, but not all of them succeed. -/
  | notLinked {program : Int} {answers : List Answer}
      (halike : stages.IsChain Alike)
      (hlength : answers.length = stages.length)
      (hall : ¬ ∀ a ∈ answers, a.succeeded = true) :
    Traced stages (⟨.createProgram, .ok program⟩ ::
        withReleases program (stageEvents program stages answers))
      (.ok ⟨program, outcomesOf stages answers, false, ""⟩)
  /-- All stages succeed, and the program is linked. -/
  | linked {program : Int} {answers : List Answer} {linked : Bool}
      {log : Option RawText} (halike : stages.IsChain Alike)
      (hlength : answers.length = stages.length)
      (hall : ∀ a ∈ answers, a.succeeded = true) :
    Traced stages (⟨.createProgram, .ok program⟩ ::
        withReleases program (stageEvents program stages answers ++
          linkEvents program linked log))
      (.ok ⟨program, outcomesOf stages answers, linked, GL.logText log⟩)

/-- A stage that may follow another one is like it. -/
theorem Follows.chain {previous : Option Stage} {stage : Stage}
    {front : List Stage} (h : Follows (previous.map (·.kind)) stage)
    (hfront : (stage :: front).IsChain Alike) :
    (previous.toList ++ stage :: front).IsChain Alike := by
  cases previous with
  | none => exact hfront
  | some before => exact .cons_cons (alike_iff.mpr (h _ rfl)) hfront

/-- Stages, perhaps after another one, are all alike if none of them ends the
compilation. -/
theorem StagesCompiled.alike (previous : Option Stage)
    {outcomes : List StageOutcome}
    (h : StagesCompiled program (previous.map (·.kind)) stages es
      (.ok outcomes)) :
    (previous.toList ++ stages).IsChain Alike := by
  -- each stage is compared with the one before it, so that one has to be kept
  induction stages generalizing previous es outcomes with
  | nil =>
    cases previous with
    | none => exact .nil
    | some before => exact .singleton before
  | cons stage rest ih =>
    generalize hr : Except.ok outcomes = r,
      hp : previous.map (·.kind) = kind? at h
    cases h with
    | mixed _ | failed _ _ => cases hr
    | @next _ _ _ _ r _ hfollows ht =>
      cases r with
      | error _ => cases hr
      | ok _ => exact (hp ▸ hfollows).chain (ih (some stage) ht)

/-- Stages, perhaps after another one, are compiled up to the first one that is
not like the one before it. -/
theorem StagesCompiled.mixed_of_error (previous : Option Stage)
    (h : StagesCompiled program (previous.map (·.kind)) stages es (.error e))
    (hfaults : GL.faults es = []) :
    ∃ front next rest last answers, stages = front ++ next :: rest ∧
      (previous.toList ++ front).IsChain Alike ∧
      (previous.toList ++ front).getLast? = some last ∧ ¬ Alike last next ∧
      answers.length = front.length ∧ es = stageEvents program front answers ∧
      e = .mixedStages last.kind next.kind := by
  induction stages generalizing previous es e with
  | nil =>
    generalize previous.map (·.kind) = kind? at h
    cases h
  | cons stage rest ih =>
    generalize hr : Except.error e = r,
      hp : previous.map (·.kind) = kind? at h
    cases h with
    | @mixed kind _ _ hkind =>
      cases hr
      obtain ⟨before, rfl, rfl⟩ := Option.map_eq_some_iff.mp hp
      refine ⟨[], stage, rest, before, [], rfl, .singleton before, rfl, ?_, rfl,
        rfl, rfl⟩
      simp [alike_iff, hkind]
    | failed _ hs =>
      cases hs with
      | failed hone => simp [hone] at hfaults
    | @next _ _ _ es r a hfollows ht =>
      cases r with
      | ok _ => cases hr
      | error _ =>
        cases hr
        obtain ⟨front, next, rest, last, answers, rfl, hchain, hlast, hnext,
          hlength, rfl, rfl⟩ := ih (some stage) ht (by simpa using hfaults)
        refine ⟨stage :: front, next, rest, last, a :: answers, rfl,
          (hp ▸ hfollows).chain hchain, ?_, hnext, by simp [hlength], rfl, rfl⟩
        have hlast : (stage :: front).getLast? = some last := hlast
        rw [List.getLast?_append, hlast]
        rfl

theorem all_outcomesOf_iff {answers : List Answer}
    (hlength : answers.length = stages.length) :
    ((outcomesOf stages answers).all fun s => s.succeeded) = true ↔
      ∀ a ∈ answers, a.succeeded = true := by
  rw [all_outcomesOf hlength, List.all_eq_true]

/-- A run none of whose calls has failed is traced. -/
theorem Ran.traced (h : Ran stages es r) (hfaults : GL.faults es = []) :
    Traced stages es r := by
  cases h with
  | notCreated => cases hfaults
  | returned hb =>
    cases hb with
    | linked hs hall hl =>
      obtain ⟨answers, hlength, rfl, rfl⟩ := hs.answers
      cases hl with
      | answered =>
        have hsucceeded := (all_outcomesOf_iff hlength).mp hall
        exact .linked (hs.alike none) hlength hsucceeded
    | notLinked hs hall =>
      obtain ⟨answers, hlength, rfl, rfl⟩ := hs.answers
      refine .notLinked (hs.alike none) hlength fun hsucceeded => ?_
      rw [(all_outcomesOf_iff hlength).mpr hsucceeded] at hall
      cases hall
  | @raised program es e hb =>
    have hbuilt : GL.faults es = [] := by
      rw [← faults_withReleases, ← hfaults]
      exact (filterMap_deletion rfl).symm
    cases hb with
    | linked hs _ hl =>
      cases hl with
      | failed hone => simp [hone] at hbuilt
    | notCompiled hs =>
      obtain ⟨front, next, rest, last, answers, rfl, hchain, hlast, hnext,
        hlength, rfl, rfl⟩ := hs.mixed_of_error none hbuilt
      exact .mixed rfl hchain hlast hnext hlength

/-! ## Linking -/

theorem linking_stageEvents (program : Int) (stages : List Stage)
    (answers : List Answer) :
    (stageEvents program stages answers).filter (·.call.isLinking) = [] := by
  refine List.filter_eq_nil_iff.mpr fun e he => ?_
  obtain ⟨stage, a, -, he⟩ := mem_stageEvents he
  simp only [Answer.events, List.mem_cons, List.not_mem_nil, or_false] at he
  rcases he with rfl | rfl | rfl | rfl | rfl | rfl <;> exact Bool.false_ne_true

theorem linking_withReleases (program : Int) (es : List GL.Event) :
    (withReleases program es).filter (·.call.isLinking) =
      es.filter (·.call.isLinking) := by
  have hreleases : ((Held.after {} es).releaseEvents program).filter
      (·.call.isLinking) = [] := by
    refine List.filter_eq_nil_iff.mpr fun e he => ?_
    obtain ⟨shader, -, rfl | rfl⟩ := Held.mem_releaseEvents he <;>
      exact Bool.false_ne_true
  rw [withReleases, List.filter_append, hreleases, List.append_nil]

/-- If all stages have succeeded, the program is linked once. -/
theorem Traced.linking_of_compiled {outcome : Outcome}
    (h : Traced stages es (.ok outcome)) (hcompiled : outcome.compiled = true) :
    ∃ log, es.filter (·.call.isLinking) =
      linkEvents outcome.program outcome.linked log := by
  cases h with
  | notLinked _ hlength hall =>
    exact (hall ((all_outcomesOf_iff hlength).mp hcompiled)).elim
  | @linked program answers linked log =>
    refine ⟨log, ?_⟩
    rw [List.filter_cons_of_neg Bool.false_ne_true, linking_withReleases,
      List.filter_append, linking_stageEvents, List.nil_append]
    rfl

/-- Otherwise it is not linked at all. -/
theorem Traced.linking_of_not_compiled (h : Traced stages es r)
    (hnot : ∀ outcome, r = .ok outcome → outcome.compiled = false) :
    es.filter (·.call.isLinking) = [] := by
  cases h with
  | mixed =>
    rw [List.filter_cons_of_neg Bool.false_ne_true, List.filter_append,
      linking_withReleases, linking_stageEvents]
    rfl
  | notLinked =>
    rw [List.filter_cons_of_neg Bool.false_ne_true, linking_withReleases,
      linking_stageEvents]
  | linked _ hlength hall =>
    have hcompiled := (all_outcomesOf_iff hlength).mpr hall
    cases hcompiled.symm.trans (hnot _ rfl)

theorem linkStatus_mem_linkEvents {linked : Bool} {log : Option RawText} :
    ⟨.linkStatus program, .ok true⟩ ∈ linkEvents program linked log ↔
      linked = true := by
  constructor
  · intro h
    obtain - | ⟨_, h⟩ := h
    obtain - | ⟨_, h⟩ := h
    · rfl
    · cases List.mem_singleton.mp h
  · rintro rfl
    exact .tail _ (.head _)

/-- A compilation has succeeded if all stages have, and the device says that the
program is linked. -/
theorem Traced.succeeded_iff {outcome : Outcome}
    (h : Traced stages es (.ok outcome)) :
    outcome.succeeded = true ↔
      (∀ s ∈ outcome.stages, s.succeeded = true) ∧
        ⟨.linkStatus outcome.program, .ok true⟩ ∈ es := by
  have hall : outcome.compiled = true ↔
      ∀ s ∈ outcome.stages, s.succeeded = true := List.all_eq_true
  rw [Outcome.succeeded, Bool.and_eq_true, ← hall]
  refine and_congr_right fun hcompiled => ?_
  obtain ⟨log, hevents⟩ := h.linking_of_compiled hcompiled
  calc outcome.linked = true
      ↔ ⟨.linkStatus outcome.program, .ok true⟩ ∈
        linkEvents outcome.program outcome.linked log :=
        linkStatus_mem_linkEvents.symm
    _ ↔ ⟨.linkStatus outcome.program, .ok true⟩ ∈ es := by
        rw [← hevents, List.mem_filter]
        exact and_iff_left rfl

/-! ## What comes of a compilation -/

/-- How stages are compiled when no call fails. -/
structure Undisturbed (stages : List Stage) (es : List GL.Event)
    (r : Except Error Outcome) : Prop where
  traced : Traced stages es r
  /-- Mixed stages are refused. -/
  refused : (∃ a b, r = .error (.mixedStages a b)) ↔ Mixed stages
  /-- Nothing else is. -/
  returned : (∃ outcome, r = .ok outcome) ↔ ¬ Mixed stages
  /-- A program is linked once, if all of its stages have succeeded. -/
  linked : ∀ outcome, r = .ok outcome → outcome.compiled = true →
    ∃ log, es.filter (·.call.isLinking) =
      linkEvents outcome.program outcome.linked log
  /-- Otherwise it is not linked at all. -/
  notLinked : (∀ outcome, r = .ok outcome → outcome.compiled = false) →
    es.filter (·.call.isLinking) = []
  /-- The whole has succeeded if all stages have, and the device says that the
  program is linked. -/
  succeeded : ∀ outcome, r = .ok outcome → (outcome.succeeded = true ↔
    (∀ s ∈ outcome.stages, s.succeeded = true) ∧
      ⟨.linkStatus outcome.program, .ok true⟩ ∈ es)

theorem Ran.undisturbed (h : Ran stages es r) (hfaults : GL.faults es = []) :
    Undisturbed stages es r := by
  have htraced : Traced stages es r := h.traced hfaults
  have hmixed : (∃ a b, r = .error (.mixedStages a b)) ↔ Mixed stages := by
    rw [← mixing?_ne_none_iff]
    constructor
    · rintro ⟨a, b, rfl⟩
      obtain ⟨fault, hone, -⟩ | ⟨_, _, -, hmixing, -⟩ := h.cause
      · simp [hfaults] at hone
      · simp [hmixing]
    · intro hmixing
      cases r with
      | ok _ => exact (hmixing h.cause.2).elim
      | error e =>
        obtain ⟨fault, hone, -⟩ | ⟨a, b, -, -, rfl⟩ := h.cause
        · simp [hfaults] at hone
        · exact ⟨a, b, rfl⟩
  refine ⟨htraced, hmixed, ?_, ?_, htraced.linking_of_not_compiled, ?_⟩
  · rw [← hmixed]
    cases htraced <;> simp
  · rintro outcome rfl hcompiled
    exact htraced.linking_of_compiled hcompiled
  · rintro outcome rfl
    exact htraced.succeeded_iff

/-- When no call fails, stages are compiled in order, and only compute stages
among others end that early. So whether they do does not depend on the order. -/
theorem run_undisturbed {gl : GL.Device σ} (hgl : ∀ call, gl.Answers call)
    (hne : stages ≠ []) (s : Session σ) :
    (∃ es, (run gl stages s).2.trace = s.trace ++ es.map .gl ∧
      Undisturbed stages es (run gl stages s).1) ∧
    ∀ others, others.Perm stages → ∀ s' : Session σ,
      (∃ a b, (run gl others s').1 = .error (.mixedStages a b)) ↔
        ∃ a b, (run gl stages s).1 = .error (.mixedStages a b) := by
  have undisturbed {stages : List Stage} (hne : stages ≠ []) (s : Session σ) :
      ∃ es, (run gl stages s).2.trace = s.trace ++ es.map .gl ∧
        Undisturbed stages es (run gl stages s).1 := by
    obtain ⟨es, htrace, hgiven, hran, -⟩ := Act.Makes.of_onFirst
      (run_makes (fun call _ => hgl call) hne (k := ())) s
    exact ⟨es, htrace, hran.undisturbed (GL.Device.faults_eq_nil hgl hgiven)⟩
  refine ⟨undisturbed hne s, fun others hperm s' => ?_⟩
  have hothers : others ≠ [] := fun hnil => hne (hnil ▸ hperm).symm.eq_nil
  obtain ⟨es, -, hstages⟩ := undisturbed hne s
  obtain ⟨es', -, hothers⟩ := undisturbed hothers s'
  rw [hothers.refused, hstages.refused, mixed_perm_iff hperm]

/-- A compute stage between two others. -/
theorem run_undisturbed_mixed :
    let gl := GL.Device.numbering (fun _ => false) []
    let stages : List Stage :=
      [⟨"a.vert", .vertex, ""⟩, ⟨"a.comp", .compute, ""⟩,
        ⟨"a.frag", .fragment, ""⟩]
    (run gl stages ⟨0, [], []⟩).1 = .error (.mixedStages .vertex .compute) ∧
      Mixed stages := by
  intro gl stages
  have hgl : ∀ call, gl.Answers call := fun call =>
    GL.Device.numbering_answers rfl
  have hne : stages ≠ [] := List.cons_ne_nil _ _
  obtain ⟨⟨es, -, h⟩, -⟩ := run_undisturbed hgl hne ⟨0, [], []⟩
  have hresult : (run gl stages ⟨0, [], []⟩).1 =
      .error (.mixedStages .vertex .compute) := by
    decide +kernel
  exact ⟨hresult, h.refused.mp ⟨_, _, hresult⟩⟩

end ShaderBindings.Compilation
