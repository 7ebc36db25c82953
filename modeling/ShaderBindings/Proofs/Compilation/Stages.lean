import ShaderBindings.Compilation
import ShaderBindings.Proofs.Calls
import ShaderBindings.Proofs.Handles

/-!
# Compilation — Stages

What compiling stages asks of a device and what comes of it. Either the device
answers every call, and the calls are those written down in `Answer.events`, or
the first call that fails ends the compilation. Whatever happens, the shaders
that are held are exactly those that the calls created and attached.
-/

namespace ShaderBindings.Compilation

variable {σ : Type} {program : Int} {stage : Stage} {held : Held}
variable {es : List GL.Event}

/-! ## One stage -/

/-- What a device answers while a stage is compiled. -/
structure Answer where
  shader : Int
  succeeded : Bool
  log : Option RawText

namespace Answer

/-- What comes of a stage by these answers. -/
def outcome (a : Answer) (stage : Stage) : StageOutcome :=
  ⟨stage, a.succeeded, Diagnostic.inFile (GL.logText a.log) stage.path⟩

@[simp] theorem succeeded_outcome (a : Answer) :
    (a.outcome stage).succeeded = a.succeeded :=
  rfl

/-- The calls that compile a stage and attach it, with these answers. -/
def events (a : Answer) (program : Int) (stage : Stage) : List GL.Event :=
  [ ⟨.createShader stage.kind, .ok a.shader⟩,
    ⟨.shaderSource a.shader stage.text, .ok ()⟩,
    ⟨.compileShader a.shader, .ok ()⟩,
    ⟨.attachShader program a.shader, .ok ()⟩,
    ⟨.compileStatus a.shader, .ok a.succeeded⟩,
    ⟨.shaderInfoLog a.shader, .ok a.log⟩ ]

@[simp] theorem shadersCreated_events (a : Answer) :
    GL.shadersCreated (a.events program stage) = [a.shader] :=
  rfl

@[simp] theorem attached_events (a : Answer) :
    GL.attachments (a.events program stage) =
      [(program, a.shader)] :=
  rfl

@[simp] theorem faults_events (a : Answer) :
    GL.faults (a.events program stage) = [] :=
  rfl

end Answer

/-- A call by which a program is built, once there is a program. -/
def isBuilding : GL.Call → Bool
  | .createShader _ | .shaderSource .. | .compileShader _ | .compileStatus _
  | .shaderInfoLog _ | .attachShader .. | .linkProgram _ | .linkStatus _
  | .programInfoLog _ => true
  | _ => false

theorem Answer.isBuilding_of_mem {a : Answer} {e : GL.Event}
    (h : e ∈ a.events program stage) : isBuilding e.call = true := by
  simp only [Answer.events, List.mem_cons, List.not_mem_nil, or_false] at h
  rcases h with rfl | rfl | rfl | rfl | rfl | rfl <;> rfl

theorem isRelease_of_isBuilding {call : GL.Call} (h : isBuilding call = true) :
    call.isRelease = false := by
  cases call <;> first | rfl | cases h

theorem ne_createProgram_of_isBuilding {call : GL.Call}
    (h : isBuilding call = true) : call ≠ .createProgram := by
  rintro rfl
  cases h

/-- What is held after calls: in addition, what they created and attached. -/
def Held.after (held : Held) (es : List GL.Event) : Held where
  created := held.created ++ GL.shadersCreated es
  attached := held.attached ++ (GL.attachments es).map Prod.snd

@[simp] theorem Held.after_nil (held : Held) : held.after [] = held := by
  simp [Held.after]

theorem Held.after_append (held : Held) (es es' : List GL.Event) :
    held.after (es ++ es') = (held.after es).after es' := by
  simp [Held.after]

/-- Only shaders that were created are attached, and to this program. -/
def AttachesOwn (program : Int) (es : List GL.Event) : Prop :=
  ∀ q ∈ GL.attachments es,
    q.1 = program ∧ q.2 ∈ GL.shadersCreated es

theorem attachesOwn_nil : AttachesOwn program [] := by
  simp [AttachesOwn]

theorem AttachesOwn.append {es' : List GL.Event} (h : AttachesOwn program es)
    (h' : AttachesOwn program es') : AttachesOwn program (es ++ es') := by
  simp only [AttachesOwn, List.filterMap_append, List.mem_append]
  rintro q (hq | hq)
  · exact ⟨(h q hq).1, .inl (h q hq).2⟩
  · exact ⟨(h' q hq).1, .inr (h' q hq).2⟩

theorem Answer.attachesOwn_events (a : Answer) :
    AttachesOwn program (a.events program stage) := by
  simp [AttachesOwn]

/-- How a stage is compiled: every call is answered, or one fails. -/
inductive StageCompiled (program : Int) (stage : Stage) :
    List GL.Event → Except Error StageOutcome → Prop
  | answered (a : Answer) :
    StageCompiled program stage (a.events program stage)
      (.ok (a.outcome stage))
  | failed {es : List GL.Event} {fault : ExternalFault}
      (hfaults : GL.faults es = [fault])
      (hbuild : ∀ e ∈ es, isBuilding e.call = true)
      (hown : AttachesOwn program es) :
    StageCompiled program stage es (.error (.external fault))

theorem compileStage_makes (gl : GL.Device σ) :
    (compileStage gl program stage).Makes gl held fun es r held' =>
      StageCompiled program stage es r ∧ held' = held.after es := by
  have failed : ∀ {es : List GL.Event} {fault : ExternalFault} {held' : Held},
      GL.faults es = [fault] → (∀ e ∈ es, isBuilding e.call = true) →
      AttachesOwn program es → held' = held.after es →
      StageCompiled program stage es (.error (.external fault)) ∧
        held' = held.after es := fun hf hb ho hh => ⟨.failed hf hb ho, hh⟩
  unfold compileStage
  refine .perform_bind (fun shader => ?_) fun fault _ => ?notCreated
  refine .modify_bind ?_
  refine .perform_bind (fun _ => ?_) fun fault _ => ?notSourced
  refine .perform_bind (fun _ => ?_) fun fault _ => ?notCompiled
  refine .perform_bind (fun _ => ?_) fun fault _ => ?notAttached
  refine .modify_bind ?_
  refine .perform_bind (fun succeeded => ?_) fun fault _ => ?noStatus
  refine .perform_bind (fun log => ?_) fun fault _ => ?noLog
  case notCreated | notSourced | notCompiled | notAttached | noStatus | noLog =>
    refine failed rfl (by simp [isBuilding]) ?_ ?_
    · simp only [AttachesOwn, List.filterMap_cons, GL.Event.shaderCreated?,
        GL.Event.attached?, GL.Call.newShader?]
      simp
    · simp only [Held.after, List.filterMap_cons, GL.Event.shaderCreated?,
        GL.Event.attached?, GL.Call.newShader?]
      simp
  -- whether the stage was compiled decides about the message alone
  split
  all_goals
    refine .write_bind (.pure ⟨.answered ⟨shader, succeeded, log⟩, ?_⟩)
    simp only [Held.after, List.filterMap_cons, GL.Event.shaderCreated?,
      GL.Event.attached?, GL.Call.newShader?]
    simp

theorem StageCompiled.isBuilding_of_mem {r : Except Error StageOutcome}
    (h : StageCompiled program stage es r) :
    ∀ e ∈ es, isBuilding e.call = true := by
  cases h with
  | answered a => exact fun e he => a.isBuilding_of_mem he
  | failed _ hbuild _ => exact hbuild

theorem StageCompiled.attachesOwn {r : Except Error StageOutcome}
    (h : StageCompiled program stage es r) : AttachesOwn program es := by
  cases h with
  | answered a => exact a.attachesOwn_events
  | failed _ _ hown => exact hown

/-! ## All stages -/

/-- A stage goes with the one before it, if there is one. -/
def Follows (previous : Option StageKind) (stage : Stage) : Prop :=
  ∀ kind ∈ previous, kind.compatible stage.kind = true

/-- How stages are compiled one after the other: all are answered, or a stage
that does not go with the one before it or a call that fails is the end. -/
inductive StagesCompiled (program : Int) : Option StageKind → List Stage →
    List GL.Event → Except Error (List StageOutcome) → Prop
  | done {previous : Option StageKind} :
    StagesCompiled program previous [] [] (.ok [])
  | mixed {kind : StageKind} {stage : Stage} {rest : List Stage}
      (h : kind.compatible stage.kind = false) :
    StagesCompiled program (some kind) (stage :: rest) []
      (.error (.mixedStages kind stage.kind))
  | failed {previous : Option StageKind} {stage : Stage} {rest : List Stage}
      {es : List GL.Event} {fault : ExternalFault}
      (h : Follows previous stage)
      (hs : StageCompiled program stage es (.error (.external fault))) :
    StagesCompiled program previous (stage :: rest) es
      (.error (.external fault))
  | next {previous : Option StageKind} {stage : Stage} {rest : List Stage}
      {es : List GL.Event} {r : Except Error (List StageOutcome)} {a : Answer}
      (h : Follows previous stage)
      (ht : StagesCompiled program (some stage.kind) rest es r) :
    StagesCompiled program previous (stage :: rest)
      (a.events program stage ++ es) (r.map (a.outcome stage :: ·))

theorem compileStages_makes (gl : GL.Device σ) (stages : List Stage) :
    ∀ (previous : Option StageKind) (held : Held),
      (compileStages gl program previous stages).Makes gl held
        fun es r held' =>
          StagesCompiled program previous stages es r ∧
            held' = held.after es := by
  induction stages with
  | nil => exact fun previous held => .pure ⟨.done, by simp⟩
  | cons stage rest ih =>
    intro previous held
    have compiled (h : Follows previous stage) :
        (do let outcome ← compileStage gl program stage
            let outcomes ← compileStages gl program (some stage.kind) rest
            return outcome :: outcomes).Makes gl held fun es r held' =>
          StagesCompiled program previous (stage :: rest) es r ∧
            held' = held.after es := by
      refine .bind (compileStage_makes gl) ?_ ?_
      · rintro es outcome held' ⟨hs, rfl⟩
        cases hs with
        | answered a =>
          refine .bind (ih (some stage.kind) _) ?_ ?_
          · rintro es' outcomes held'' ⟨ht, rfl⟩
            refine .pure ⟨?_, by simp [Held.after_append]⟩
            rw [List.append_nil]
            exact ht.next h
          · rintro es' e held'' ⟨ht, rfl⟩
            exact ⟨ht.next h, by simp [Held.after_append]⟩
      · rintro es e held' ⟨hs, rfl⟩
        cases hs with
        | failed hfaults hbuild hown =>
          exact ⟨.failed h (.failed hfaults hbuild hown), rfl⟩
    unfold compileStages
    cases previous with
    | none => exact compiled (by simp [Follows])
    | some kind =>
      cases hk : kind.compatible stage.kind with
      | true => simpa [hk] using compiled (by simpa [Follows] using hk)
      | false => simpa [hk] using .fail ⟨.mixed hk, by simp⟩

theorem StagesCompiled.isBuilding_of_mem {previous : Option StageKind}
    {stages : List Stage} {r : Except Error (List StageOutcome)}
    (h : StagesCompiled program previous stages es r) :
    ∀ e ∈ es, isBuilding e.call = true := by
  induction h with
  | done | mixed _ => simp
  | failed _ hs => exact hs.isBuilding_of_mem
  | next _ _ ih =>
    intro e he
    exact (List.mem_append.mp he).elim Answer.isBuilding_of_mem (ih e)

theorem StagesCompiled.attachesOwn {previous : Option StageKind}
    {stages : List Stage} {r : Except Error (List StageOutcome)}
    (h : StagesCompiled program previous stages es r) :
    AttachesOwn program es := by
  induction h with
  | done | mixed _ => exact attachesOwn_nil
  | failed _ hs => exact hs.attachesOwn
  | next _ _ ih => exact (Answer.attachesOwn_events _).append ih

/-! ## Answers to all calls -/

/-- The calls that compile stages in order, with these answers. -/
def stageEvents (program : Int) (stages : List Stage) (answers : List Answer) :
    List GL.Event :=
  (List.zipWith (fun stage a => a.events program stage) stages answers).flatten

/-- What comes of stages by these answers. -/
def outcomesOf (stages : List Stage) (answers : List Answer) :
    List StageOutcome :=
  List.zipWith (fun stage a => a.outcome stage) stages answers

theorem outcomesOf_cons (stage : Stage) (rest : List Stage) (a : Answer)
    (answers : List Answer) :
    outcomesOf (stage :: rest) (a :: answers) =
      a.outcome stage :: outcomesOf rest answers :=
  rfl

/-- Stages that have outcomes were answered, every one of them. -/
theorem StagesCompiled.answers {previous : Option StageKind}
    {stages : List Stage} {outcomes : List StageOutcome}
    (h : StagesCompiled program previous stages es (.ok outcomes)) :
    ∃ answers : List Answer, answers.length = stages.length ∧
      es = stageEvents program stages answers ∧
      outcomes = outcomesOf stages answers := by
  generalize hr : Except.ok outcomes = r at h
  induction h generalizing outcomes with
  | done => cases hr; exact ⟨[], rfl, rfl, rfl⟩
  | mixed _ | failed _ _ => cases hr
  | @next _ stage _ _ r a _ _ ih =>
    cases r with
    | error e => cases hr
    | ok outcomes' =>
      cases hr
      obtain ⟨answers, hlength, rfl, rfl⟩ := ih rfl
      exact ⟨a :: answers, by simp [hlength], rfl, rfl⟩

/-- All outcomes are good exactly if all answers are. -/
theorem all_outcomesOf {stages : List Stage} {answers : List Answer}
    (hlength : answers.length = stages.length) :
    ((outcomesOf stages answers).all fun s => s.succeeded) =
      answers.all fun a => a.succeeded := by
  induction stages generalizing answers with
  | nil => simp [List.length_eq_zero_iff.mp hlength, outcomesOf]
  | cons stage rest ih =>
    cases answers with
    | nil => cases hlength
    | cons a answers =>
      simp [outcomesOf_cons, ih (Nat.succ.inj hlength)]

theorem mem_stageEvents_of_mem {stages : List Stage} {answers : List Answer}
    (hlength : answers.length = stages.length) {a : Answer} (ha : a ∈ answers) :
    ∃ stage ∈ stages, ∀ e ∈ a.events program stage,
      e ∈ stageEvents program stages answers := by
  induction stages generalizing answers with
  | nil => simp [List.length_eq_zero_iff.mp hlength] at ha
  | cons stage rest ih =>
    cases answers with
    | nil => cases hlength
    | cons b answers =>
      obtain rfl | ha := List.mem_cons.mp ha
      · exact ⟨stage, List.mem_cons_self, fun e he =>
          List.mem_append_left _ he⟩
      · obtain ⟨stage', hstage', hmem⟩ := ih (Nat.succ.inj hlength) ha
        exact ⟨stage', List.mem_cons_of_mem _ hstage', fun e he =>
          List.mem_append_right _ (hmem e he)⟩

/-- Every call among these belongs to a stage and its answers. -/
theorem mem_stageEvents {stages : List Stage} {answers : List Answer}
    {e : GL.Event} (h : e ∈ stageEvents program stages answers) :
    ∃ stage, ∃ a ∈ answers, e ∈ a.events program stage := by
  obtain ⟨es, hes, he⟩ := List.mem_flatten.mp h
  obtain ⟨i, hi, rfl⟩ := List.mem_iff_getElem.mp hes
  rw [List.getElem_zipWith] at he
  exact ⟨_, _, List.getElem_mem _, he⟩

/-! ## What stops it -/

/-- The first two kinds in a row that do not go together, the first of them
perhaps being the one before the stages. -/
def mixing? : Option StageKind → List Stage → Option (StageKind × StageKind)
  | _, [] => none
  | none, stage :: rest => mixing? (some stage.kind) rest
  | some kind, stage :: rest =>
    if kind.compatible stage.kind then mixing? (some stage.kind) rest
    else some (kind, stage.kind)

theorem mixing?_cons {previous : Option StageKind} (h : Follows previous stage)
    (rest : List Stage) :
    mixing? previous (stage :: rest) = mixing? (some stage.kind) rest := by
  cases previous with
  | none => rfl
  | some kind => simp [mixing?, h kind rfl]

theorem mixing?_some_eq_none_iff (kind : StageKind) (stages : List Stage) :
    mixing? (some kind) stages = none ↔
      ∀ s ∈ stages, kind.compatible s.kind = true := by
  induction stages generalizing kind with
  | nil => simp [mixing?]
  | cons stage rest ih =>
    cases h : kind.compatible stage.kind with
    | false => simp [mixing?, h]
    | true =>
      have hsame : ∀ k, stage.kind.compatible k = kind.compatible k := by
        simp only [StageKind.compatible, beq_iff_eq] at h ⊢
        simp [h]
      simp [mixing?, h, ih, hsame]

/-- Stages go together exactly if all of them are compute stages or none is. -/
theorem mixing?_eq_none_iff (stages : List Stage) :
    mixing? none stages = none ↔
      (∀ s ∈ stages, s.kind = .compute) ∨ ∀ s ∈ stages, s.kind ≠ .compute := by
  cases stages with
  | nil => simp [mixing?]
  | cons stage rest =>
    rw [mixing?, mixing?_some_eq_none_iff]
    by_cases h : stage.kind = .compute
    · simp [StageKind.compatible, h]
    · have hb : (stage.kind == .compute) = false := by simpa using h
      simp [StageKind.compatible, h, hb]

/-- What stops the compilation of stages: a call that failed, if one did, or
kinds that do not go together; and neither of them if it is not stopped. -/
theorem StagesCompiled.cause {previous : Option StageKind}
    {stages : List Stage} {r : Except Error (List StageOutcome)}
    (h : StagesCompiled program previous stages es r) :
    match r with
    | .ok _ => GL.faults es = [] ∧ mixing? previous stages = none
    | .error e =>
      (∃ fault, GL.faults es = [fault] ∧ e = .external fault) ∨
      ∃ a b, GL.faults es = [] ∧ mixing? previous stages = some (a, b) ∧
        e = .mixedStages a b := by
  induction h with
  | done => exact ⟨rfl, rfl⟩
  | mixed h => exact .inr ⟨_, _, rfl, by simp [mixing?, h], rfl⟩
  | failed _ hs =>
    cases hs with
    | failed hfaults _ _ => exact .inl ⟨_, hfaults, rfl⟩
  | @next _ _ _ _ r _ h _ ih =>
    cases r with
    | ok outcomes => simpa [Except.map, mixing?_cons h] using ih
    | error e => simpa [Except.map, mixing?_cons h] using ih

end ShaderBindings.Compilation
