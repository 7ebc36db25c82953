import ShaderBindings.Proofs.Watch.Steps
import ShaderBindings.Window.Scripted

/-!
# Watching — Changes

Which changes of stage files a watcher overlooks. One that happens after the
observer was started is never lost, since the flag is cleared before the files
are read. One that happens before, but after the stages were read for the first
time, is not noticed until the next one.
-/

namespace ShaderBindings.Watch

open File

variable {σ : Type} {devices : Command.Devices σ} {time : String}
variable {args : List String} {interval : Number.Binary .double}
variable {history : List Label} {label : Label}

/-! ## Histories -/

/-- A stage file has changed since the stages were last read to generate the
module. -/
def Stale : List Label → Prop
  | [] => False
  | .changed :: _ => True
  | .read :: _ => False
  | .started :: history | .done :: history => Stale history

/-- A stage file had changed since then when the observer was started, and none
has changed from then on. -/
def Overlooked : List Label → Prop
  | [] => False
  | .changed :: _ => False
  | .started :: history => Stale history
  | .read :: history | .done :: history => Overlooked history

/-! ## What a phase does -/

/-- All that a phase can do to the state of watching. -/
inductive Advance (w : State) : Phase → Phase → State → Prop
  | refused : Advance w .parsing .ended w
  | parsed {paths : List Path} :
    Advance w .parsing (.reading (some paths)) w
  | read {unwatched : Option (List Path)} {read : Except Error Arguments} :
    Advance w (.reading unwatched) (.generating unwatched read) w
  | generated {unwatched : Option (List Path)}
      {read : Except Error Arguments} :
    Advance w (.generating unwatched read)
      (unwatched.elim .sleeping .preparing) w
  | prepared {paths : List Path} {w' : State}
      (hflag : w'.handler.needsRebuild = false)
      (hstarted : w'.Started ↔ w.Started) :
    Advance w (.preparing paths) .starting w'
  | started :
    Advance w .starting .sleeping
      { w with observations := w.observations ++ [.start] }
  | slept {interval : Number.Binary .double} :
    Advance w .sleeping .testing { w with sleeps := w.sleeps ++ [interval] }
  | left : Advance w .sleeping .ended w
  | tested : Advance w .testing
      (if w.handler.needsRebuild then .clearing else .sleeping) w
  | cleared :
    Advance w .clearing (.reading none)
      { w with handler.needsRebuild := false }
  | stayed : Advance w .ended .ended w

theorem Handler.needsRebuild_ofPaths {fs : System} {paths : List Path}
    {handler : Handler} (h : Handler.ofPaths fs paths = .ok handler) :
    handler.needsRebuild = false := by
  unfold Handler.ofPaths at h
  cases hreal : Handler.realPaths fs paths with
  | error e =>
    rw [hreal] at h
    cases h
  | ok files =>
    rw [hreal] at h
    cases h
    rfl

section Advancing

variable {x : Session σ × System} {y : (Session σ × System) × State}
variable {w : State}

/-- Scheduling directories starts nothing and leaves the handler. -/
theorem schedule_eq {paths : List String} {u : Unit}
    (h : (Act.each (fun d => observe (.schedule d)) paths : Work σ Unit)
      (x, w) = (.ok u, y)) :
    y.2.handler = w.handler ∧ (y.2.Started ↔ w.Started) := by
  induction paths generalizing x w with
  | nil =>
    cases h
    exact ⟨rfl, .rfl⟩
  | cons d rest ih =>
    obtain ⟨_, _, ⟨⟩, h⟩ := Act.of_bind_ok h
    obtain ⟨hhandler, hstarted⟩ := ih h
    refine ⟨hhandler, hstarted.trans ?_⟩
    simp [State.Started]

theorem prepare_advances {paths : List Path} {u : Unit}
    (h : prepare paths (x, w) = (.ok u, y)) :
    y.2.handler.needsRebuild = false ∧ (y.2.Started ↔ w.Started) := by
  obtain ⟨_, _, ⟨⟩, h⟩ := Act.of_bind_ok h
  obtain ⟨handler, _, hhandler, h⟩ := Act.of_bind_ok h
  obtain ⟨hof, rfl⟩ := Act.of_ofExcept_ok hhandler
  obtain ⟨_, _, ⟨⟩, h⟩ := Act.of_bind_ok h
  obtain ⟨_, _, hdirectories, h⟩ := Act.of_bind_ok h
  obtain ⟨-, rfl⟩ := Act.of_ofExcept_ok hdirectories
  obtain ⟨hsame, hstarted⟩ := schedule_eq h
  refine ⟨?_, hstarted⟩
  rw [hsame]
  exact Handler.needsRebuild_ofPaths hof

theorem Phase.act_advances {phase phase' : Phase}
    (h : phase.act devices time args interval (x, w) = (.ok phase', y)) :
    Advance w phase phase' y.2 := by
  cases phase with
  | parsing =>
    obtain ⟨arguments, z, hparse, h⟩ := Act.of_bind_ok h
    have hz : z.2 = w := (Act.of_onFirst hparse).2
    cases hstages : arguments.stages.isEmpty with
    | true =>
      simp only [hstages, if_true] at h
      obtain ⟨_, z', hlog, h⟩ := Act.of_bind_ok h
      cases h
      rw [(Act.of_onFirst hlog).2, hz]
      exact .refused
    | false =>
      simp only [hstages, Bool.false_eq_true, if_false] at h
      cases h
      rw [hz]
      exact .parsed
  | reading unwatched =>
    obtain ⟨read, z, hread, h⟩ := Act.of_bind_ok h
    cases h
    rw [(Act.of_onFirst hread).2]
    exact .read
  | generating unwatched read =>
    obtain ⟨_, z, hgenerate, h⟩ := Act.of_bind_ok h
    have hz : z.2 = w := (Act.of_onFirst hgenerate).2
    have hnext : phase' = unwatched.elim .sleeping .preparing ∧ y = z := by
      cases unwatched <;>
      · cases h
        exact ⟨rfl, rfl⟩
    obtain ⟨rfl, rfl⟩ := hnext
    rw [hz]
    exact .generated
  | preparing paths =>
    obtain ⟨_, z, hprepare, h⟩ := Act.of_bind_ok h
    cases h
    obtain ⟨hflag, hstarted⟩ := prepare_advances hprepare
    exact .prepared hflag hstarted
  | starting =>
    cases h
    exact .started
  | sleeping =>
    obtain ⟨_, _, ⟨⟩, h⟩ := Act.of_bind_ok h
    cases halive : w.observerAlive with
    | true =>
      simp only [halive, if_true] at h
      cases h
      exact .slept
    | false =>
      simp only [halive, Bool.false_eq_true, if_false] at h
      cases h
      exact .left
  | testing =>
    cases h
    exact .tested
  | clearing =>
    cases h
    exact .cleared
  | ended =>
    cases h
    exact .stayed

end Advancing

/-! ## The invariant -/

/-- What holds of a watcher with a history. Before the observer is started, the
flag is not set. From then on, before every sleep and every look at the flag, a
change that was not read is noted in the flag, unless it was overlooked; and
when the flag has been found set, none was overlooked. -/
def Inv (history : List Label) (w : State) : Phase → Prop
  | .parsing | .reading (some _) | .generating (some _) _ | .preparing _
  | .starting => ¬ w.Started ∧ w.handler.needsRebuild = false
  | .sleeping | .testing | .generating none _ =>
    w.Started ∧
      (w.handler.needsRebuild = false ∧ Stale history ↔ Overlooked history)
  | .clearing | .reading none => w.Started ∧ ¬ Overlooked history
  | .ended => True

theorem Advance.inv {w w' : State} {phase phase' : Phase}
    (h : Advance w phase phase' w') (hinv : Inv history w phase) :
    Inv (phase.label :: history) w' phase' := by
  cases h with
  | refused | left | stayed => trivial
  | parsed => exact hinv
  | @read unwatched _ =>
    cases unwatched with
    | some paths => exact hinv
    | none =>
      obtain ⟨hstarted, hnone⟩ := hinv
      refine ⟨hstarted, iff_of_false ?_ hnone⟩
      rintro ⟨-, ⟨⟩⟩
  | @generated unwatched _ =>
    cases unwatched with
    | some paths => exact hinv
    | none => exact hinv
  | prepared hflag hstarted => exact ⟨mt hstarted.mp hinv.1, hflag⟩
  | started =>
    obtain ⟨-, hflag⟩ := hinv
    refine ⟨by simp [State.Started], ?_⟩
    show _ ∧ Stale history ↔ Stale history
    simp [hflag]
  | slept => exact hinv
  | tested =>
    obtain ⟨hstarted, hiff⟩ := hinv
    cases hneeds : w.handler.needsRebuild with
    | true =>
      refine ⟨hstarted, fun hoverlooked => ?_⟩
      have hflag := (hiff.mpr hoverlooked).1
      rw [hneeds] at hflag
      cases hflag
    | false => exact ⟨hstarted, hiff⟩
  | cleared => exact hinv

/-- The state in which the flag is set. -/
def State.flagged (w : State) : State :=
  { w with handler := { w.handler with needsRebuild := true } }

/-- An event that tells of a change sets the flag, and does nothing else to the
state of watching. -/
theorem tell_of_tells {s : Session σ} {fs : System} {w : State}
    {event : FileEvent} (h : Tells fs w event) :
    (tell event ((s, fs), w)).2.2 = w.flagged := by
  obtain ⟨path, real, hchanged, hreal, hmem⟩ := h
  have hwatched : (some real).any w.handler.stageFiles.contains = true := by
    simpa using hmem
  have hcheck : ∃ s', Handler.check fs path (s, w.handler) =
      (.ok (), (s', w.flagged.handler)) := by
    unfold Handler.check
    simp only [hreal, Act.ofExcept_ok, pure_bind]
    simp only [Bind.bind, Act.bind, Act.get, hwatched, if_true]
    exact ⟨_, rfl⟩
  obtain ⟨s', hcheck⟩ := hcheck
  simp only [tell, Handler.handle, hchanged, hcheck]
  rfl

/-- After a change that was noted in the flag, nothing is overlooked. -/
theorem Inv.flagged {w : State} {phase : Phase} (hstarted : w.Started)
    (h : Inv history w phase) : Inv (.changed :: history) w.flagged phase := by
  cases phase with
  | parsing | preparing paths | starting => exact (h.1 hstarted).elim
  | reading unwatched =>
    cases unwatched with
    | some paths => exact (h.1 hstarted).elim
    | none => exact ⟨hstarted, id⟩
  | generating unwatched read =>
    cases unwatched with
    | some paths => exact (h.1 hstarted).elim
    | none => exact ⟨hstarted, by simp [State.flagged, Overlooked]⟩
  | sleeping | testing =>
    exact ⟨hstarted, by simp [State.flagged, Overlooked]⟩
  | clearing => exact ⟨hstarted, id⟩
  | ended => trivial

/-- One step keeps the invariant. -/
theorem Step.inv {m m' : Machine σ}
    (hs : Step devices time args interval m label m')
    (h : Inv history m.state.2 m.phase) :
    Inv (label :: history) m'.state.2 m'.phase := by
  cases hs with
  | acted hrun => exact (Phase.act_advances hrun).inv h
  | raised _ => trivial
  | unseen hnot =>
    obtain ⟨phase, x, w⟩ := m
    cases phase with
    | parsing | preparing paths | starting => exact h
    | reading unwatched | generating unwatched read =>
      cases unwatched with
      | some paths => exact h
      | none => exact (hnot h.1).elim
    | sleeping | testing | clearing => exact (hnot h.1).elim
    | ended => trivial
  | @seen files event hstarted htells =>
    have hflagged : (m.told files event).state.2 = m.state.2.flagged :=
      tell_of_tells htells
    rw [hflagged]
    exact h.flagged hstarted

/-- Any number of steps do. -/
theorem Steps.inv {m m' : Machine σ}
    (hs : Steps devices time args interval m history m')
    (h : Inv [] m.state.2 m.phase) : Inv history m'.state.2 m'.phase := by
  induction hs with
  | none => exact h
  | next _ hs ih => exact hs.inv ih

/-! ## Changes that are overlooked -/

/-- However a watcher and changes of stage files take turns: when it goes to
sleep with the flag not set, although a stage file has changed since the stages
were last read, that change was overlooked before the observer was started, and
nothing has changed since. -/
theorem sleeping_overlooked_iff {s : Session σ} {fs : System}
    {x : (Session σ × System) × State}
    (hs : Steps devices time args interval ⟨.parsing, (s, fs), {}⟩ history
      ⟨.sleeping, x⟩) :
    x.2.handler.needsRebuild = false ∧ Stale history ↔ Overlooked history :=
  (hs.inv ⟨by simp [State.Started], rfl⟩).2

/-- A stage file changes after it was read for the first time, and before the
observer is started. -/
theorem sleeping_overlooked_iff_early :
    let devices : Command.Devices Nat :=
      ⟨fun _ d => (.error .badIndex, d),
        Window.Script.system { starts := false }⟩
    let files : System := { entries := [(["a.vert"], .file [])] }
    ∃ history x, Steps devices "" ["a.vert"] (.infinity false)
        ⟨.parsing, (⟨0, [], []⟩, files), {}⟩ history ⟨.sleeping, x⟩ ∧
      x.2.handler.needsRebuild = false ∧ Stale history := by
  intro devices files
  let advance := Machine.advance devices "" ["a.vert"] (.infinity false)
  let parsed := advance ⟨.parsing, (⟨0, [], []⟩, files), {}⟩
  let read := advance parsed.2
  let generated := advance (read.2.withFiles {})
  let prepared := advance generated.2
  let started := advance prepared.2
  have hlabels : [started.1, prepared.1, generated.1, read.1, parsed.1] =
      [.started, .done, .done, .read, .done] := by decide +kernel
  have hunseen : ¬ read.2.state.2.Started := by
    unfold State.Started
    decide +kernel
  have hasleep : (match started.2.phase with
      | .sleeping => true
      | _ => false) = true := by decide +kernel
  have hphase : started.2 = ⟨.sleeping, started.2.state⟩ := by
    generalize started.2 = m at hasleep
    obtain ⟨phase, x⟩ := m
    cases phase <;> first | rfl | cases hasleep
  have hsteps : Steps devices "" ["a.vert"] (.infinity false)
      ⟨.parsing, (⟨0, [], []⟩, files), {}⟩
      [started.1, prepared.1, generated.1, .changed, read.1, parsed.1]
      started.2 := by
    have hread := (Steps.none.next (.advance _)).next (.advance parsed.2)
    have hchange : Step devices "" ["a.vert"] (.infinity false) read.2
        .changed (read.2.withFiles {}) := .unseen hunseen
    have hgenerated := (hread.next hchange).next (.advance _)
    exact (hgenerated.next (.advance generated.2)).next (.advance prepared.2)
  rw [hphase] at hsteps
  refine ⟨_, _, hsteps, ?_⟩
  rw [sleeping_overlooked_iff hsteps]
  simp only [List.cons.injEq] at hlabels
  obtain ⟨hstarted, hprepared, hgenerated, -⟩ := hlabels
  rw [hstarted, hprepared, hgenerated]
  trivial

end ShaderBindings.Watch
