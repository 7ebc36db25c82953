import ShaderBindings.Proofs.Binding.Compilation
import ShaderBindings.Proofs.Recording

/-!
# Binding — Two classes side by side

Two classes of one plan, whose stages come from the text of the module in one
and from files in the other. `Alongside` compares what they ask of their devices
as long as they get the same answers: only the texts of stages differ. `InStep`
says so of an act of each, and there is one rule for each way of building acts,
as for the calls of a single one.
-/

namespace ShaderBindings

/-- The call passes the text of a stage. -/
def GL.Call.passesText : GL.Call → Bool
  | .shaderSource .. => true
  | _ => false

namespace Binding

variable {σ τ α β : Type} {plan : Plan} {files : File.System}
variable {stages : List Stage} {ends later : Prop}
variable {es es' fs fs' : List Event}

/-! ## What is asked -/

/-- Two traces side by side, up to the first call that is answered differently.
Each call is made in both. A shader that is made for the next stage is passed
the text of the stage in one, and what its file says in the other. If all
answers are the same, the traces are over at the same time, and `ends` holds. -/
inductive Alongside (files : File.System) (ends : Prop) :
    List Stage → List Event → List Event → Prop
  | done {stages : List Stage} (h : ends) : Alongside files ends stages [] []
  | call {stages : List Stage} {call : GL.Call}
      {r r' : Except ExternalFault call.Reply} {es es' : List Event}
      (hcall : call.passesText = false)
      (h : r = r' → Alongside files ends stages es es') :
    Alongside files ends stages (.gl ⟨call, r⟩ :: es) (.gl ⟨call, r'⟩ :: es')
  | stage {s : Stage} {stages : List Stage} {shader : Int} {text : String}
      {r r' : Except ExternalFault Unit} {es es' : List Event}
      (htext : files.readText (.ofText s.path) = .ok text)
      (h : r = r' → Alongside files ends stages es es') :
    Alongside files ends (s :: stages)
      (.gl ⟨.createShader s.kind, .ok shader⟩ ::
        .gl ⟨.shaderSource shader s.text, r⟩ :: es)
      (.gl ⟨.createShader s.kind, .ok shader⟩ ::
        .gl ⟨.shaderSource shader text, r'⟩ :: es')

namespace Alongside

theorem mono (h : Alongside files ends stages es es') (himp : ends → later) :
    Alongside files later stages es es' := by
  induction h with
  | done hends => exact .done (himp hends)
  | call hcall _ ih => exact .call hcall ih
  | stage htext _ ih => exact .stage htext ih

/-- What passes no text goes with any stages. -/
theorem lift (h : Alongside files ends [] es es') :
    Alongside files ends stages es es' := by
  generalize hnone : ([] : List Stage) = none at h
  induction h with
  | done hends => exact .done hends
  | call hcall _ ih => exact .call hcall fun hr => ih hr hnone
  | stage => cases hnone

/-- Traces that pass no text, and others after them. -/
theorem append (h : Alongside files ends [] es es')
    (h' : ends → Alongside files later stages fs fs') :
    Alongside files later stages (es ++ fs) (es' ++ fs') := by
  generalize hnone : ([] : List Stage) = none at h
  induction h with
  | done hends => exact h' hends
  | call hcall _ ih => exact .call hcall fun hr => ih hr hnone
  | stage => cases hnone

/-- Traces, and others after them that pass no text. -/
theorem append_quiet (h : Alongside files ends stages es es')
    (h' : ends → Alongside files later [] fs fs') :
    Alongside files later stages (es ++ fs) (es' ++ fs') := by
  induction h with
  | done hends => exact (h' hends).lift
  | call hcall _ ih => exact .call hcall ih
  | stage htext _ ih => exact .stage htext ih

/-- A shader is made for the next stage. If there is one in both, the text of
the stage is passed to it first of all; if there is none in both, no text is
passed any more. -/
theorem made {s : Stage} {made made' : Except ExternalFault Int}
    {text : String} (htext : files.readText (.ofText s.path) = .ok text)
    (hok : ∀ shader, made = .ok shader → made' = .ok shader →
      ∃ r r' fs fs', es = .gl ⟨.shaderSource shader s.text, r⟩ :: fs ∧
        es' = .gl ⟨.shaderSource shader text, r'⟩ :: fs' ∧
        (r = r' → Alongside files ends stages fs fs'))
    (herror : ∀ fault, made = .error fault → made' = .error fault →
      Alongside files ends [] es es') :
    Alongside files ends (s :: stages) (.gl ⟨.createShader s.kind, made⟩ :: es)
      (.gl ⟨.createShader s.kind, made'⟩ :: es') := by
  by_cases hsame : made = made'
  · subst hsame
    cases made with
    | error fault => exact .call rfl fun _ => (herror fault rfl rfl).lift
    | ok shader =>
      obtain ⟨r, r', fs, fs', rfl, rfl, h⟩ := hok shader rfl rfl
      exact .stage htext h
  · exact .call rfl fun h => absurd h hsame

end Alongside

/-! ## Texts that make no difference -/

/-- All stages can be read from their files. -/
def Readable (files : File.System) (stages : List Stage) : Prop :=
  ∀ s ∈ stages, ∃ text, files.readText (.ofText s.path) = .ok text

/-- All stages can be read from their files, and neither the device nor the view
makes a difference between what is read and the texts of the stages. -/
def Indistinct (gl : GL.Device σ) (view : Event → Event) (stages : List Stage)
    (files : File.System) : Prop :=
  ∀ s ∈ stages, ∃ text, files.readText (.ofText s.path) = .ok text ∧
    ∀ shader,
      gl (.shaderSource shader s.text) = gl (.shaderSource shader text) ∧
      ∀ r : Except ExternalFault Unit,
        view (.gl ⟨.shaderSource shader s.text, r⟩) =
          view (.gl ⟨.shaderSource shader text, r⟩)

theorem Indistinct.readable {view : Event → Event} {stages : List Stage}
    (h : Indistinct gl view stages files) : Readable files stages := by
  intro s hs
  obtain ⟨text, htext, -⟩ := h s hs
  exact ⟨text, htext⟩

/-- What one device is asked, from one state, is the same in both traces, if
neither it nor the view makes a difference between the texts. -/
theorem Alongside.map_eq {gl : GL.Device σ} {d e e' : σ} {view : Event → Event}
    (h : Alongside files ends stages es es')
    (hsame : Indistinct gl view stages files)
    (hplays : gl.Plays d es e) (hplays' : gl.Plays d es' e') :
    es.map view = es'.map view ∧ e = e' ∧ ends := by
  induction h generalizing d with
  | done hends =>
    exact ⟨rfl, hplays.eq_of_nil.symm.trans hplays'.eq_of_nil, hends⟩
  | call hcall _ ih =>
    obtain ⟨hr, hafter⟩ := hplays.of_cons
    obtain ⟨hr', hafter'⟩ := hplays'.of_cons
    have hrr' := hr.trans hr'.symm
    obtain ⟨hmap, hrest⟩ := ih hrr' hsame hafter hafter'
    exact ⟨by rw [List.map_cons, List.map_cons, hmap, hrr'], hrest⟩
  | @stage s stages shader text r r' es es' htext _ ih =>
    obtain ⟨hs, hstages⟩ := List.forall_mem_cons.mp hsame
    obtain ⟨read, hread, hsame⟩ := hs
    cases htext.symm.trans hread
    obtain ⟨hanswer, hview⟩ := hsame shader
    obtain ⟨-, hmade⟩ := hplays.of_cons
    obtain ⟨-, hmade'⟩ := hplays'.of_cons
    obtain ⟨hr, hafter⟩ := hmade.of_cons
    obtain ⟨hr', hafter'⟩ := hmade'.of_cons
    have hsource := congrFun hanswer (gl (.createShader s.kind) d).2
    have hrr' : r = r' := hr.trans ((congrArg Prod.fst hsource).trans hr'.symm)
    rw [← congrArg Prod.snd hsource] at hafter'
    obtain ⟨hmap, hrest⟩ := ih hrr' hstages hafter hafter'
    refine ⟨?_, hrest⟩
    simp only [List.map_cons, hmap, hrr', hview]

/-! ## What is there -/

/-- What is shared with other texts of stages, and with other words of the class
about itself. -/
def Shared.withTexts (b : Shared) (sources : List (String × String))
    (documentation : Option String) : Shared :=
  { b with sources, documentation }

/-- The state with such texts. -/
def State.withTexts (k : State) (sources : List (String × String))
    (documentation : Option String) : State :=
  { k with shared := k.shared.withTexts sources documentation }

/-- Two states that are the same but for texts. -/
structure Paired (files : File.System)
    (texts : List (String × String) → List (String × String) → Prop)
    (k k' : State) : Prop where
  same : k' = k.withTexts k'.shared.sources k'.shared.documentation
  texts : texts k.shared.sources k'.shared.sources
  files : k.files = files

variable {texts : List (String × String) → List (String × String) → Prop}
variable {k k' : State}

namespace Paired

theorem instances_eq (h : Paired files texts k k') :
    k'.instances = k.instances := by
  rw [h.same]
  rfl

theorem files_eq (h : Paired files texts k k') : k'.files = files := by
  rw [h.same]
  exact h.files

theorem mono {other : List (String × String) → List (String × String) → Prop}
    (h : Paired files texts k k')
    (himp : texts k.shared.sources k'.shared.sources →
      other k.shared.sources k'.shared.sources) :
    Paired files other k k' :=
  ⟨h.same, himp h.texts, h.files⟩

/-- One of the states gets other texts. -/
theorem withSources
    {other : List (String × String) → List (String × String) → Prop}
    (h : Paired files texts k k') {sources : List (String × String)}
    (htexts : other k.shared.sources sources) :
    Paired files other k (k'.withSources sources) := by
  refine ⟨?_, htexts, h.files⟩
  rw [h.same]
  rfl

/-- What is shared changes in both, but for the texts. -/
theorem share {f : Shared → Shared}
    (hf : ∀ b sources documentation,
      f (b.withTexts sources documentation) =
        (f b).withTexts sources documentation)
    (h : Paired files texts k k') :
    Paired files texts { k with shared := f k.shared }
      { k' with shared := f k'.shared } := by
  have hsources (b : Shared) : (f b).sources = b.sources := by
    have hb : f b = (f b).withTexts b.sources b.documentation := hf b _ _
    rw [hb]
    rfl
  refine ⟨?_, ?_, h.files⟩
  · rw [h.same]
    simp only [State.withTexts, hf]
    rfl
  · simp only [hsources]
    exact h.texts

/-- An instance is kept in both. -/
theorem keep (h : Paired files texts k k') (self : String) (i : Instance) :
    Paired files texts
      { k with instances := Table.insert self i k.instances }
      { k' with instances := Table.insert self i k'.instances } := by
  refine ⟨?_, h.texts, h.files⟩
  rw [h.same]
  rfl

end Paired

/-- What two acts come to: the same, with the same said in the log. -/
structure Alike (files : File.System)
    (texts : List (String × String) → List (String × String) → Prop)
    (o : Except Error α × Session σ × State)
    (o' : Except Error α × Session τ × State) : Prop where
  result : o.1 = o'.1
  log : o.2.1.log = o'.2.1.log
  paired : Paired files texts o.2.2 o'.2.2

/-! ## Acts in step -/

variable {gl : GL.Device σ} {gl' : GL.Device τ}

/-- From states that are the same but for texts, the acts ask the same in the
same order, as long as the answers are the same. They pass the texts of the
stages, of the first ones at least. -/
structure InStep (gl : GL.Device σ) (gl' : GL.Device τ) (files : File.System)
    (texts : List (String × String) → List (String × String) → Prop)
    (stages : List Stage) (x : Work σ α) (y : Work τ α) : Prop where
  records : x.Records gl
  records' : y.Records gl'
  along : ∀ p p', p.1.log = p'.1.log → Paired files texts p.2 p'.2 →
    Alongside files (Alike files texts (x p) (y p')) stages
      (x.said p) (y.said p')

namespace InStep

variable {x : Work σ α} {y : Work τ α} {f : α → Work σ β} {g : α → Work τ β}

theorem lift (h : InStep gl gl' files texts [] x y) :
    InStep gl gl' files texts stages x y :=
  ⟨h.records, h.records', fun p p' hlog hk => (h.along p p' hlog hk).lift⟩

/-- Acts that neither ask nor say anything. -/
theorem silent
    (hx : ∀ s k, (x (s, k)).2.1 = s) (hy : ∀ s k, (y (s, k)).2.1 = s)
    (h : ∀ s k s' k', Paired files texts k k' →
      (x (s, k)).1 = (y (s', k')).1 ∧
        Paired files texts (x (s, k)).2.2 (y (s', k')).2.2) :
    InStep gl gl' files texts [] x y := by
  have hrecords : x.Records gl :=
    .silent (fun p => by rw [hx p.1 p.2]) fun p => by rw [hx p.1 p.2]
  have hrecords' : y.Records gl' :=
    .silent (fun p => by rw [hy p.1 p.2]) fun p => by rw [hy p.1 p.2]
  refine ⟨hrecords, hrecords', ?_⟩
  rintro ⟨s, k⟩ ⟨s', k'⟩ hlog hk
  have hsaid : x.said (s, k) = [] := Act.said_eq (by simp [hx])
  have hsaid' : y.said (s', k') = [] := Act.said_eq (by simp [hy])
  rw [hsaid, hsaid']
  obtain ⟨hresult, hpaired⟩ := h s k s' k' hk
  refine .done ⟨hresult, ?_, hpaired⟩
  rw [hx, hy]
  exact hlog

theorem pure (a : α) :
    InStep gl gl' files texts [] (Pure.pure a : Work σ α)
      (Pure.pure a : Work τ α) :=
  .silent (fun _ _ => rfl) (fun _ _ => rfl) fun _ _ _ _ hk => ⟨rfl, hk⟩

theorem fail (e : Error) :
    InStep gl gl' files texts [] (Act.fail e : Work σ α)
      (Act.fail e : Work τ α) :=
  .silent (fun _ _ => rfl) (fun _ _ => rfl) fun _ _ _ _ hk => ⟨rfl, hk⟩

theorem ofExcept (r : Except Error α) :
    InStep gl gl' files texts [] (Act.ofExcept r : Work σ α)
      (Act.ofExcept r : Work τ α) := by
  cases r with
  | ok a => exact pure a
  | error e => exact fail e

theorem next (hf : ∀ a, InStep gl gl' files texts stages (f a) (g a))
    (r : Except Error α) :
    InStep gl gl' files texts stages (Act.next f r) (Act.next g r) := by
  cases r with
  | ok a => exact hf a
  | error e => exact (fail e).lift

/-- One act after another, when what is known of their traces can be put
together. -/
theorem bind_of_append {first second : List Stage}
    (happend : ∀ {ends : Prop} {es es' fs fs' : List Event},
      Alongside files ends first es es' →
      ∀ {later : Prop}, (ends → Alongside files later second fs fs') →
        Alongside files later stages (es ++ fs) (es' ++ fs'))
    (hx : InStep gl gl' files texts first x y)
    (hf : ∀ a, InStep gl gl' files texts second (f a) (g a)) :
    InStep gl gl' files texts stages (x >>= f) (y >>= g) := by
  refine ⟨hx.records.bind fun a => (hf a).records,
    hx.records'.bind fun a => (hf a).records', ?_⟩
  intro p p' hlog hk
  rw [hx.records.said_bind fun a => (hf a).records,
    hx.records'.said_bind fun a => (hf a).records']
  refine happend (hx.along p p' hlog hk) fun hends => ?_
  rw [Act.bind_eq, Act.bind_eq, ← hends.result]
  exact (next hf _).along _ _ hends.log hends.paired

/-- Acts that pass no text, and others after them. -/
theorem bind (hx : InStep gl gl' files texts [] x y)
    (hf : ∀ a, InStep gl gl' files texts stages (f a) (g a)) :
    InStep gl gl' files texts stages (x >>= f) (y >>= g) :=
  bind_of_append (fun h _ h' => h.append h') hx hf

/-- Acts, and others after them that pass no text. -/
theorem bind_quiet (hx : InStep gl gl' files texts stages x y)
    (hf : ∀ a, InStep gl gl' files texts [] (f a) (g a)) :
    InStep gl gl' files texts stages (x >>= f) (y >>= g) :=
  bind_of_append (fun h _ h' => h.append_quiet h') hx hf

/-! ## Single steps -/

/-- Looking at the states, where the texts are of no matter. -/
theorem get_bind {f : State → Work σ α} {g : State → Work τ α}
    (h : ∀ k sources documentation,
      InStep gl gl' files texts stages (f k)
        (g (k.withTexts sources documentation))) :
    InStep gl gl' files texts stages (Act.get >>= fun p => f p.2)
      (Act.get >>= fun p => g p.2) where
  records :=
    .bind (.silent (fun _ => rfl) fun _ => rfl) fun p => (h p.2 [] none).records
  records' :=
    .bind (.silent (fun _ => rfl) fun _ => rfl) fun p =>
      (h p.2 p.2.shared.sources p.2.shared.documentation).records'
  along := by
    rintro ⟨s, k⟩ ⟨s', k'⟩ hlog hk
    have hstep := h k k'.shared.sources k'.shared.documentation
    rw [← hk.same] at hstep
    exact hstep.along _ _ hlog hk

/-- Looking at what is shared, likewise. -/
theorem shared_bind {f : Shared → Work σ α} {g : Shared → Work τ α}
    (h : ∀ b sources documentation,
      InStep gl gl' files texts stages (f b)
        (g (b.withTexts sources documentation))) :
    InStep gl gl' files texts stages (shared >>= f) (shared >>= g) :=
  get_bind (f := fun k => f k.shared) (g := fun k => g k.shared)
    fun k sources documentation => h k.shared sources documentation

theorem call {call : GL.Call} (hcall : call.passesText = false) :
    InStep gl gl' files texts [] (Act.onFirst (gl.perform call))
      (Act.onFirst (gl'.perform call)) where
  records := .perform call
  records' := .perform call
  along := by
    intro p p' hlog hk
    rw [Act.said_perform, Act.said_perform]
    refine .call hcall fun hr => .done ⟨?_, hlog, hk⟩
    simp only [Act.onFirst, GL.Device.perform, hr]

theorem write (level : Log.Level) (message : String) :
    InStep gl gl' files texts []
      (Act.onFirst (Session.write level message) : Work σ Unit)
      (Act.onFirst (Session.write level message) : Work τ Unit) where
  records := .silent (fun _ => rfl) fun _ => rfl
  records' := .silent (fun _ => rfl) fun _ => rfl
  along := by
    intro p p' hlog hk
    rw [Act.said_eq (List.append_nil _).symm,
      Act.said_eq (List.append_nil _).symm]
    refine .done ⟨rfl, ?_, hk⟩
    exact congrArg (· ++ [⟨level, message⟩]) hlog

/-- What is shared changes, but for the texts. -/
theorem share {f : Shared → Shared}
    (hf : ∀ b sources documentation,
      f (b.withTexts sources documentation) =
        (f b).withTexts sources documentation) :
    InStep gl gl' files texts [] (Binding.share f : Work σ Unit)
      (Binding.share f : Work τ Unit) :=
  .silent (fun _ _ => rfl) (fun _ _ => rfl) fun _ _ _ _ hk =>
    ⟨rfl, hk.share hf⟩

theorem keep (self : String) (i : Instance) :
    InStep gl gl' files texts [] (Binding.keep self i : Work σ Unit)
      (Binding.keep self i : Work τ Unit) :=
  .silent (fun _ _ => rfl) (fun _ _ => rfl) fun _ _ _ _ hk =>
    ⟨rfl, hk.keep self i⟩

theorem instanceOf (self : String) :
    InStep gl gl' files texts []
      (Binding.instanceOf plan self : Work σ Instance)
      (Binding.instanceOf plan self : Work τ Instance) := by
  refine .silent (fun _ _ => rfl) (fun _ _ => rfl) fun s k s' k' hk => ⟨?_, hk⟩
  have hinstances := hk.instances_eq
  show Except.ok ((k.instances.lookup self).getD _) =
    Except.ok ((k'.instances.lookup self).getD _)
  rw [hinstances]

end InStep

/-- Passes a text to a shader, and goes on. -/
def passing (gl : GL.Device σ) (shader : Int) (text : String)
    (x : Work σ α) : Work σ α :=
  Act.onFirst (gl.perform (.shaderSource shader text)) >>= fun _ => x

/-- Makes a shader for a stage, passes it the text of the stage, and goes on. -/
def feeding (gl : GL.Device σ) (s : PlannedStage) (f : Int → Work σ α) :
    Work σ α :=
  Act.onFirst (gl.perform (.createShader s.stage.kind)) >>= fun shader =>
    shared >>= fun b =>
      passing gl shader ((b.sources.lookup s.id).getD "") (f shader)

theorem records_passing {x : Work σ α} (h : x.Records gl) (shader : Int)
    (text : String) : (passing gl shader text x).Records gl :=
  .bind (.perform _) fun _ => h

theorem records_sharedPassing {x : Work σ α} (h : x.Records gl) (shader : Int)
    (id : String) : (shared >>= fun b : Shared =>
      passing gl shader ((b.sources.lookup id).getD "") x).Records gl :=
  .bind (.silent (fun _ => rfl) fun _ => rfl) fun _ => records_passing h _ _

namespace InStep

/-- A shader is passed a text, each its own. -/
theorem passing {x : Work σ α} {y : Work τ α}
    (h : InStep gl gl' files texts stages x y) (shader : Int)
    {t t' text text' : String} (ht : t = text) (ht' : t' = text')
    (p : Session σ × State) (p' : Session τ × State)
    (hlog : p.1.log = p'.1.log) (hk : Paired files texts p.2 p'.2) :
    ∃ r r' es es', (Binding.passing gl shader t x).said p =
        .gl ⟨.shaderSource shader text, r⟩ :: es ∧
      (Binding.passing gl' shader t' y).said p' =
        .gl ⟨.shaderSource shader text', r'⟩ :: es' ∧
      (r = r' → Alongside files
        (Alike files texts (Binding.passing gl shader t x p)
          (Binding.passing gl' shader t' y p')) stages es es') := by
  subst ht ht'
  refine ⟨_, _, _, _, Act.Records.said_perform_bind (fun _ => h.records) p,
    Act.Records.said_perform_bind (fun _ => h.records') p', fun hr => ?_⟩
  have hresult : (Act.onFirst (gl.perform (.shaderSource shader t)) p).1 =
      (Act.onFirst (gl'.perform (.shaderSource shader t')) p').1 :=
    congrArg (Except.mapError Error.external) hr
  unfold Binding.passing
  rw [Act.bind_eq, Act.bind_eq, ← hresult]
  exact (next (fun _ => h) _).along _ _ hlog hk

/-- A shader is made for a stage, and is passed the text of the stage. -/
theorem feeding {s : PlannedStage} {f : Int → Work σ α} {g : Int → Work τ α}
    (htext : ∀ sources sources', texts sources sources' →
      sources.lookup s.id = some s.stage.text ∧ ∃ text,
        files.readText (.ofText s.stage.path) = .ok text ∧
        sources'.lookup s.id = some text)
    (h : ∀ shader, InStep gl gl' files texts stages (f shader) (g shader)) :
    InStep gl gl' files texts (s.stage :: stages) (Binding.feeding gl s f)
      (Binding.feeding gl' s g) := by
  have hrecords (shader : Int) :=
    records_sharedPassing (h shader).records shader s.id
  have hrecords' (shader : Int) :=
    records_sharedPassing (h shader).records' shader s.id
  refine ⟨.bind (.perform _) hrecords, .bind (.perform _) hrecords', ?_⟩
  intro p p' hlog hk
  obtain ⟨hembedded, text, hread, hloaded⟩ := htext _ _ hk.texts
  unfold Binding.feeding
  rw [Act.Records.said_perform_bind hrecords,
    Act.Records.said_perform_bind hrecords', Act.bind_eq, Act.bind_eq]
  -- The text is looked up after the shader is made, and before anything else.
  refine .made hread (fun shader hok hok' => ?_) fun fault hfault hfault' => ?_
  · rw [Act.perform_of_ok hok, Act.perform_of_ok hok']
    exact (h shader).passing shader (congrArg (Option.getD · "") hembedded)
      (congrArg (Option.getD · "") hloaded)
      (Act.onFirst (gl.perform (.createShader s.stage.kind)) p).2
      (Act.onFirst (gl'.perform (.createShader s.stage.kind)) p').2 hlog hk
  · rw [Act.perform_of_error hfault, Act.perform_of_error hfault']
    have hfail (e : Error) : InStep gl gl' files texts []
        (Act.fail e : Work σ α) (Act.fail e : Work τ α) := fail e
    exact (hfail _).along _ _ hlog hk

end InStep

end Binding

end ShaderBindings
