import ShaderBindings.Proofs.Binding.Direct
import ShaderBindings.Proofs.Binding.Memory

/-!
# Binding — Dispatch

Locations are asked for by the names of variables, and kept under identifiers.
Whatever is asked of a class, the location that is read under a name is what the
device answered for that name in the program that was linked last. The invariant
is that of every single identifier: after the last link there is one answer for
its variable, and it is the one that is kept.
-/

/-! ## The program that was linked last -/

namespace ShaderBindings.GL

/-- The program that was linked. -/
def Event.linked? (e : Event) : Option Int :=
  match e.call, e.result with
  | .linkProgram p, .ok _ => some p
  | _, _ => none

/-- The device tells the location of a variable in a program. -/
def Target.answer (program : Int) : Target → Int → Event
  | .uniform name, location => ⟨.uniformLocation program name, .ok location⟩
  | .attribute name, location => ⟨.attributeLocation program name, .ok location⟩

/-- The location that the device has told of a variable in a program. -/
def Event.answerFor? (program : Int) (target : Target) (e : Event) :
    Option Int :=
  match e.call, e.result with
  | .uniformLocation p name, .ok location =>
    if p = program ∧ target = .uniform name then some location else none
  | .attributeLocation p name, .ok location =>
    if p = program ∧ target = .attribute name then some location else none
  | _, _ => none

/-- The location of a variable in the program that was linked last; -1 if none
was ever linked. -/
inductive Latest (es : List Event) (target : Target) : Int → Prop
  | never (h : es.filterMap Event.linked? = []) : Latest es target (-1)
  | answered {before after : List Event} {program location : Int}
      (hes : es = before ++ ⟨.linkProgram program, .ok ()⟩ :: after)
      (hlast : after.filterMap Event.linked? = [])
      (honce : after.filterMap (Event.answerFor? program target) =
        [location]) :
    Latest es target location

theorem answerFor?_answer (program : Int) (target : Target) (location : Int) :
    (target.answer program location).answerFor? program target =
      some location := by
  cases target <;> simp [Target.answer, Event.answerFor?]

theorem answerFor?_answer_of_ne {target other : Target} (h : target ≠ other)
    (program location : Int) :
    (other.answer program location).answerFor? program target = none := by
  cases other <;> simpa [Target.answer, Event.answerFor?] using h

/-- The last link and its answers stay what they are while neither is added
to. -/
theorem Latest.append {es es' : List Event} {target : Target} {location : Int}
    (h : Latest es target location)
    (hlinked : es'.filterMap Event.linked? = [])
    (hanswered : ∀ program,
      es'.filterMap (Event.answerFor? program target) = []) :
    Latest (es ++ es') target location := by
  cases h with
  | never h => exact .never (by rw [List.filterMap_append, h, hlinked]; rfl)
  | @answered before after program _ hes hlast honce =>
    have hcons : es ++ es' =
        before ++ ⟨.linkProgram program, .ok ()⟩ :: (after ++ es') := by
      rw [hes, List.append_assoc, List.cons_append]
    refine .answered hcons ?_ ?_
    · rw [List.filterMap_append, hlast, hlinked]
      rfl
    · rw [List.filterMap_append, honce, hanswered program]
      rfl

end ShaderBindings.GL

namespace ShaderBindings.Binding

variable {σ : Type} {spec : Spec} {plan : Plan} {k k' : State}
variable {es es' : List GL.Event} {r : Except Error Unit}

/-! ## Answers and what is kept of them -/

section Answering

variable {names : List (String × String)} {answers : List Int}
variable {name id : String} {target : String → GL.Target} {program : Int}

theorem located_lookup_of_notMem (h : id ∉ names.map Prod.snd)
    (answers : List Int) (locations : List (String × Int)) :
    (located names answers locations).lookup id = locations.lookup id := by
  induction names generalizing answers locations with
  | nil => rfl
  | cons q rest ih =>
    cases answers with
    | nil => rfl
    | cons location answers =>
      rw [List.map_cons, List.mem_cons, not_or] at h
      obtain ⟨hne, hrest⟩ := h
      have hcons : located (q :: rest) (location :: answers) locations =
          located rest answers (Table.insert q.2 location locations) := rfl
      rw [hcons, ih hrest, Table.lookup_insert_of_ne hne]

/-- The answers for names, when these stand for variables. -/
def answersFor (program : Int) (target : String → GL.Target)
    (names : List (String × String)) (answers : List Int) : List GL.Event :=
  List.zipWith (fun q => (target q.1).answer program) names answers

theorem mem_answersFor {e : GL.Event}
    (h : e ∈ answersFor program target names answers) :
    ∃ q ∈ names, ∃ location, e = (target q.1).answer program location := by
  obtain ⟨i, hi, rfl⟩ := List.mem_iff_getElem.mp h
  simp only [answersFor, List.getElem_zipWith]
  exact ⟨_, List.getElem_mem _, _, rfl⟩

theorem answersFor_filterMap_of_ne {other : GL.Target}
    (h : ∀ q ∈ names, other ≠ target q.1) :
    (answersFor program target names answers).filterMap
      (GL.Event.answerFor? program other) = [] := by
  apply List.filterMap_eq_nil_iff.mpr
  intro e he
  obtain ⟨q, hq, location, rfl⟩ := mem_answersFor he
  exact GL.answerFor?_answer_of_ne (h q hq) program location

/-- Of distinct names with distinct identifiers, each has one answer, which is
kept under its identifier. -/
theorem answersFor_located (program : Int)
    (htarget : ∀ n n', target n = target n' → n = n')
    (hlength : answers.length = names.length)
    (hnames : (names.map Prod.fst).Nodup) (hids : (names.map Prod.snd).Nodup)
    (h : (name, id) ∈ names) (locations : List (String × Int)) :
    ∃ location,
      (answersFor program target names answers).filterMap
        (GL.Event.answerFor? program (target name)) = [location] ∧
      (located names answers locations).lookup id = some location := by
  induction names generalizing answers locations with
  | nil => cases h
  | cons q rest ih =>
    cases answers with
    | nil => cases hlength
    | cons location answers =>
      have hcons : answersFor program target (q :: rest) (location :: answers) =
          (target q.1).answer program location ::
            answersFor program target rest answers := rfl
      have hinsert : located (q :: rest) (location :: answers) locations =
          located rest answers (Table.insert q.2 location locations) := rfl
      obtain ⟨hname, hnames⟩ := List.nodup_cons.mp hnames
      obtain ⟨hid, hids⟩ := List.nodup_cons.mp hids
      rw [hcons, hinsert]
      obtain rfl | h := List.mem_cons.mp h
      · refine ⟨location, ?_, ?_⟩
        · have hothers : ∀ q ∈ rest, target name ≠ target q.1 := by
            intro q hq heq
            apply hname
            rw [htarget _ _ heq]
            exact List.mem_map.mpr ⟨q, hq, rfl⟩
          rw [List.filterMap_cons_some (GL.answerFor?_answer _ _ _),
            answersFor_filterMap_of_ne hothers]
        · rw [located_lookup_of_notMem hid, Table.lookup_insert_self]
      · have hne : target name ≠ target q.1 := by
          intro heq
          apply hname
          rw [← htarget _ _ heq]
          exact List.mem_map.mpr ⟨_, h, rfl⟩
        rw [List.filterMap_cons_none (GL.answerFor?_answer_of_ne hne _ _)]
        exact ih (Nat.succ.inj hlength) hnames hids h _

end Answering

/-! ## The invariant -/

/-- Every location that is kept is that of its variable in the program that was
linked last. -/
def Tracks (plan : Plan) (es : List GL.Event) (b : Shared) : Prop :=
  ∀ target id, (target, id) ∈ targets plan →
    GL.Latest es target (locationOf b id)

theorem Tracks.of_locations {b b' : Shared} (h : Tracks plan es b)
    (hb : b'.locations = b.locations) : Tracks plan es b' := by
  intro target id hid
  unfold locationOf
  rw [hb]
  exact h target id hid

theorem Tracks.deletion (h : Tracks plan es k.shared) :
    Tracks plan (es ++ [deletion k]) k.withoutProgram.shared := by
  intro target id hid
  exact (h target id hid).append rfl fun _ => rfl

theorem ready_locations (plan : Plan) (k : State) :
    (ready plan k).2.shared.locations = k.shared.locations := by
  unfold ready
  split <;> rfl

section Tracking

variable (hplaces : plan.Places spec)
  (hdistinct : ((spec.uniforms ++ spec.attributes).map (·.name)).Nodup)

include hplaces

omit hplaces in
theorem located_eq : plan.located = uniformIds plan ++ attributeIds plan :=
  rfl

theorem located_names : plan.located.map Prod.fst =
    (spec.uniforms ++ spec.attributes).map (·.name) := by
  rw [List.map_append, ← hplaces.names, ← hplaces.attributes]
  simp [Plan.located, Function.comp_def]

include hdistinct

/-- An answered compilation asks for every location once, after its link, and
keeps the answer. -/
theorem Answers.tracks (a : Answers) (hfit : a.Fit plan) (es : List GL.Event)
    (b : Shared) (k : State) :
    Tracks plan (es ++ a.events plan b) (a.result plan k).shared := by
  have hnames := (located_names hplaces).symm ▸ hdistinct
  have hids := hplaces.ids
  rw [located_eq, List.map_append] at hnames hids
  obtain ⟨huniforms, hattributes, -⟩ := List.nodup_append.mp hnames
  obtain ⟨huniformIds, hattributeIds, hdisjoint⟩ := List.nodup_append.mp hids
  have hlookups : a.lookups plan =
      answersFor a.program .uniform (uniformIds plan) a.uniforms ++
        answersFor a.program .attribute (attributeIds plan) a.attributes := rfl
  have honce (target : GL.Target) (id : String)
      (hid : (target, id) ∈ targets plan) :
      (a.lookups plan).filterMap (GL.Event.answerFor? a.program target) =
        [locationOf (a.result plan k).shared id] := by
    rw [hlookups, List.filterMap_append]
    unfold locationOf
    obtain hid | hid := List.mem_append.mp hid
    · obtain ⟨⟨name, _⟩, hmem, ⟨⟩⟩ := List.mem_map.mp hid
      have hlength : a.uniforms.length = (uniformIds plan).length := by
        simpa [uniformIds] using hfit.uniforms
      have hinj (n n' : String) : GL.Target.uniform n = .uniform n' → n = n' :=
        GL.Target.uniform.inj
      obtain ⟨location, honly, hkept⟩ := answersFor_located a.program hinj
        hlength huniforms huniformIds hmem k.shared.locations
      -- the attributes have other identifiers
      have hother : id ∉ (attributeIds plan).map Prod.snd := by
        intro hattribute
        exact hdisjoint id (List.mem_map_of_mem (f := Prod.snd) hmem) id
          hattribute rfl
      simp only [Answers.result, located_lookup_of_notMem hother, hkept, honly]
      rw [answersFor_filterMap_of_ne (by intro q _; simp)]
      rfl
    · obtain ⟨⟨name, _⟩, hmem, ⟨⟩⟩ := List.mem_map.mp hid
      have hlength : a.attributes.length = (attributeIds plan).length := by
        simpa [attributeIds] using hfit.attributes
      have hinj (n n' : String) :
          GL.Target.attribute n = .attribute n' → n = n' :=
        GL.Target.attribute.inj
      obtain ⟨location, honly, hkept⟩ := answersFor_located a.program hinj
        hlength hattributes hattributeIds hmem
        (located (uniformIds plan) a.uniforms k.shared.locations)
      simp only [Answers.result, hkept, honly]
      rw [answersFor_filterMap_of_ne (by intro q _; simp)]
      rfl
  intro target id hid
  have hes : es ++ a.events plan b =
      (es ++ ⟨.createProgram, .ok a.program⟩ ::
        attachEvents b a.program plan.stages a.shaders) ++
      ⟨.linkProgram a.program, .ok ()⟩ ::
        ⟨.programInfoLog a.program, .ok a.log⟩ ::
        (a.shaders.flatMap (releaseStage a.program) ++ a.lookups plan) := by
    simp [Answers.events]
  refine .answered hes ?_ ?_
  · rw [List.filterMap_cons_none rfl, List.filterMap_append,
      filterMap_releaseStage (fun _ => rfl) fun _ => rfl,
      filterMap_lookups (fun _ _ => rfl) fun _ _ => rfl]
    rfl
  · rw [List.filterMap_cons_none rfl, List.filterMap_append,
      filterMap_releaseStage (fun _ => rfl) fun _ => rfl, List.nil_append]
    exact honce target id hid

theorem ShaderCompiled.tracks (hs : ShaderCompiled plan k es' r k')
    (h : Tracks plan es k.shared) : Tracks plan (es ++ es') k'.shared := by
  cases hs with
  | notReady _ =>
    rw [List.append_nil]
    exact h.of_locations (ready_locations plan k)
  | answered a _ hfit => exact a.tracks hplaces hdistinct hfit es _ _

theorem Compiled.tracks (hc : Compiled plan k es' r k')
    (h : Tracks plan es k.shared) : Tracks plan (es ++ es') k'.shared := by
  cases hc with
  | kept _ =>
    rw [List.append_nil]
    exact h
  | made _ hs => exact (hs.tracks hplaces hdistinct h).of_locations rfl
  | notMade _ hs => exact hs.tracks hplaces hdistinct h

omit hplaces hdistinct in
theorem Disposed.tracks (hd : Disposed k es' k')
    (h : Tracks plan es k.shared) : Tracks plan (es ++ es') k'.shared := by
  cases hd with
  | notHeld _ | shared _ =>
    rw [List.append_nil]
    exact h
  | last _ => exact h.deletion

theorem Done.tracks {u : Use} (hd : Done plan k u es' r k')
    (h : Tracks plan es k.shared) : Tracks plan (es ++ es') k'.shared := by
  cases hd with
  | aside _ hk =>
    rw [List.append_nil, hk]
    exact h
  | compiled _ _ hc => exact hc.tracks hplaces hdistinct h
  | recompiled _ hc =>
    rw [List.append_cons]
    exact hc.tracks hplaces hdistinct h.deletion
  | disposed _ _ hd => exact hd.tracks h
  | notFound _ _ =>
    rw [List.append_nil]
    exact h

/-- One demand keeps the invariant. -/
theorem Met.tracks {d : Demand} (hname : Named plan)
    (hmet : Met plan k d es' r k') (h : Tracks plan es k.shared) :
    Tracks plan (es ++ es') k'.shared := by
  cases hmet with
  | used hd => exact hd.tracks hplaces hdistinct h
  | compiled _ hs => exact hs.tracks hplaces hdistinct h
  | abandoned hunnamed _ => exact (hname.not_unnamed hunnamed).elim

/-- Any number of demands do. -/
theorem meetAll_tracks {gl : GL.Device σ} (hgl : ∀ call, gl.Answers call)
    (hfree : NameFree plan) (demands : List Demand) (k : State) :
    (meetAll gl plan demands).Makes gl k fun es' r k' => ∃ results,
      r = .ok results ∧ (Named plan → ∀ es, Tracks plan es k.shared →
        Tracks plan (es ++ es') k'.shared) := by
  induction demands generalizing k with
  | nil =>
    refine .pure ⟨[], rfl, fun _ es h => ?_⟩
    rwa [List.append_nil]
  | cons d rest ih =>
    refine .attempt_bind (d.act_makes hgl hfree k) ?_
    intro es₁ r k₁ hmet
    refine .bind (ih k₁) ?_ ?_
    · rintro es₂ results k₂ ⟨_, ⟨⟩, hrest⟩
      refine .pure ⟨r :: results, rfl, fun hname es h => ?_⟩
      rw [List.append_nil, ← List.append_assoc]
      exact hrest hname _ (hmet.tracks hplaces hdistinct hname h)
    · rintro es₂ e k₂ ⟨results, ⟨⟩, -⟩

end Tracking

/-! ## Reading locations -/

/-- In a state, the locations of variables are read by their names. -/
structure Dispatches (spec : Spec) (plan : Plan) (es : List GL.Event)
    (s : Session σ) (k : State) : Prop where
  /-- The location of a uniform is that in the program linked last. -/
  uniforms : ∀ v ∈ spec.uniforms, ∃ location,
    GL.Latest es (.uniform v.name) location ∧
    getLocation plan v.name (s, k) = (.ok location, s, k)
  /-- And so is that of an attribute. -/
  attributes : ∀ v ∈ spec.attributes, ∃ location,
    GL.Latest es (.attribute v.name) location ∧
    getLocation plan v.name (s, k) = (.ok location, s, k)
  /-- Different names are those of different identifiers. -/
  apart : ∀ name name' id, identifierNamed? plan name = some id →
    identifierNamed? plan name' = some id → name = name'
  /-- There is no location under other names. -/
  unknown : ∀ name ∉ (spec.uniforms ++ spec.attributes).map (·.name),
    getLocation plan name (s, k) = (.error (.unknownParameter name), s, k)
  /-- Without errors, -1 stands for an unknown name, and for itself. -/
  found : ∀ name, ∃ location, findLocation plan name (s, k) =
      (.ok location, s, k) ∧
    (location = -1 ↔
      name ∉ (spec.uniforms ++ spec.attributes).map (·.name) ∨
      ∃ id, identifierNamed? plan name = some id ∧
        locationOf k.shared id = -1)

theorem getLocation_of_named (hclash : Unclashing plan) (hname : Named plan)
    (name : String) (s : Session σ) (k : State) :
    getLocation plan name (s, k) =
      (match identifierNamed? plan name with
        | some id => .ok (locationOf k.shared id)
        | none => .error (.unknownParameter name), s, k) := by
  unfold getLocation
  rw [reach_of_named hname, pure_bind]
  cases identifierNamed? plan name with
  | none =>
    rw [hclash.lookupError_eq]
    rfl
  | some id =>
    have hread : hides plan "getattr" = false :=
      hclash.hides_eq_false (by simp [builtinNames])
    simp only [hread]
    rfl

theorem getLocation_of_unnamed {other : String} (h : Unnamed plan other)
    (name : String) (s : Session σ) (k : State) :
    getLocation plan name (s, k) = (.error (.undefinedName other), s, k) := by
  unfold getLocation
  rw [reach_of_unnamed h]
  rfl

/-- Without errors, an unknown name has the location -1. -/
theorem findLocation_of_named (hclash : Unclashing plan) (hname : Named plan)
    (name : String) (s : Session σ) (k : State) :
    findLocation plan name (s, k) =
      (.ok (match identifierNamed? plan name with
        | some id => locationOf k.shared id
        | none => -1), s, k) := by
  unfold findLocation
  simp only [Bind.bind, Act.bind, Act.attempt,
    getLocation_of_named hclash hname]
  cases identifierNamed? plan name <;> rfl

theorem mem_of_identifierNamed? {name id : String}
    (h : identifierNamed? plan name = some id) : (name, id) ∈ plan.located :=
  List.mem_reverse.mp (Table.mem_of_lookup h)

section Reading

variable (hplaces : plan.Places spec)
  (hdistinct : ((spec.uniforms ++ spec.attributes).map (·.name)).Nodup)

include hplaces

theorem identifierNamed?_eq_none_iff {name : String} :
    identifierNamed? plan name = none ↔
      name ∉ (spec.uniforms ++ spec.attributes).map (·.name) := by
  rw [← located_names hplaces]
  constructor
  · intro hnone hmem
    obtain ⟨q, hq, rfl⟩ := List.mem_map.mp hmem
    have hne := List.lookup_eq_none_iff.mp hnone q (List.mem_reverse.mpr hq)
    simp at hne
  · intro hunknown
    cases h : identifierNamed? plan name with
    | none => rfl
    | some id =>
      have hmem :=
        List.mem_map_of_mem (f := Prod.fst) (mem_of_identifierNamed? h)
      exact (hunknown hmem).elim

include hdistinct

theorem identifierNamed?_of_mem {name id : String}
    (h : (name, id) ∈ plan.located) :
    identifierNamed? plan name = some id := by
  apply Table.lookup_eq_some_of_mem
  · rw [List.map_reverse, List.nodup_reverse, located_names hplaces]
    exact hdistinct
  · exact List.mem_reverse.mpr h

theorem dispatches_of_named (hclash : Unclashing plan) (hname : Named plan)
    (h : Tracks plan es k.shared) (s : Session σ) :
    Dispatches spec plan es s k where
  uniforms := by
    intro v hv
    obtain ⟨u, hu, hstands⟩ := hplaces.exists_uniform hv
    have hid : (u.name, u.id) ∈ uniformIds plan := List.mem_map_of_mem hu
    refine ⟨locationOf k.shared u.id, ?_, ?_⟩
    · rw [← hstands.name]
      exact h _ _ (List.mem_append_left _ (List.mem_map_of_mem hid))
    · rw [getLocation_of_named hclash hname, ← hstands.name,
        identifierNamed?_of_mem hplaces hdistinct
          (List.mem_append_left _ hid)]
  attributes := by
    intro v hv
    have hmem : v.name ∈ plan.attributes.map (·.name) := by
      rw [hplaces.attributes]
      exact List.mem_map_of_mem hv
    obtain ⟨a, ha, hname'⟩ := List.mem_map.mp hmem
    have hid : (a.name, a.id) ∈ attributeIds plan := List.mem_map_of_mem ha
    refine ⟨locationOf k.shared a.id, ?_, ?_⟩
    · rw [← hname']
      exact h _ _ (List.mem_append_right _ (List.mem_map_of_mem hid))
    · rw [getLocation_of_named hclash hname, ← hname',
        identifierNamed?_of_mem hplaces hdistinct
          (List.mem_append_right _ hid)]
  apart := by
    intro name name' id hid hid'
    have heq : (name, id) = (name', id) := List.inj_on_of_nodup_map hplaces.ids
      (mem_of_identifierNamed? hid) (mem_of_identifierNamed? hid') rfl
    exact congrArg Prod.fst heq
  unknown := by
    intro name hunknown
    rw [getLocation_of_named hclash hname,
      (identifierNamed?_eq_none_iff hplaces).mpr hunknown]
  found := by
    intro name
    rw [findLocation_of_named hclash hname, ← identifierNamed?_eq_none_iff
      hplaces]
    cases identifierNamed? plan name with
    | none => exact ⟨-1, rfl, by simp⟩
    | some id => exact ⟨locationOf k.shared id, rfl, by simp⟩

end Reading

/-- A class that is not found by its name tells of no name that it is
unknown. -/
theorem not_dispatches_of_unnamed {other : String} (h : Unnamed plan other)
    (s : Session σ) : ¬ Dispatches spec plan es s k := by
  intro hd
  have hnew := uniqueName_not_mem
    ((spec.uniforms ++ spec.attributes).map (·.name)) "u"
  have hunknown := hd.unknown _ hnew
  rw [getLocation_of_unnamed h] at hunknown
  cases hunknown

/-- Whatever is asked of a class, in whatever order, locations are read by the
names of variables from the program that was linked last, exactly if the name of
the class is not private to it; provided that the device never fails. -/
theorem meetAll_dispatches_iff (hplan : Plan.ofSpec spec = .ok plan)
    (hdistinct : ((spec.uniforms ++ spec.attributes).map (·.name)).Nodup)
    (hclash : Unclashing plan) {gl : GL.Device σ}
    (hgl : ∀ call, gl.Answers call) (documentation : Option String)
    (files : File.System) (demands : List Demand) (s : Session σ) :
    ∃ es results s' k,
      meetAll gl plan demands
          (s, { shared := { Shared.initial plan with documentation }, files }) =
        (.ok results, s', k) ∧
      s'.trace = s.trace ++ es.map .gl ∧
      (Dispatches spec plan es s' k ↔
        privateName? plan.options.className = none) := by
  have hplaces := Plan.places_of_ofSpec hplan
  obtain ⟨es, _, s', k, hrun, htrace, -, results, rfl, htracks⟩ :=
    meetAll_tracks hplaces hdistinct hgl hclash.bound demands
      { shared := { Shared.initial plan with documentation }, files } s
  refine ⟨es, results, s', k, hrun, htrace, ?_⟩
  rw [← hclash.bound.named_iff]
  constructor
  · intro hd
    obtain hname | ⟨other, h⟩ := hclash.bound.named_or_unnamed
    · exact hname
    · exact (not_dispatches_of_unnamed h s' hd).elim
  · intro hname
    have hinitial : Tracks plan []
        { Shared.initial plan with documentation } := by
      intro target id _
      rw [locationOf_initial]
      exact .never rfl
    exact dispatches_of_named hplaces hdistinct hclash hname
      (htracks hname [] hinitial) s'

/-- A uniform and an attribute whose names differ in a character that no
identifier holds, in a program that is replaced. -/
theorem meetAll_dispatches_iff_renamed :
    let spec : Spec := ⟨{}, [], [⟨"a.b", 0x1406⟩], [⟨"a_b", 0x8B51⟩]⟩
    let plan : Plan :=
      ⟨{}, [⟨"a.b", "a_b", .scalar .float, none⟩], [⟨"a_b", "a_b_2"⟩], []⟩
    let gl := GL.Device.numbering (fun _ => false) []
    let demands : List Demand :=
      [.use (.compile "a"), .direct, .use (.recompile "b")]
    Plan.ofSpec spec = .ok plan ∧
      ((spec.uniforms ++ spec.attributes).map (·.name)).Nodup ∧
      Unclashing plan ∧ (∀ call, gl.Answers call) ∧
      ∃ es results s' k,
        meetAll gl plan demands
            (⟨0, [], []⟩, { shared := Shared.initial plan }) =
          (.ok results, s', k) ∧
        s'.calls = es ∧ Dispatches spec plan es s' k := by
  intro spec plan gl demands
  have hplan : Plan.ofSpec spec = .ok plan := by rfl
  have hdistinct :
      ((spec.uniforms ++ spec.attributes).map (·.name)).Nodup := by decide
  have hclash : Unclashing plan := unclashing_default _ _
  have hgl (call : GL.Call) : gl.Answers call :=
    GL.Device.numbering_answers rfl
  obtain ⟨es, results, s', k, hrun, htrace, h⟩ := meetAll_dispatches_iff hplan
    hdistinct hclash hgl none {} demands ⟨0, [], []⟩
  refine ⟨hplan, hdistinct, hclash, hgl, es, results, s', k, hrun,
    Session.calls_eq htrace, ?_⟩
  rw [h]
  exact privateName?_default

end ShaderBindings.Binding
