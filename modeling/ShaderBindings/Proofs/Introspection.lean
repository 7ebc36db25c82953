import ShaderBindings.Introspection
import ShaderBindings.Proofs.Calls
import ShaderBindings.Proofs.Handles

/-!
# Introspection — answers

What asking for the active variables of a program asks of a device. Either all
calls are answered, and the variables are those of the answers, index by index,
or the first call that fails is the end.
-/

namespace ShaderBindings.Introspection

variable {σ K : Type} {program : Int} {k : K}

/-! ## Calls -/

/-- An active attribute is asked for by its index. -/
def attributeEvent (program : Int) (index : Nat) (reply : RawText × Int) :
    GL.Event :=
  ⟨.activeAttribute program index nameSize, .ok reply⟩

/-- An active uniform is asked for by its index. -/
def uniformEvent (program : Int) (index : Nat) (reply : RawText × Int) :
    GL.Event :=
  ⟨.activeUniform program index nameSize, .ok reply⟩

/-- The calls that ask for the active attributes, with their answers. -/
def attributeEvents (program : Int) (replies : List (RawText × Int)) :
    List GL.Event :=
  ⟨.attributeCount program, .ok replies.length⟩ ::
    replies.mapIdx (attributeEvent program)

/-- The calls that ask for the active uniforms, with their answers. -/
def uniformEvents (program : Int) (replies : List (RawText × Int)) :
    List GL.Event :=
  ⟨.uniformCount program, .ok replies.length⟩ ::
    replies.mapIdx (uniformEvent program)

section Facts

variable {replies : List (RawText × Int)}

theorem forall_mem_mapIdx {event : Nat → RawText × Int → GL.Event}
    {p : GL.Event → Prop} (h : ∀ i reply, p (event i reply)) :
    ∀ e ∈ replies.mapIdx event, p e := by
  intro e he
  obtain ⟨i, hi, rfl⟩ := List.mem_mapIdx.mp he
  exact h i replies[i]

@[simp] theorem faults_attributeEvents :
    GL.faults (attributeEvents program replies) = [] :=
  List.filterMap_eq_nil_iff.mpr
    (List.forall_mem_cons.mpr ⟨rfl, forall_mem_mapIdx fun _ _ => rfl⟩)

theorem isInspection_of_mem_attributeEvents :
    ∀ e ∈ attributeEvents program replies, e.call.isInspection = true :=
  List.forall_mem_cons.mpr ⟨rfl, forall_mem_mapIdx fun _ _ => rfl⟩

theorem isInspection_of_mem_uniformEvents :
    ∀ e ∈ uniformEvents program replies, e.call.isInspection = true :=
  List.forall_mem_cons.mpr ⟨rfl, forall_mem_mapIdx fun _ _ => rfl⟩

end Facts

/-! ## Answers -/

/-- The event is an answer to a question about active variables. -/
def IsAnswer (e : GL.Event) : Prop :=
  e.fault? = none ∧ e.call.isInspection = true

/-- A count is asked for, and then a variable for each index below it. -/
theorem counted_makes {gl : GL.Device σ} {count : Act (Session σ) Nat}
    {f : Nat → Act (Session σ) Variable} (counted : Nat → GL.Event)
    (event : Nat → RawText × Int → GL.Event)
    (hcount : (Act.onFirst count).Makes gl k fun es r k' => k' = k ∧
      Act.Answered GL.Call.isInspection (fun n => [counted n]) id es r)
    (hf : ∀ i, (Act.onFirst (f i)).Makes gl k fun es r k' => k' = k ∧
      Act.Answered GL.Call.isInspection (fun reply => [event i reply])
        variableOf es r)
    (hcounted : ∀ n, IsAnswer (counted n))
    (hevent : ∀ i reply, IsAnswer (event i reply)) :
    (Act.onFirst (count >>= fun n => Act.collect f (List.range n))).Makes gl k
      fun es r k' => k' = k ∧
        Act.Answered GL.Call.isInspection
          (fun replies => counted replies.length :: replies.mapIdx event)
          (List.map variableOf) es r := by
  rw [Act.onFirst_bind]
  refine .bind hcount ?_ ?_
  · rintro es _ k' ⟨rfl, ⟨n, rfl, ⟨⟩⟩ | ⟨_, -, -, ⟨⟩⟩⟩
    refine (Act.Makes.collect hf (fun i reply => (hevent i reply).1)
      (fun i reply => (hevent i reply).2) (List.range n)).mono ?_
    rintro es r k' ⟨rfl, ⟨replies, hlength, rfl, rfl⟩ | hbroken⟩
    · have hn : replies.length = n := by simpa using hlength
      have hindices : List.zipWith event (List.range n) replies =
          replies.mapIdx event :=
        List.ext_getElem (by simp [hn]) (by simp)
      exact ⟨rfl, .inl ⟨replies, by simp [hn, hindices], rfl⟩⟩
    · exact ⟨rfl, .inr (hbroken.cons (hcounted n).1 (hcounted n).2)⟩
  · rintro es e k' ⟨rfl, ⟨_, -, ⟨⟩⟩ | hbroken⟩
    exact ⟨rfl, .inr hbroken.of_error⟩

theorem attributes_makes (gl : GL.Device σ) :
    (Act.onFirst (attributes gl nameSize program)).Makes gl k
      fun es r k' => k' = k ∧
        Act.Answered GL.Call.isInspection (attributeEvents program)
          (List.map variableOf) es r :=
  counted_makes (fun n => ⟨.attributeCount program, .ok n⟩)
    (attributeEvent program) (.call rfl) (fun _ => .call_bind rfl)
    (fun _ => ⟨rfl, rfl⟩) (fun _ _ => ⟨rfl, rfl⟩)

theorem uniforms_makes (gl : GL.Device σ) :
    (Act.onFirst (uniforms gl nameSize program)).Makes gl k
      fun es r k' => k' = k ∧
        Act.Answered GL.Call.isInspection (uniformEvents program)
          (List.map variableOf) es r :=
  counted_makes (fun n => ⟨.uniformCount program, .ok n⟩)
    (uniformEvent program) (.call rfl) (fun _ => .call_bind rfl)
    (fun _ => ⟨rfl, rfl⟩) (fun _ _ => ⟨rfl, rfl⟩)

/-- The attributes are asked for before the uniforms. -/
theorem run_makes (gl : GL.Device σ) :
    (Act.onFirst (run gl nameSize program)).Makes gl k fun es r k' => k' = k ∧
      ((∃ attributes uniforms,
          es = attributeEvents program attributes ++
            uniformEvents program uniforms ∧
          r = .ok (uniforms.map variableOf, attributes.map variableOf)) ∨
        Act.BrokenOff GL.Call.isInspection es r) := by
  simp only [run, Act.onFirst_bind]
  refine .bind (attributes_makes gl) ?_ ?_
  · rintro es _ k' ⟨rfl, ⟨attributes, rfl, ⟨⟩⟩ | ⟨_, -, -, ⟨⟩⟩⟩
    refine .bind (uniforms_makes gl) ?_ ?_
    · rintro es _ k' ⟨rfl, ⟨uniforms, rfl, ⟨⟩⟩ | ⟨_, -, -, ⟨⟩⟩⟩
      refine .write_bind (.pure ⟨rfl, .inl ⟨attributes, uniforms, ?_, rfl⟩⟩)
      rw [List.append_nil]
    · rintro es e k' ⟨rfl, ⟨_, -, ⟨⟩⟩ | hbroken⟩
      exact ⟨rfl, .inr (hbroken.of_error.append faults_attributeEvents
        isInspection_of_mem_attributeEvents)⟩
  · rintro es e k' ⟨rfl, ⟨_, -, ⟨⟩⟩ | hbroken⟩
    exact ⟨rfl, .inr hbroken.of_error⟩

end ShaderBindings.Introspection
