import ShaderBindings.Proofs.Calls

/-!
# Interrupted calls

An act that gives up at the first call that fails has by then made the first of
the calls that it was to make. `CutShort` relates the calls that were made to
those that were to be made, so that what an interrupted act leaves behind is
read off the act that is not interrupted.
-/

/-! ## Calls cut short -/

namespace ShaderBindings.GL

variable {fault : ExternalFault} {planned made : List Event}

theorem Event.eq_of_fault? {e : Event} (h : e.fault? = some fault) :
    e = ⟨e.call, .error fault⟩ := by
  obtain ⟨call, result⟩ := e
  cases result with
  | ok _ => cases h
  | error _ => cases h; rfl

/-- Of the calls that were to be made, the first were made, up to one that
failed. -/
inductive CutShort (fault : ExternalFault) : List Event → List Event → Prop
  | here {e : Event} {planned : List Event} :
    CutShort fault (e :: planned) [⟨e.call, .error fault⟩]
  | later {e : Event} {planned made : List Event}
      (h : CutShort fault planned made) :
    CutShort fault (e :: planned) (e :: made)

namespace CutShort

theorem append_left (h : CutShort fault planned made) (before : List Event) :
    CutShort fault (before ++ planned) (before ++ made) := by
  induction before with
  | nil => exact h
  | cons e rest ih => exact ih.later

theorem append_right (h : CutShort fault planned made) (after : List Event) :
    CutShort fault (planned ++ after) made := by
  induction h with
  | here => exact .here
  | later _ ih => exact ih.later

theorem of_append {first rest : List Event}
    (h : CutShort fault (first ++ rest) made) :
    CutShort fault first made ∨
      ∃ last, made = first ++ last ∧ CutShort fault rest last := by
  induction first generalizing made with
  | nil => exact .inr ⟨made, rfl, h⟩
  | cons e first ih =>
    cases h with
    | here => exact .inl .here
    | later h =>
      rcases ih h with hfirst | ⟨last, rfl, hrest⟩
      · exact .inl hfirst.later
      · exact .inr ⟨last, rfl, hrest⟩

/-- The calls for items in order are cut short at one of the items. -/
theorem of_flatMap {β : Type} {calls : β → List Event} {items : List β}
    (h : CutShort fault (items.flatMap calls) made) :
    ∃ before item after last, items = before ++ item :: after ∧
      made = before.flatMap calls ++ last ∧
      CutShort fault (calls item) last := by
  induction items generalizing made with
  | nil => cases h
  | cons item rest ih =>
    rw [List.flatMap_cons] at h
    rcases h.of_append with hitem | ⟨made, rfl, hrest⟩
    · exact ⟨[], item, rest, _, rfl, rfl, hitem⟩
    · obtain ⟨before, item', after, last, rfl, rfl, hlast⟩ := ih hrest
      exact ⟨item :: before, item', after, last, rfl, by simp, hlast⟩

theorem ne_nil (h : CutShort fault planned made) : made ≠ [] := by
  cases h <;> exact List.cons_ne_nil _ _

/-- The call that failed is the last that was made. -/
theorem exists_getLast? (h : CutShort fault planned made) :
    ∃ e ∈ planned, made.getLast? = some ⟨e.call, .error fault⟩ := by
  induction h with
  | @here e planned => exact ⟨e, List.mem_cons_self, rfl⟩
  | later _ ih =>
    obtain ⟨e, he, hlast⟩ := ih
    exact ⟨e, List.mem_cons_of_mem _ he, by rw [List.getLast?_cons, hlast]; rfl⟩

/-- If nothing was to fail, that is the only call that failed. -/
theorem faults_eq (h : CutShort fault planned made)
    (hp : faults planned = []) : faults made = [fault] := by
  induction h with
  | here => rfl
  | @later e planned made _ ih =>
    rw [← List.singleton_append, faults_append] at hp ⊢
    obtain ⟨hfirst, hrest⟩ := List.append_eq_nil_iff.mp hp
    rw [hfirst, ih hrest, List.nil_append]

/-- No call was made that was not to be made. -/
theorem forall_call {p : Call → Prop} (h : CutShort fault planned made)
    (hp : ∀ e ∈ planned, p e.call) : ∀ e ∈ made, p e.call := by
  induction h with
  | here => simpa using hp _ List.mem_cons_self
  | later _ ih =>
    obtain ⟨hfirst, hrest⟩ := List.forall_mem_cons.mp hp
    exact List.forall_mem_cons.mpr ⟨hfirst, ih hrest⟩

end CutShort

end ShaderBindings.GL

/-! ## Acts that may be interrupted -/

namespace ShaderBindings.Act

variable {σ K α β : Type} {gl : GL.Device σ} {k : K}

/-- The calls are made as planned, and have a value; or they are cut short. -/
def Carried (planned : List GL.Event) (value : α) (made : List GL.Event)
    (r : Except Error α) : Prop :=
  (made = planned ∧ r = .ok value) ∨
    ∃ fault, GL.CutShort fault planned made ∧ r = .error (.external fault)

/-- An act for each item, any of which may be interrupted. -/
theorem Makes.each_carried {f : β → Act (Session σ) Unit}
    {calls : β → List GL.Event}
    (hf : ∀ b, (Act.onFirst (f b)).Makes gl k fun es r k' =>
      k' = k ∧ Carried (calls b) () es r) (bs : List β) :
    (Act.onFirst (Act.each f bs)).Makes gl k fun es r k' =>
      k' = k ∧ Carried (bs.flatMap calls) () es r := by
  induction bs with
  | nil => exact .pure ⟨rfl, .inl ⟨rfl, rfl⟩⟩
  | cons b rest ih =>
    simp only [Act.each, onFirst_bind, List.flatMap_cons]
    refine .bind (hf b) ?_ ?_
    · rintro es _ k' ⟨rfl, ⟨rfl, -⟩ | ⟨_, -, ⟨⟩⟩⟩
      refine ih.mono ?_
      rintro es r k' ⟨rfl, ⟨rfl, rfl⟩ | ⟨fault, hcut, rfl⟩⟩
      · exact ⟨rfl, .inl ⟨rfl, rfl⟩⟩
      · exact ⟨rfl, .inr ⟨fault, hcut.append_left _, rfl⟩⟩
    · rintro es e k' ⟨rfl, ⟨-, ⟨⟩⟩ | ⟨fault, hcut, hr⟩⟩
      exact ⟨rfl, .inr ⟨fault, hcut.append_right _, by cases hr; rfl⟩⟩

end ShaderBindings.Act
