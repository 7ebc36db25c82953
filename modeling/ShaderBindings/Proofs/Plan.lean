import ShaderBindings.Plan

/-!
# Plans — Resolution

Which specifications have a plan: those of whose uniforms every one has a type.
-/

namespace ShaderBindings.Plan

/-- The variable has no uniform type. -/
def isUntyped (v : Variable) : Bool :=
  (UniformType.ofCode? v.tag).isNone

theorem resolve_eq_error_iff (vs : List Variable) (fault : UnsupportedType) :
    resolve vs = .error fault ↔
      ∃ v, vs.find? isUntyped = some v ∧ fault = ⟨v.tag, some v.name⟩ := by
  induction vs with
  | nil => simp [resolve]
  | cons v rest ih =>
    cases h : UniformType.ofCode? v.tag with
    | none => simp [resolve, isUntyped, h, eq_comm]
    | some t =>
      have hmap : (resolve rest).map (t :: ·) = .error fault ↔
          resolve rest = .error fault := by
        cases resolve rest <;> simp [Except.map]
      simp [resolve, isUntyped, h, hmap, ih]

/-- The first uniform without a type is the one that is complained about. -/
theorem ofSpec_eq_error_iff (spec : Spec) (fault : UnsupportedType) :
    ofSpec spec = .error fault ↔
      ∃ v, spec.uniforms.find? isUntyped = some v ∧
        fault = ⟨v.tag, some v.name⟩ := by
  rw [← resolve_eq_error_iff]
  simp only [ofSpec, Bind.bind, Except.bind]
  cases resolve spec.uniforms <;> simp [Pure.pure, Except.pure]

end ShaderBindings.Plan
