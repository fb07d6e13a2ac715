/-
# The rules of inference as equations

What inference makes of a schema follows from the kind of the schema, and where it has
none the error follows from its type. Each kind has its equation, so that statements
about results, errors included, need not unfold inference.

Key theorems: `inferType_primitive`, `inferType_openMap`, `inferType_object`,
`inferType_array`, `inferType_relationship`, `inferType_noType`, `inferType_noKind`.
-/
import IdentityTypes.Proofs.Inference.Invariant

namespace IdentityTypes

variable {family : Family} {kind : ValueKind} {property owner tag : String} {s : Schema}
  {k : SchemaKind} {nullable : Bool}

theorem effectiveType_of_hasKind (property : String) (h : s.HasKind k nullable) : ∃ tag,
    SchemaKind.ofTag? tag = some k ∧ effectiveType s.type property = .ok (tag, nullable) := by
  obtain ⟨tag, hk, htype⟩ := h
  exact ⟨tag, hk, effectiveType_eq_ok.mpr htype⟩

theorem hasKind_of_effectiveType (h : effectiveType s.type property = .ok (tag, nullable))
    (hk : SchemaKind.ofTag? tag = some k) : s.HasKind k nullable :=
  ⟨tag, hk, effectiveType_eq_ok.mp h⟩

theorem inferType_primitive {p : Primitive} (h : s.HasKind k nullable)
    (hp : k.primitive? = some p) : inferType family kind property owner s =
      .ok (.plain ⟨.primitive p, [], nullable⟩) := by
  obtain ⟨tag, hk, htype⟩ := effectiveType_of_hasKind property h
  cases s
  rw [inferType, htype]
  cases k <;> cases hp <;> simp only [hk, bind, Except.bind] <;> rfl

theorem inferType_openMap (h : s.HasKind .object nullable) (hp : s.properties = []) :
    inferType family kind property owner s = .ok (.plain ⟨.openMap kind, [], nullable⟩) := by
  obtain ⟨tag, hk, htype⟩ := effectiveType_of_hasKind property h
  cases s
  simp only at hp
  subst hp
  rw [inferType, htype]
  simp only [hk, bind, Except.bind]
  rfl

theorem inferType_object (h : s.HasKind .object nullable) (hp : s.properties ≠ []) :
    inferType family kind property owner s = (do
      let name ← nameOrError (Name.subTypeName owner property)
      let inner ← inferProperties family kind name s.required s.properties
      .ok ⟨⟨.subType name, [], nullable⟩, inner.subTypes ++ [⟨property, name, owner, inner.value⟩],
        inner.warnings⟩) := by
  obtain ⟨tag, hk, htype⟩ := effectiveType_of_hasKind property h
  cases s
  rw [inferType, htype]
  simp only [hk, bind, Except.bind]
  rw [if_neg (fun he => hp (List.isEmpty_iff.mp he))]
  rfl

theorem inferType_array (h : s.HasKind .array nullable) :
    inferType family kind property owner s = (do
      let x ← inferItems family kind property owner s.items
      .ok (x.map (·.withNullable nullable))) := by
  obtain ⟨tag, hk, htype⟩ := effectiveType_of_hasKind property h
  cases s
  rw [inferType, htype]
  simp only [hk, bind, Except.bind]

theorem inferType_relationship (h : s.HasKind .relationship nullable) :
    inferType family kind property owner s = (do
      let x ← inferRelationship family kind property owner s.collections
      .ok (x.map (·.withNullable nullable))) := by
  obtain ⟨tag, hk, htype⟩ := effectiveType_of_hasKind property h
  cases s
  rw [inferType, htype]
  simp only [hk, bind, Except.bind]

/-- A type that is not one tag, alone or with null, is an error of its own. -/
theorem inferType_noType {e : InferenceError} (h : effectiveType s.type property = .error e) :
    inferType family kind property owner s = .error e := by
  cases s
  rw [inferType, h]
  rfl

/-- A tag that names no kind is not supported. -/
theorem inferType_noKind (h : effectiveType s.type property = .ok (tag, nullable))
    (hk : SchemaKind.ofTag? tag = none) :
    inferType family kind property owner s = .error (.unsupportedType tag property) := by
  cases s
  rw [inferType, h]
  simp only [hk, bind, Except.bind]

end IdentityTypes
