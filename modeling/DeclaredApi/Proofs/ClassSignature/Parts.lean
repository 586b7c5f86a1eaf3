import DeclaredApi.Proofs.ClassSignature.Reference
import DeclaredApi.Proofs.Resolution.Parts

/-
  Class signatures in larger registries.

  A signature is put together from the references of declared
  types.  So a class has the same signature, or the same
  report, in a registry and in one that it is part of.

  Main declarations:
    * `Description.signature_congr`
    * `Description.signature_ofClass_eq`
-/

------------------------------------------------------------
-- Equal References
------------------------------------------------------------

namespace DeclaredApi

namespace Description

variable {d other : Description}

theorem optionalRef_congr
    (hAt : other.referenceAt = d.referenceAt) :
    other.optionalRef = d.optionalRef := by
  funext member path t
  cases t with
  | none => rfl
  | some t => rw [optionalRef, optionalRef, hAt]

theorem typeParameterRefs_congr
    (hAt : other.referenceAt = d.referenceAt) :
    other.typeParameterRefs = d.typeParameterRefs := by
  funext member label parameters
  rw [typeParameterRefs, typeParameterRefs, hAt]

theorem interfaceRefs_congr
    (hAt : other.referenceAt = d.referenceAt) :
    other.interfaceRefs = d.interfaceRefs := by
  funext index ts
  induction ts generalizing index with
  | nil => rfl
  | cons t ts ih => rw [interfaceRefs, interfaceRefs, hAt, ih]

theorem fieldRef_congr
    (hAt : other.referenceAt = d.referenceAt) :
    other.fieldRef = d.fieldRef := by
  funext f
  rw [fieldRef, fieldRef, hAt]

theorem memberRef_congr
    (hAt : other.referenceAt = d.referenceAt) :
    other.memberRef = d.memberRef := by
  have hParameter : other.parameterRef = d.parameterRef := by
    funext m p
    rw [parameterRef, parameterRef, hAt]
  funext m
  rw [memberRef, memberRef, hParameter, optionalRef_congr hAt,
    typeParameterRefs_congr hAt]

/- Equal references make equal signatures. -/
theorem signature_congr
    (hScope : other.scope = d.scope)
    (hAt : other.referenceAt = d.referenceAt) :
    other.signature = d.signature := by
  funext c
  rw [signature, signature, hScope, optionalRef_congr hAt,
    typeParameterRefs_congr hAt, interfaceRefs_congr hAt,
    fieldRef_congr hAt, memberRef_congr hAt]

end Description

end DeclaredApi

------------------------------------------------------------
-- Parts of Registries
------------------------------------------------------------

namespace DeclaredApi

namespace Description

/- A registered class is described in a part as in the whole. -/
theorem signature_ofClass_eq
    {part whole : Registry}
    {c : ClassDecl}
    {scope : ClassScope}
    (config : Config)
    (erases : Bool)
    (hPart : Registry.PartOf part whole)
    (hLookup : part.lookup c.name = some scope) :
    (ofClass config erases whole c).signature =
      (ofClass config erases part c).signature := by
  have hHolds := Registry.holds_of_lookup hLookup
  have hName : scope.name = c.name := by
    simpa using List.find?_some hLookup
  have hWhole : whole.lookup c.name = some scope :=
    hName ▸ hPart.holds scope hHolds
  have hOfPart :
      ofClass config erases part c =
        ⟨config, part, scope, c.name, erases⟩ := by
    rw [ofClass, Registry.register_of_lookup_eq_some hLookup]
  have hOfWhole :
      ofClass config erases whole c =
        ⟨config, whole, scope, c.name, erases⟩ := by
    rw [ofClass, Registry.register_of_lookup_eq_some hWhole]
  rw [hOfPart, hOfWhole]
  apply signature_congr
  · rfl
  funext member path t
  have hReference :=
    Resolution.reference_eq_of_partOf
      (r := ⟨config, part, scope, member, erases⟩) hPart hHolds t
  unfold referenceAt
  simp only [resolution]
  rw [hReference]

end Description

end DeclaredApi
