import DeclaredApi.Proofs.Signature.Wildcards
import DeclaredApi.Proofs.Structured.Soundness

/-
  Unconstrained wildcards of structured forms.

  A form without bounds for its question mark, and every bare
  question mark of a text in a form, becomes the unbounded
  wildcard of the root object type that is configured, at the
  same position, as long as the interner is sound.

  Main declarations:
    * `Structured.UnconstrainedAt`
    * `Structured.ReadsUnbounded`
    * `Structured.returns_readNode_unboundedAt`
-/

------------------------------------------------------------
-- Positions
------------------------------------------------------------

namespace DeclaredApi

namespace Structured

/-
  A wildcard without bounds stands at a position of a form: a
  text, the base of an object without other keys, or an
  object with its bounds and arguments.
-/
inductive UnconstrainedAt : Json → List Nat → Prop
| text
    {text : String}
    {path : List Nat}
    (hText : Signature.UnconstrainedAt text path) :
    UnconstrainedAt (.str text) path
| base
    {fields : List (String × Json)}
    {base : String}
    {path : List Nat}
    (hBase : fields.lookup baseKey = some (.str base))
    (hLone : ∀ field ∈ fields, field.1 = baseKey)
    (hText : Signature.UnconstrainedAt base path) :
    UnconstrainedAt (.object fields) path
| wildcard
    {fields : List (String × Json)}
    {base : String}
    (hBase : fields.lookup baseKey = some (.str base))
    (hKeys : ¬ ∀ field ∈ fields, field.1 = baseKey)
    (hMark : Text.trimBlanks base = "?")
    (hBounds : present? boundsKey fields = none) :
    UnconstrainedAt (.object fields) []
| bound
    {fields : List (String × Json)}
    {base : String}
    {items : List Json}
    {i : Nat}
    {item : Json}
    {path : List Nat}
    (hBase : fields.lookup baseKey = some (.str base))
    (hMark : Text.trimBlanks base = "?")
    (hBounds : present? boundsKey fields = some (.list items))
    (hItem : items[i]? = some item)
    (hInside : UnconstrainedAt item path) :
    UnconstrainedAt (.object fields) (i :: path)
| argument
    {fields : List (String × Json)}
    {base : String}
    {items : List Json}
    {i : Nat}
    {item : Json}
    {path : List Nat}
    (hBase : fields.lookup baseKey = some (.str base))
    (hName : Text.trimBlanks base ≠ "?")
    (hArguments :
      present? parametersKey fields = some (.list items))
    (hItem : items[i]? = some item)
    (hInside : UnconstrainedAt item path) :
    UnconstrainedAt (.object fields) (i :: path)

end Structured

end DeclaredApi

------------------------------------------------------------
-- Items
------------------------------------------------------------

namespace DeclaredApi

namespace Structured

open Interner

variable {config : Config}
variable {inv : Interner → Prop}

/- A form is read with the root at every such position. -/
def ReadsUnbounded
    (config : Config)
    (inv : Interner → Prop)
    (value : Json) : Prop :=
  ∀ path,
    Action.Returns inv
      (fun r =>
        r.UnboundedAt config.rootObject (UnconstrainedAt value))
      (readNode config path value)

/- The items of a list are read so, one after the other. -/
def ItemsUnbounded
    (root : String)
    (items : List Json)
    (references : List TypeRef) : Prop :=
  List.Forall₂
    (fun item r => r.UnboundedAt root (UnconstrainedAt item))
    items references

theorem returns_readItems_unboundedAt
    {items : List Json}
    {index : Nat}
    (path : String)
    (plain : Bool)
    (hItems : ∀ item ∈ items, ReadsUnbounded config inv item) :
    Action.Returns inv
      (ItemsUnbounded config.rootObject items)
      (readItems config path plain index items) := by
  induction items generalizing index with
  | nil =>
      rw [readItems]
      exact Action.returns_pure .nil
  | cons item rest ih =>
      rw [List.forall_mem_cons] at hItems
      rw [readItems]
      apply (hItems.1 _).bind
      intro r hUnbounded
      split
      · exact Action.returns_throw _ _
      · apply (ih hItems.2).bind
        intro rs hRest
        exact Action.returns_pure (.cons hUnbounded hRest)

end Structured

end DeclaredApi

------------------------------------------------------------
-- Kinds of Objects
------------------------------------------------------------

namespace DeclaredApi

namespace Structured

variable {root base : String}
variable {fields : List (String × Json)}
variable {r : TypeRef}

/- Nothing but a lone base is present. -/
theorem present?_of_lone
    {key : String}
    (hLone : ∀ field ∈ fields, field.1 = baseKey)
    (hKey : key ≠ baseKey) :
    present? key fields = none := by
  rw [present?, lookup_of_lone hLone hKey]

/- The positions of a lone base are those of its text. -/
theorem unboundedAt_of_lone
    (hBase : fields.lookup baseKey = some (.str base))
    (hLone : ∀ field ∈ fields, field.1 = baseKey)
    (hText : r.UnboundedAt root (Signature.UnconstrainedAt base)) :
    r.UnboundedAt root (UnconstrainedAt (.object fields)) := by
  intro place hPlace
  cases hPlace with
  | base hOther _ hInside =>
      rw [hBase] at hOther
      cases hOther
      exact hText place hInside
  | wildcard _ hKeys => exact absurd hLone hKeys
  | bound _ _ hBounds =>
      rw [present?_of_lone hLone (by decide)] at hBounds
      cases hBounds
  | argument _ _ hArguments =>
      rw [present?_of_lone hLone (by decide)] at hArguments
      cases hArguments

/- A question mark is one, or has its bounds below it. -/
theorem unboundedAt_of_mark
    (hBase : fields.lookup baseKey = some (.str base))
    (hKeys : ¬ ∀ field ∈ fields, field.1 = baseKey)
    (hMark : Text.trimBlanks base = "?")
    (hNone :
      present? boundsKey fields = none → r = .unbounded root)
    (hBounds :
      ∀ items,
        present? boundsKey fields = some (.list items) →
          ItemsUnbounded root items r.parts) :
    r.UnboundedAt root (UnconstrainedAt (.object fields)) := by
  intro place hPlace
  cases hPlace with
  | base _ hLone => exact absurd hLone hKeys
  | wildcard _ _ _ hMissing =>
      rw [hNone hMissing]
      rfl
  | bound _ _ hPresent hItem hInside =>
      exact TypeRef.part?_cons_of_parts (hBounds _ hPresent)
        hItem hInside
  | argument hOther hName =>
      rw [hBase] at hOther
      cases hOther
      exact absurd hMark hName

/- A named type has its arguments below it. -/
theorem unboundedAt_of_name
    (hBase : fields.lookup baseKey = some (.str base))
    (hKeys : ¬ ∀ field ∈ fields, field.1 = baseKey)
    (hName : Text.trimBlanks base ≠ "?")
    (hArguments :
      ∀ items,
        present? parametersKey fields = some (.list items) →
          ItemsUnbounded root items r.parts) :
    r.UnboundedAt root (UnconstrainedAt (.object fields)) := by
  intro place hPlace
  cases hPlace with
  | base _ hLone => exact absurd hLone hKeys
  | wildcard hOther _ hMark | bound hOther hMark =>
      rw [hBase] at hOther
      cases hOther
      exact absurd hMark hName
  | argument _ _ hPresent hItem hInside =>
      exact TypeRef.part?_cons_of_parts (hArguments _ hPresent)
        hItem hInside

end Structured

end DeclaredApi

------------------------------------------------------------
-- Objects and Nodes
------------------------------------------------------------

namespace DeclaredApi

namespace Structured

open Interner

variable {config : Config}
variable {inv : Interner → Prop}

theorem returns_parse_unboundedAt
    (text : String)
    (hKept : Kept config.rootObject inv) :
    Action.Returns inv
      (fun r =>
        r.UnboundedAt config.rootObject
          (Signature.UnconstrainedAt text))
      (parse config text) :=
  (returns_parse text hKept).mono
    (fun _ hMeans => hMeans.unboundedAt)

/- A wildcard has the root for a bound, or what was read. -/
theorem returns_wildcardOf_parts
    {fields : List (String × Json)}
    {bounds : Reader (List TypeRef)}
    (path : String)
    (hKept : Kept config.rootObject inv)
    (hBounds :
      ∀ items,
        present? boundsKey fields = some (.list items) →
          Action.Returns inv
            (fun rs =>
              (∀ r ∈ rs, r.WellFormed) ∧
                ItemsUnbounded config.rootObject items rs)
            bounds) :
    Action.Returns inv
      (fun r =>
        (present? boundsKey fields = none →
          r = .unbounded config.rootObject) ∧
          ∀ items,
            present? boundsKey fields = some (.list items) →
              ItemsUnbounded config.rootObject items r.parts)
      (wildcardOf config path fields bounds) := by
  unfold wildcardOf
  apply (returns_refuseKey _ _ _ fields).bind
  intro _ _
  apply (returns_readRelation _ fields).bind
  intro relation _
  split
  · next hNone =>
      split
      · exact Action.returns_throw _ _
      · next hUpper =>
          have hDirection : relation = .upper := by
            cases relation with
            | upper => rfl
            | lower => exact absurd rfl hUpper
          subst hDirection
          apply (gives_internRead hKept
            (TypeRef.ofBounds_root config.rootObject_isDotted)
            (TypeRef.wellFormed_unbounded
              config.rootObject_isDotted)).returns
          rintro r ⟨⟩
          refine ⟨fun _ => rfl, ?_⟩
          intro items hPresent
          rw [hNone] at hPresent
          cases hPresent
  · next item rest hPresent =>
      apply (hBounds _ hPresent).bind
      rintro rs ⟨hWellFormed, hUnbounded⟩
      apply returns_internRead_of_kept hKept
        (fun r => wellFormed_of_ofBounds hWellFormed)
      intro r hBuilt
      rcases TypeRef.ofBounds_eq_ok_iff.mp hBuilt with
        ⟨_, _, rfl⟩
      refine ⟨?_, ?_⟩
      · intro hNone
        rw [hPresent] at hNone
        cases hNone
      · intro items hSame
        rw [hPresent] at hSame
        cases hSame
        exact hUnbounded
  · exact returns_refuse _ _ _ _ _

/- A named type has the arguments that were read. -/
theorem returns_namedOf_parts
    {fields : List (String × Json)}
    {arguments : Reader (List TypeRef)}
    (path base : String)
    (hKept : Kept config.rootObject inv)
    (hArguments :
      ∀ items,
        present? parametersKey fields = some (.list items) →
          Action.Returns inv
            (fun rs =>
              (∀ r ∈ rs, r.WellFormed) ∧
                ItemsUnbounded config.rootObject items rs)
            arguments) :
    Action.Returns inv
      (fun r =>
        ∀ items,
          present? parametersKey fields = some (.list items) →
            ItemsUnbounded config.rootObject items r.parts)
      (namedOf config path base fields arguments) := by
  unfold namedOf
  apply (returns_readBase path base).bind
  intro name _
  apply (returns_refuseWildcardKeys _ fields).bind
  intro _ _
  split
  · next hNone =>
      apply returns_internRead_of_kept hKept
        (fun r => wellFormed_of_ofBase (by simp))
      intro r _ items hPresent
      rw [hNone] at hPresent
      cases hPresent
  · next others hPresent =>
      split
      · exact returns_refuse _ _ _ _ _
      · apply (hArguments others hPresent).bind
        rintro rs ⟨hWellFormed, hUnbounded⟩
        apply returns_internRead_of_kept hKept
          (fun r => wellFormed_of_ofBase hWellFormed)
        intro r hBuilt items hSame
        rcases TypeRef.ofBase_eq_ok_iff.mp hBuilt with
          ⟨_, _, rfl⟩
        rw [hPresent] at hSame
        cases hSame
        exact hUnbounded
  · exact returns_refuse _ _ _ _ _

/- The lists of an object are read as their items are. -/
theorem returns_readListAt_unboundedAt
    {fields : List (String × Json)}
    {key : String}
    {items : List Json}
    (path : String)
    (plain : Bool)
    (hKept : Kept config.rootObject inv)
    (hPresent : present? key fields = some (.list items))
    (hItems : ∀ item ∈ items, ReadsUnbounded config inv item) :
    Action.Returns inv
      (fun rs =>
        (∀ r ∈ rs, r.WellFormed) ∧
          ItemsUnbounded config.rootObject items rs)
      (readListAt config path key plain fields) := by
  rw [readListAt_of_present path plain hPresent]
  apply Action.Returns.and
  · apply returns_readItems
    exact fun item _ path =>
      returns_readNode path item hKept.stores
  · exact returns_readItems_unboundedAt _ plain hItems

/- Every form is read with the root at these positions. -/
theorem returns_readNode_unboundedAt
    (value : Json)
    (hKept : Kept config.rootObject inv) :
    ReadsUnbounded config inv value := by
  induction value using inductionOnForms with
  | text text =>
      intro path
      rw [readNode]
      have hReads := returns_parse_unboundedAt text hKept
      apply (returns_readSignature hReads).mono
      rintro r hUnbounded place ⟨hText⟩
      exact hUnbounded place hText
  | object fields ih =>
      intro path
      have hList :=
        fun key plain items
            (hPresent :
              present? key fields = some (.list items)) =>
          returns_readListAt_unboundedAt path plain hKept hPresent
            (ih key items hPresent)
      rw [readNode]
      split
      · exact Action.returns_throw _ _
      · next base hBase =>
          apply (returns_checkGeneric path fields).bind
          intro _ _
          split
          · next hLone =>
              have hLone :
                  ∀ field ∈ fields, field.1 = baseKey := by
                simpa using hLone
              have hReads := returns_parse_unboundedAt base hKept
              apply (returns_readLoneBase path hReads).mono
              exact fun r => unboundedAt_of_lone hBase hLone
          · next hKeys =>
              have hKeys :
                  ¬ ∀ field ∈ fields, field.1 = baseKey := by
                simpa using hKeys
              split
              · next hMark =>
                  apply (returns_wildcardOf_parts path hKept
                    (hList boundsKey true)).mono
                  rintro r ⟨hNone, hBounds⟩
                  exact unboundedAt_of_mark hBase hKeys hMark
                    hNone hBounds
              · next hName =>
                  apply (returns_namedOf_parts path base hKept
                    (hList parametersKey false)).mono
                  exact fun r =>
                    unboundedAt_of_name hBase hKeys hName
      · exact returns_refuse _ _ _ _ _
  | other value hText hObject =>
      intro path
      rw [readNode_of_other path hText hObject]
      exact Action.returns_throw _ _

end Structured

end DeclaredApi
