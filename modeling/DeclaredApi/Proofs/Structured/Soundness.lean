import DeclaredApi.Proofs.Resolution.Reference
import DeclaredApi.Structured.Refusal

/-
  Soundness of structured reading.

  Every reference that a structured form describes is well
  formed, as validation accepts it.  So reading keeps what
  interning keeps, whether or not it succeeds.

  Main declarations:
    * `Structured.returns_readItems`
    * `Structured.returns_internRead`
    * `Structured.returns_readNode`
    * `Structured.returns_read`
    * `Structured.gives_read`
-/

------------------------------------------------------------
-- Lists
------------------------------------------------------------

namespace DeclaredApi

namespace Structured

variable {config : Config}
variable {inv : Interner → Prop}

/- A form is read soundly at every path. -/
def Sounds
    (config : Config)
    (inv : Interner → Prop)
    (value : Json) : Prop :=
  ∀ path,
    Action.Returns inv TypeRef.WellFormed
      (readNode config path value)

/- So the items of a list are read one after the other. -/
theorem returns_readItems
    {items : List Json}
    {index : Nat}
    (path : String)
    (plain : Bool)
    (hItems : ∀ item ∈ items, Sounds config inv item) :
    Action.Returns inv (fun rs => ∀ r ∈ rs, r.WellFormed)
      (readItems config path plain index items) := by
  induction items generalizing index with
  | nil =>
      rw [readItems]
      exact Action.returns_pure
        fun r hr => absurd hr List.not_mem_nil
  | cons item rest ih =>
      rw [List.forall_mem_cons] at hItems
      rw [readItems]
      apply (hItems.1 _).bind
      intro r hWellFormed
      split
      · exact Action.returns_throw _ _
      · apply (ih hItems.2).bind
        intro rs hRest
        exact Action.returns_pure
          (List.forall_mem_cons.mpr ⟨hWellFormed, hRest⟩)

end Structured

end DeclaredApi

------------------------------------------------------------
-- Parts of Objects
------------------------------------------------------------

namespace DeclaredApi

namespace Structured

open Interner

variable {config : Config}
variable {inv : Interner → Prop}

theorem returns_refuse
    {α : Type}
    (post : α → Prop)
    (path key expected : String)
    (actual : Json) :
    Action.Returns inv post
      (refuse path key expected actual) :=
  Action.returns_throw post _

theorem returns_refuseKey
    (path key expected : String)
    (fields : List (String × Json)) :
    Action.Returns inv (fun _ => True)
      (refuseKey path key expected fields) := by
  unfold refuseKey
  split
  · exact Action.returns_pure trivial
  · exact returns_refuse _ _ _ _ _

theorem returns_refuseWildcardKeys
    (path : String)
    (fields : List (String × Json)) :
    Action.Returns inv (fun _ => True)
      (refuseWildcardKeys path fields) := by
  unfold refuseWildcardKeys
  apply (returns_refuseKey _ _ _ fields).bind
  intro _ _
  apply (returns_refuseKey _ _ _ fields).bind
  intro _ _
  exact returns_refuseKey _ _ _ fields

theorem returns_checkGeneric
    (path : String)
    (fields : List (String × Json)) :
    Action.Returns inv (fun _ => True)
      (checkGeneric path fields) := by
  unfold checkGeneric
  split
  · exact Action.returns_pure trivial
  · exact Action.returns_pure trivial
  · exact returns_refuse _ _ _ _ _

theorem returns_readRelation
    (path : String)
    (fields : List (String × Json)) :
    Action.Returns inv (fun _ => True)
      (readRelation path fields) := by
  unfold readRelation
  split
  · exact Action.returns_pure trivial
  · split
    · exact Action.returns_pure trivial
    · exact returns_refuse _ _ _ _ _
  · exact returns_refuse _ _ _ _ _

theorem returns_readBase
    (path base : String) :
    Action.Returns inv (fun _ => True) (readBase path base) := by
  unfold readBase
  simp only
  split
  · exact Action.returns_pure trivial
  · exact returns_refuse _ _ _ _ _

/- In a sound interner, what is valid is what is interned. -/
theorem gives_internRead
    {built : Except TypeRef.BuildError TypeRef}
    {r : TypeRef}
    (hKept : Kept config.rootObject inv)
    (hBuilt : built = .ok r)
    (hWellFormed : r.WellFormed) :
    Action.Gives inv (.ok r) (internRead config built) := by
  rw [hBuilt]
  intro interner hInv
  have hStored :=
    intern_of_sound (hKept.sound hInv) hWellFormed
  exact ⟨congrArg Except.ok hStored,
    hKept.intern hWellFormed hInv⟩

/- So it has what all that is valid has. -/
theorem returns_internRead_of_kept
    {built : Except TypeRef.BuildError TypeRef}
    {post : TypeRef → Prop}
    (hKept : Kept config.rootObject inv)
    (hWellFormed : ∀ r, built = .ok r → r.WellFormed)
    (hPost : ∀ r, built = .ok r → post r) :
    Action.Returns inv post (internRead config built) := by
  cases built with
  | error e => exact Action.returns_throw _ _
  | ok r =>
      apply (gives_internRead hKept rfl
        (hWellFormed r rfl)).returns
      intro s hOk
      exact Except.ok.inj hOk ▸ hPost r rfl

/- What is interned is well formed if what is valid is. -/
theorem returns_internRead
    {built : Except TypeRef.BuildError TypeRef}
    (hStores : Stores config inv)
    (hWellFormed : ∀ r, built = .ok r → r.WellFormed) :
    Action.Returns inv TypeRef.WellFormed
      (internRead config built) := by
  cases built with
  | error e => exact Action.returns_throw _ _
  | ok r =>
      intro interner hInv
      rcases hStores.intern (hWellFormed r rfl) hInv with
        ⟨hStored, hAfter⟩
      refine ⟨hAfter, ?_⟩
      intro s hOk
      exact Except.ok.inj hOk ▸ hStored

/- Reading a text adds only an error to parsing it. -/
theorem returns_readSignature
    {post : TypeRef → Prop}
    {text : String}
    (hParse : Action.Returns inv post (parse config text)) :
    Action.Returns inv post (readSignature config text) := by
  intro interner hInv
  have hRun := hParse interner hInv
  unfold readSignature
  revert hRun
  rcases parse config text interner with ⟨result, interner'⟩
  rintro ⟨hInv', hPost⟩
  cases result with
  | ok r =>
      refine ⟨hInv', ?_⟩
      intro s hOk
      have hEq : r = s := Except.ok.inj hOk
      exact hPost s (hEq ▸ rfl)
  | error e =>
      refine ⟨hInv', ?_⟩
      intro s hOk
      cases hOk

theorem returns_readLoneBase
    {post : TypeRef → Prop}
    {text : String}
    (path : String)
    (hParse : Action.Returns inv post (parse config text)) :
    Action.Returns inv post (readLoneBase config path text) := by
  intro interner hInv
  have hRun := returns_readSignature hParse interner hInv
  unfold readSignature at hRun
  unfold readLoneBase
  revert hRun
  rcases parse config text interner with ⟨result, interner'⟩
  intro hRun
  cases result with
  | ok r => exact hRun
  | error e =>
      refine ⟨hRun.1, ?_⟩
      intro s hOk
      cases hOk

end Structured

end DeclaredApi

------------------------------------------------------------
-- Objects and Nodes
------------------------------------------------------------

namespace DeclaredApi

namespace Structured

open Interner

variable {config : Config}
variable {inv : Interner → Prop}
variable {post : TypeRef → Prop}

/- Bounds that validation accepts make a wildcard. -/
theorem wellFormed_of_ofBounds
    {relation : BoundRelation}
    {bounds : List TypeRef}
    {r : TypeRef}
    (hBounds : ∀ b ∈ bounds, b.WellFormed)
    (hBuilt : TypeRef.ofBounds relation bounds = .ok r) :
    r.WellFormed := by
  rcases TypeRef.ofBounds_eq_ok_iff.mp hBuilt with
    ⟨hSome, hPlain, rfl⟩
  rw [TypeRef.WellFormed, TypeRef.allWellFormed_iff]
  exact ⟨hSome, hPlain, hBounds⟩

/- Arguments that validation accepts make a named type. -/
theorem wellFormed_of_ofBase
    {base : String}
    {arguments : List TypeRef}
    {r : TypeRef}
    (hArguments : ∀ a ∈ arguments, a.WellFormed)
    (hBuilt : TypeRef.ofBase base arguments = .ok r) :
    r.WellFormed := by
  rcases TypeRef.ofBase_eq_ok_iff.mp hBuilt with
    ⟨hDotted, hPrimitive, rfl⟩
  rw [TypeRef.WellFormed, TypeRef.allWellFormed_iff]
  exact ⟨hDotted, hPrimitive, hArguments⟩

theorem returns_wildcardOf
    {fields : List (String × Json)}
    {bounds : Reader (List TypeRef)}
    (path : String)
    (hStores : Stores config inv)
    (hBounds :
      ∀ items,
        present? boundsKey fields = some (.list items) →
          Action.Returns inv (fun rs => ∀ r ∈ rs, r.WellFormed)
            bounds) :
    Action.Returns inv TypeRef.WellFormed
      (wildcardOf config path fields bounds) := by
  unfold wildcardOf
  apply (returns_refuseKey _ _ _ fields).bind
  intro _ _
  apply (returns_readRelation _ fields).bind
  intro relation _
  split
  · split
    · exact Action.returns_throw _ _
    · apply returns_internRead hStores
      intro r hBuilt
      rcases Result.bind_eq_ok_iff.mp hBuilt with
        ⟨root, hRoot, hWildcard⟩
      have hNone : ∀ a ∈ ([] : List TypeRef), a.WellFormed :=
        fun a ha => absurd ha List.not_mem_nil
      have hBound := wellFormed_of_ofBase hNone hRoot
      exact wellFormed_of_ofBounds (by simpa using hBound)
        hWildcard
  · next item rest hPresent =>
      apply (hBounds _ hPresent).bind
      intro rs hRs
      exact returns_internRead hStores
        fun r => wellFormed_of_ofBounds hRs
  · exact returns_refuse _ _ _ _ _

theorem returns_namedOf
    {fields : List (String × Json)}
    {arguments : Reader (List TypeRef)}
    (path base : String)
    (hStores : Stores config inv)
    (hArguments :
      ∀ items,
        present? parametersKey fields = some (.list items) →
          Action.Returns inv (fun rs => ∀ r ∈ rs, r.WellFormed)
            arguments) :
    Action.Returns inv TypeRef.WellFormed
      (namedOf config path base fields arguments) := by
  unfold namedOf
  apply (returns_readBase path base).bind
  intro name _
  apply (returns_refuseWildcardKeys _ fields).bind
  intro _ _
  split
  · exact returns_internRead hStores
      fun r => wellFormed_of_ofBase (by simp)
  · next items hPresent =>
      split
      · exact returns_refuse _ _ _ _ _
      · apply (hArguments items hPresent).bind
        intro rs hRs
        exact returns_internRead hStores
          fun r => wellFormed_of_ofBase hRs
  · exact returns_refuse _ _ _ _ _

/- So every form is read soundly. -/
theorem returns_readNode
    (path : String)
    (value : Json)
    (hStores : Stores config inv) :
    Action.Returns inv TypeRef.WellFormed
      (readNode config path value) := by
  induction value using inductionOnForms generalizing path with
  | text text =>
      rw [readNode]
      exact returns_readSignature (hStores.parse text)
  | object fields ih =>
      have hList :
          ∀ key plain items,
            present? key fields = some (.list items) →
              Action.Returns inv
                (fun rs => ∀ r ∈ rs, r.WellFormed)
                (readListAt config path key plain fields) := by
        intro key plain items hPresent
        rw [readListAt_of_present path plain hPresent]
        exact returns_readItems _ _
          fun item hItem path =>
            ih key items hPresent item hItem path
      rw [readNode]
      split
      · exact Action.returns_throw _ _
      · next base _ =>
          apply (returns_checkGeneric path fields).bind
          intro _ _
          split
          · exact returns_readLoneBase path (hStores.parse base)
          · split
            · exact returns_wildcardOf path hStores
                (hList boundsKey true)
            · exact returns_namedOf path base hStores
                (hList parametersKey false)
      · exact returns_refuse _ _ _ _ _
  | other value hText hObject =>
      rw [readNode_of_other path hText hObject]
      exact Action.returns_throw _ _

end Structured

end DeclaredApi

------------------------------------------------------------
-- References and Refusals
------------------------------------------------------------

namespace DeclaredApi

namespace Structured

variable {config : Config}
variable {inv : Interner → Prop}
variable {path : String}
variable {node : Json}

/- A result without failures of validation is the result. -/
theorem mapError_ofValid
    {α : Type}
    {result : Except Failure α}
    (hValid : ∀ e, result ≠ .error (.invalid e)) :
    (ofValid result hValid).mapError Failure.refused =
      result := by
  cases result with
  | ok a => rfl
  | error e =>
      cases e with
      | refused e => rfl
      | invalid e => exact absurd rfl (hValid e)

/- A form is read as the reference that it describes. -/
theorem read_eq_ok_iff
    {interner : Interner}
    {r : TypeRef} :
    (read config path node interner).1 = .ok r ↔
      (readNode config path node interner).1 = .ok r := by
  have hValid := readNode_ne_invalid config path node interner
  rw [← mapError_ofValid hValid]
  change ofValid _ hValid = _ ↔ _
  cases ofValid _ hValid with
  | ok s => simp [Except.mapError]
  | error e => simp [Except.mapError]

theorem returns_read
    {post : TypeRef → Prop}
    (hReads :
      Action.Returns inv post (readNode config path node)) :
    Action.Returns inv post (read config path node) :=
  fun interner hInv =>
    ⟨(hReads interner hInv).1,
      fun r hOk =>
        (hReads interner hInv).2 r (read_eq_ok_iff.mp hOk)⟩

theorem gives_read
    {r : TypeRef}
    (hReads :
      Action.Gives inv (.ok r) (readNode config path node)) :
    Action.Gives inv (.ok r) (read config path node) :=
  fun interner hInv =>
    ⟨read_eq_ok_iff.mpr (hReads interner hInv).1,
      (hReads interner hInv).2⟩

end Structured

end DeclaredApi
