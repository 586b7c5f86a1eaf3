import DeclaredApi.Proofs.Action
import DeclaredApi.Proofs.Json.Value
import DeclaredApi.Structured.Reading

/-
  Structured forms and the lists in them.

  A text or an object is a form, and the items of the lists
  that an object has under its keys are the forms below it.
  Each list is read from its first to its last item, and the
  values that pass a check of a key are those it asks for.

  Main declarations:
    * `Structured.inductionOnForms`
    * `Structured.readListAt_of_present`
    * `Structured.Reading`
    * `Structured.readAs`
    * `Structured.readNode_of_base`
    * `Structured.readNode_of_other`
    * `Structured.length_of_readItems`
    * `Structured.isWildcard_of_readItems`
-/

------------------------------------------------------------
-- Keys and Lists
------------------------------------------------------------

namespace DeclaredApi

namespace Structured

variable {config : Config}
variable {fields : List (String × Json)}

/- A value that is present is under its key. -/
theorem lookup_of_present
    {key : String}
    {value : Json}
    (hPresent : present? key fields = some value) :
    fields.lookup key = some value := by
  unfold present? at hPresent
  split at hPresent
  · cases hPresent
  · cases hPresent
  · next other _ hLookup =>
      rw [hLookup, ← hPresent]

/- The items under a key are read from the first such key. -/
theorem readListAt_of_present
    {key : String}
    {items : List Json}
    (path : String)
    (plain : Bool)
    (hPresent : present? key fields = some (.list items)) :
    readListAt config path key plain fields =
      readItems config (keyPath path key) plain 0 items := by
  have hLookup := lookup_of_present hPresent
  clear hPresent
  induction fields with
  | nil => cases hLookup
  | cons field rest ih =>
      rcases field with ⟨other, value⟩
      rw [List.lookup_cons] at hLookup
      by_cases hKey : key = other
      · have hSame : (key == other) = true :=
          beq_iff_eq.mpr hKey
        rw [hSame] at hLookup
        injection hLookup with hValue
        rw [hValue]
        simp only [readListAt, hKey, if_true]
      · have hOther : (key == other) = false :=
          beq_eq_false_iff_ne.mpr hKey
        rw [hOther] at hLookup
        have hRest := ih hLookup
        cases value with
        | list others =>
            rw [readListAt, if_neg (Ne.symm hKey)]
            exact hRest
        | null | bool _ | int _ | float _ | str _ | object _
        | foreign _ _ =>
            simp only [readListAt]
            exact hRest

/- The list under a present key is in one of the fields. -/
theorem mem_of_present
    {key : String}
    {value : Json}
    (hPresent : present? key fields = some value) :
    ∃ field ∈ fields, field.2 = value := by
  rcases List.lookup_eq_some_iff.mp
      (lookup_of_present hPresent) with
    ⟨before, after, hFields, _⟩
  refine ⟨(key, value), ?_, rfl⟩
  rw [hFields]
  exact List.mem_append_right _ List.mem_cons_self

/- An object with a lone base has no other key. -/
theorem lookup_of_lone
    {key : String}
    (hLone : ∀ field ∈ fields, field.1 = baseKey)
    (hKey : key ≠ baseKey) :
    fields.lookup key = none := by
  rw [List.lookup_eq_none_iff]
  intro field hField
  rw [hLone field hField]
  exact bne_iff_ne.mpr hKey

/-
  Induction over forms, with the hypothesis for the items of
  each list that an object has under a key.  These are parts
  of a field, so a list carries the hypothesis for its items.
-/
@[elab_as_elim]
theorem inductionOnForms
    {motive : Json → Prop}
    (text : ∀ text, motive (.str text))
    (object :
      ∀ fields,
        (∀ key items,
          present? key fields = some (.list items) →
            ∀ item ∈ items, motive item) →
          motive (.object fields))
    (other :
      ∀ value,
        (∀ text, value ≠ .str text) →
          (∀ fields, value ≠ .object fields) → motive value)
    (value : Json) :
    motive value := by
  have hParts :
      motive value ∧
        ∀ items,
          value = .list items → ∀ item ∈ items, motive item := by
    induction value with
    | object fields ih =>
        refine ⟨object fields ?_, fun items hEq => by cases hEq⟩
        intro key items hPresent
        rcases mem_of_present hPresent with
          ⟨field, hField, hValue⟩
        exact (ih field hField).2 items hValue
    | list items ih =>
        refine ⟨other _ (by simp) (by simp), ?_⟩
        intro others hEq item hItem
        injection hEq with hEq
        exact (ih item (hEq ▸ hItem)).1
    | str value =>
        exact ⟨text value, fun items hEq => by cases hEq⟩
    | null | bool _ | int _ | float _ | foreign _ _ =>
        exact ⟨other _ (by simp) (by simp),
          fun items hEq => by cases hEq⟩
  exact hParts.1

end Structured

end DeclaredApi

------------------------------------------------------------
-- Nodes
------------------------------------------------------------

namespace DeclaredApi

namespace Structured

variable {config : Config}

/- How an object with a base is read. -/
inductive Reading where
| signature
| wildcard
| named
deriving DecidableEq, Repr

/- A lone base is a signature, a question mark a wildcard. -/
def readingOf
    (fields : List (String × Json))
    (base : String) : Reading :=
  if fields.all (fun field => field.1 = baseKey) then
    .signature
  else if Text.trimBlanks base = "?" then
    .wildcard
  else
    .named

/- An object with a base, read in one of the ways. -/
def readAs
    (config : Config)
    (path : String)
    (fields : List (String × Json))
    (base : String) : Reading → Reader TypeRef
| .signature => readLoneBase config path base
| .wildcard =>
    wildcardOf config path fields
      (readListAt config path boundsKey true fields)
| .named =>
    namedOf config path base fields
      (readListAt config path parametersKey false fields)

/- It is read in its own way. -/
theorem readNode_of_base
    {fields : List (String × Json)}
    {base : String}
    (path : String)
    (hBase : fields.lookup baseKey = some (.str base)) :
    readNode config path (.object fields) =
      (do
        checkGeneric path fields
        readAs config path fields base
          (readingOf fields base)) := by
  rw [readNode, hBase]
  simp only
  apply bind_congr
  intro _
  unfold readingOf
  split
  · rfl
  · split
    · rfl
    · rfl

/- An object needs a text for its base. -/
theorem readNode_of_badBase
    {fields : List (String × Json)}
    {value : Json}
    (path : String)
    (hBase : fields.lookup baseKey = some value)
    (hKind : ∀ base, value ≠ .str base) :
    readNode config path (.object fields) =
      refuse path baseKey "str" value := by
  simp only [readNode, hBase]

/- Only a text or an object is a form. -/
theorem readNode_of_other
    {value : Json}
    (path : String)
    (hText : ∀ text, value ≠ .str text)
    (hObject : ∀ fields, value ≠ .object fields) :
    readNode config path value =
      throw (.refused
        (.wrongValue path "str | dict" value none)) := by
  rw [readNode]
  · exact hText
  · exact hObject

end Structured

end DeclaredApi

------------------------------------------------------------
-- Items
------------------------------------------------------------

namespace DeclaredApi

namespace Structured

variable {config : Config}
variable {interner : Interner}
variable {path : String}
variable {plain : Bool}

/-
  Items that are read have a first one, which is no wildcard
  if they are plain ones, and others after it.
-/
theorem readItems_cons_cases
    {index : Nat}
    {item : Json}
    {rest : List Json}
    {rs : List TypeRef}
    (hRead :
      (readItems config path plain index (item :: rest)
        interner).1 = .ok rs) :
    ∃ r others between,
      readNode config (itemPath path index) item interner =
          (.ok r, between) ∧
        (plain = true → r.isWildcard = false) ∧
        (readItems config path plain (index + 1) rest
          between).1 = .ok others ∧
        rs = r :: others := by
  rw [readItems] at hRead
  rcases Action.run_bind_ok_cases hRead with ⟨r, hItem, hRest⟩
  split at hRest
  · cases hRest
  · next hPlain =>
      rcases Action.run_bind_ok_cases hRest with
        ⟨others, hOthers, hPure⟩
      cases hPure
      refine ⟨r, others, _, Prod.ext hItem rfl, ?_, hOthers,
        rfl⟩
      intro hTrue
      simpa [hTrue] using hPlain

/- There are as many references as items. -/
theorem length_of_readItems
    {index : Nat}
    {items : List Json}
    {rs : List TypeRef}
    (hRead :
      (readItems config path plain index items interner).1 =
        .ok rs) :
    rs.length = items.length := by
  induction items generalizing index interner rs with
  | nil =>
      rw [readItems] at hRead
      cases hRead
      rfl
  | cons item rest ih =>
      rcases readItems_cons_cases hRead with
        ⟨r, others, between, _, _, hRest, rfl⟩
      rw [List.length_cons, List.length_cons, ih hRest]

/- None of the plain ones is a wildcard. -/
theorem isWildcard_of_readItems
    {index : Nat}
    {items : List Json}
    {rs : List TypeRef}
    (hRead :
      (readItems config path true index items interner).1 =
        .ok rs) :
    ∀ r ∈ rs, r.isWildcard = false := by
  induction items generalizing index interner rs with
  | nil =>
      rw [readItems] at hRead
      cases hRead
      exact fun r hr => absurd hr List.not_mem_nil
  | cons item rest ih =>
      rcases readItems_cons_cases hRead with
        ⟨r, others, between, _, hPlain, hRest, rfl⟩
      rw [List.forall_mem_cons]
      exact ⟨hPlain rfl, ih hRest⟩

end Structured

end DeclaredApi
