import DeclaredApi.Proofs.Name.Blanks
import DeclaredApi.Proofs.Structured.Projection
import DeclaredApi.Proofs.Structured.Soundness

/-
  Round trip of the structured form.

  The form of a well-formed reference is read back as the
  reference, at every path and whatever was interned before.
  A leaf is parsed as a text without nesting, which no limit
  refuses, and any other reference is put together again from
  the items below its keys.

  Main declarations:
    * `Structured.gives_readSignature`
    * `Structured.gives_readItems`
    * `Structured.readNode_namedFields`
    * `Structured.gives_readNode_form`
-/

------------------------------------------------------------
-- Texts of Leaves
------------------------------------------------------------

namespace DeclaredApi

namespace Structured

open Interner

variable {config : Config}
variable {inv : Interner → Prop}
variable {element : String}

/- A base without the mark of a wildcard is not the mark. -/
theorem trimBlanks_ne
    {base : String}
    (hMark : '?' ∉ base.toList) :
    Text.trimBlanks base ≠ "?" := by
  intro hTrim
  have hMem : '?' ∈ (Text.trimBlanks base).toList := by
    rw [hTrim]
    decide
  rw [Text.trimBlanks, String.toList_ofList] at hMem
  exact hMark (Text.mem_of_mem_trim hMem)

theorem trimBlanks_base_ne
    (dimensions : Nat)
    (hDotted : Name.isDotted element = true) :
    Text.trimBlanks (element ++ Name.brackets dimensions) ≠
      "?" :=
  trimBlanks_ne
    (Name.not_mem_base dimensions hDotted (by decide) (by decide))

/- A base is read as it is. -/
theorem readBase_base
    (path : String)
    (dimensions : Nat)
    (hDotted : Name.isDotted element = true) :
    readBase path (element ++ Name.brackets dimensions) =
      pure (element ++ Name.brackets dimensions) := by
  have hNoBlank :
      (element ++ Name.brackets dimensions).toList.filter
          (fun c => c != ' ') =
        (element ++ Name.brackets dimensions).toList := by
    rw [List.filter_eq_self]
    intro c hMem
    have hNe : c ≠ ' ' := by
      rintro rfl
      exact Name.not_mem_base dimensions hDotted (by decide)
        (by decide) hMem
    simpa using hNe
  unfold readBase
  simp only [Text.withoutSpaces, hNoBlank, String.ofList_toList,
    Name.isBase, Name.splitDimensions_append_brackets hDotted,
    hDotted, if_true]

/- A text that the grammar reads is read as a form. -/
theorem gives_readSignature
    {text : String}
    {r : TypeRef}
    (hKept : Kept config.rootObject inv)
    (hRead : readText config text = .ok r) :
    Action.Gives inv (.ok r) (readSignature config text) := by
  intro interner hInv
  have hParse := gives_parse hKept hRead interner hInv
  unfold readSignature
  revert hParse
  rcases parse config text interner with ⟨result, interner'⟩
  rintro ⟨hResult, hInv'⟩
  cases hResult
  exact ⟨rfl, hInv'⟩

/- A leaf is parsed within every limit. -/
theorem gives_readSignature_base
    (dimensions : Nat)
    (hKept : Kept config.rootObject inv)
    (hDotted : Name.isDotted element = true) :
    Action.Gives inv (.ok (.simple element dimensions []))
      (readSignature config
        (element ++ Name.brackets dimensions)) := by
  have hWellFormed :
      (TypeRef.simple element dimensions []).WellFormed := by
    rw [TypeRef.WellFormed]
    exact ⟨hDotted, fun _ => rfl, trivial⟩
  have hNesting :
      (TypeRef.simple element dimensions []).nesting ≤
        config.depthLimit := by
    rw [TypeRef.nesting]
    exact Nat.zero_le _
  have hSignature :
      Signature.read config.rootObject config.depthLimit
          ((TypeRef.simple element dimensions []).compact
            config.rootObject) =
        .ok (.simple element dimensions []) :=
    TypeRef.read_compact hWellFormed hNesting
  rw [TypeRef.compact] at hSignature
  have hRead :
      readText config (element ++ Name.brackets dimensions) =
        .ok (.simple element dimensions []) := by
    unfold readText
    rw [hSignature]
  exact gives_readSignature hKept hRead

end Structured

end DeclaredApi

------------------------------------------------------------
-- Objects and Nodes
------------------------------------------------------------

namespace DeclaredApi

namespace Structured

open Interner

variable {config : Config}
variable {inv : Interner → Prop}

/- Items are read as what each of them is read as. -/
theorem gives_readItems
    {items : List Json}
    {rs : List TypeRef}
    (path : String)
    (plain : Bool)
    (index : Nat)
    (hPlain : plain = true → ∀ r ∈ rs, r.isWildcard = false)
    (hEach :
      List.Forall₂
        (fun item r => ∀ path,
          Action.Gives inv (.ok r) (readNode config path item))
        items rs) :
    Action.Gives inv (.ok rs)
      (readItems config path plain index items) := by
  induction hEach generalizing index with
  | nil =>
      rw [readItems]
      exact Action.gives_pure []
  | @cons item r items rs hItem _ ih =>
      have hAllowed : ¬ (plain && r.isWildcard) = true := by
        cases plain with
        | false => simp
        | true => simp [hPlain rfl r List.mem_cons_self]
      have hRest :=
        ih (index + 1)
          (fun h s hs => hPlain h s (List.mem_cons_of_mem r hs))
      rw [readItems]
      apply (hItem _).bind_ok
      rw [if_neg hAllowed]
      exact hRest.bind_ok (Action.gives_pure (r :: rs))

theorem formAll_eq_map
    (rs : List TypeRef) :
    formAll rs = rs.map form := by
  induction rs with
  | nil => rfl
  | cons r rs ih => rw [formAll, ih, List.map_cons]

/- The forms of a list are read where each of them is. -/
theorem gives_readItems_formAll
    {rs : List TypeRef}
    (path : String)
    (plain : Bool)
    (index : Nat)
    (hPlain : plain = true → ∀ r ∈ rs, r.isWildcard = false)
    (hEach :
      ∀ r ∈ rs, ∀ path,
        Action.Gives inv (.ok r)
          (readNode config path (form r))) :
    Action.Gives inv (.ok rs)
      (readItems config path plain index (formAll rs)) := by
  apply gives_readItems path plain index hPlain
  rw [formAll_eq_map, List.forall₂_map_left_iff,
    List.forall₂_same]
  exact hEach

theorem lookup_base_namedFields
    (base : String)
    (arguments : List Json) :
    (namedFields base arguments).lookup baseKey =
      some (.str base) :=
  rfl

theorem present?_namedFields
    (base : String)
    (arguments : List Json) :
    present? parametersKey (namedFields base arguments) =
      some (.list arguments) :=
  rfl

/-
  Such an object is a named type, which the base and its
  arguments make.
-/
theorem readNode_namedFields
    {base : String}
    {arguments : List Json}
    (path : String)
    (hMark : Text.trimBlanks base ≠ "?") :
    readNode config path (.object (namedFields base arguments)) =
      (do
        let name ← readBase path base
        if !arguments.isEmpty && Name.isPrimitiveFamily name then
          refuse path parametersKey
            "absent for primitive types" (.list arguments)
        else do
          let rs ←
            readItems config (keyPath path parametersKey) false 0
              arguments
          internRead config (TypeRef.ofBase name rs)) := by
  have hGeneric :
      checkGeneric path (namedFields base arguments) = pure () :=
    rfl
  have hOther :
      refuseWildcardKeys path (namedFields base arguments) =
        pure () :=
    rfl
  rw [readNode, lookup_base_namedFields]
  simp only
  rw [hGeneric, pure_bind,
    if_neg (by simp [namedFields, baseKey, parametersKey]),
    if_neg hMark, namedOf]
  apply bind_congr
  intro name
  rw [hOther, pure_bind, present?_namedFields]
  simp only
  rw [readListAt_of_present path false (present?_namedFields _ _)]

theorem lookup_base_wildcardFields
    (relation : BoundRelation)
    (bounds : List Json) :
    (wildcardFields relation bounds).lookup baseKey =
      some (.str "?") :=
  rfl

theorem present?_wildcardFields
    (relation : BoundRelation)
    (bounds : List Json) :
    present? boundsKey (wildcardFields relation bounds) =
      some (.list bounds) :=
  rfl

/- The direction of the bounds is read back. -/
theorem readRelation_wildcardFields
    (path : String)
    (relation : BoundRelation)
    (bounds : List Json) :
    readRelation path (wildcardFields relation bounds) =
      pure relation := by
  have hLookup :
      (wildcardFields relation bounds).lookup relationKey =
        some (.str relation.word) :=
    rfl
  rw [readRelation, hLookup]
  simp only [TypeRef.ofWord?_word]

/- The form of a named type with arguments is read back. -/
theorem gives_readNode_named
    {element : String}
    {a : TypeRef}
    {as : List TypeRef}
    (dimensions : Nat)
    (path : String)
    (hKept : Kept config.rootObject inv)
    (hWellFormed :
      (TypeRef.simple element dimensions (a :: as)).WellFormed)
    (hEach :
      ∀ r ∈ a :: as, ∀ path,
        Action.Gives inv (.ok r)
          (readNode config path (form r))) :
    Action.Gives inv (.ok (.simple element dimensions (a :: as)))
      (readNode config path
        (form (.simple element dimensions (a :: as)))) := by
  have hParts := hWellFormed
  rw [TypeRef.WellFormed] at hParts
  rcases hParts with ⟨hDotted, hPrimitive, _⟩
  have hAllowed :
      ¬ (!(formAll (a :: as)).isEmpty &&
        Name.isPrimitiveFamily
          (element ++ Name.brackets dimensions)) = true := by
    rw [Name.isPrimitiveFamily,
      Name.splitDimensions_append_brackets hDotted]
    cases hName : Name.isPrimitive element with
    | false => simp
    | true => cases hPrimitive hName
  have hBuilt :=
    TypeRef.ofBase_of_isDotted dimensions hDotted hPrimitive
  have hArguments :=
    gives_readItems_formAll (keyPath path parametersKey) false 0
      (fun h => absurd h Bool.false_ne_true) hEach
  rw [form, readNode_namedFields path
      (trimBlanks_base_ne dimensions hDotted),
    readBase_base path dimensions hDotted, pure_bind,
    if_neg hAllowed]
  exact hArguments.bind_ok
    (gives_internRead hKept hBuilt hWellFormed)

/- The form of a wildcard is read back. -/
theorem gives_readNode_wildcard
    {bounds : List TypeRef}
    (relation : BoundRelation)
    (path : String)
    (hKept : Kept config.rootObject inv)
    (hWellFormed :
      (TypeRef.wildcard relation bounds).WellFormed)
    (hEach :
      ∀ r ∈ bounds, ∀ path,
        Action.Gives inv (.ok r)
          (readNode config path (form r))) :
    Action.Gives inv (.ok (.wildcard relation bounds))
      (readNode config path
        (form (.wildcard relation bounds))) := by
  have hParts := hWellFormed
  rw [TypeRef.WellFormed] at hParts
  rcases hParts with ⟨hSome, hPlain, _⟩
  have hBounds :=
    gives_readItems_formAll (keyPath path boundsKey) true 0
      (fun _ => hPlain) hEach
  rw [form, readNode, lookup_base_wildcardFields]
  apply (Action.gives_pure ()).bind_ok
  rw [if_neg (by simp [wildcardFields, baseKey, genericKey]),
    if_pos (by decide), wildcardOf]
  apply (Action.gives_pure ()).bind_ok
  rw [readRelation_wildcardFields]
  apply (Action.gives_pure relation).bind_ok
  rw [present?_wildcardFields]
  cases bounds with
  | nil => exact absurd rfl hSome
  | cons b bs =>
      rw [formAll]
      simp only
      rw [readListAt_of_present path true
        (present?_wildcardFields _ _)]
      have hBuilt :
          TypeRef.ofBounds relation (b :: bs) =
            .ok (.wildcard relation (b :: bs)) :=
        TypeRef.ofBounds_eq_ok_iff.mpr ⟨hSome, hPlain, rfl⟩
      exact hBounds.bind_ok
        (gives_internRead hKept hBuilt hWellFormed)

/-
  The structured form of a well-formed reference is read back
  as the reference.
-/
theorem gives_readNode_form
    {r : TypeRef}
    (path : String)
    (hKept : Kept config.rootObject inv)
    (hWellFormed : r.WellFormed) :
    Action.Gives inv (.ok r)
      (readNode config path (form r)) := by
  induction r generalizing path with
  | simple element dimensions arguments ih =>
      have hParts := hWellFormed
      rw [TypeRef.WellFormed, TypeRef.allWellFormed_iff]
        at hParts
      cases arguments with
      | nil =>
          rw [form, readNode]
          exact gives_readSignature_base dimensions hKept
            hParts.1
      | cons a as =>
          exact gives_readNode_named dimensions path hKept
            hWellFormed
            (fun b hb path => ih b hb path (hParts.2.2 b hb))
  | wildcard relation bounds ih =>
      have hParts := hWellFormed
      rw [TypeRef.WellFormed, TypeRef.allWellFormed_iff]
        at hParts
      exact gives_readNode_wildcard relation path hKept
        hWellFormed
        (fun b hb path => ih b hb path (hParts.2.2 b hb))

end Structured

end DeclaredApi
