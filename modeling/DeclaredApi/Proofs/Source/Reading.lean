import DeclaredApi.Proofs.Result
import DeclaredApi.Proofs.Source.Written

/-
  Reading of the types that source files write.

  What reads a type node skips the children that are no
  parts of it, so a node that writes a type is read as the
  declared type of what it writes.

  Main declarations:
    * `SyntaxTree.eq_of_skips`
    * `SourceFile.segments_of_writesName`
    * `SourceFile.typeOf_of_writes`
-/

------------------------------------------------------------
-- Skipped Children
------------------------------------------------------------

namespace DeclaredApi

namespace SyntaxTree

/- What is no part is of none of the kinds of parts. -/
theorem kind_ne_of_not_isPart
    {t : SyntaxTree}
    (kind : String)
    (hPart : t.isPart = false)
    (hKind : kind ∈ partKinds) :
    t.kind ≠ kind := by
  rintro rfl
  simp [isPart, hKind] at hPart

/-
  A function of nodes only sees the parts among them if it
  skips what is no part and goes on after each node.
-/
theorem eq_of_skips
    {α : Type}
    {g : List SyntaxTree → α}
    (hSkip :
      ∀ t ts, t.isPart = false → g (t :: ts) = g ts)
    (hNext :
      ∀ t ts us, g ts = g us → g (t :: ts) = g (t :: us))
    (ts : List SyntaxTree) :
    g ts = g (ts.filter isPart) := by
  induction ts with
  | nil => rfl
  | cons t ts ih =>
      cases hPart : t.isPart with
      | true =>
          rw [List.filter_cons_of_pos hPart]
          exact hNext t _ _ ih
      | false =>
          rw [List.filter_cons_of_neg (by simp [hPart]),
            hSkip t ts hPart, ih]

end SyntaxTree

namespace SourceFile

open SyntaxTree

variable {f : SourceFile} {scope : List String}

theorem segmentsIn_parts
    (t : SyntaxTree) :
    f.segmentsIn t.children = f.segmentsIn t.parts := by
  apply eq_of_skips
  · intro c ts hPart
    have hWord := kind_ne_of_not_isPart "type_identifier" hPart
      (by decide)
    have hScoped := kind_ne_of_not_isPart
      "scoped_type_identifier" hPart (by decide)
    have hGeneric := kind_ne_of_not_isPart "generic_type" hPart
      (by decide)
    have hNone : f.segments c = .ok [] := by
      cases c
      simp_all [segments, kind]
    rw [segmentsIn, hNone]
    cases f.segmentsIn ts <;> rfl
  · intro c ts us hEq
    rw [segmentsIn, segmentsIn, hEq]

theorem ofKind?_parts
    {kinds : List String}
    (t : SyntaxTree)
    (hKinds : ∀ kind ∈ kinds, kind ∈ partKinds) :
    ofKind? kinds t.children = ofKind? kinds t.parts := by
  apply eq_of_skips
  · intro c ts hPart
    have hOther : c.kind ∉ kinds := fun hKind =>
      kind_ne_of_not_isPart _ hPart (hKinds _ hKind) rfl
    simp [ofKind?, hOther]
  · intro c ts us hEq
    unfold ofKind? at hEq ⊢
    rw [List.find?_cons, List.find?_cons, hEq]

theorem argumentsOf_parts
    (t : SyntaxTree) :
    f.argumentsOf scope t.children =
      f.argumentsOf scope t.parts := by
  apply eq_of_skips
  · intro c ts hPart
    have hKind := kind_ne_of_not_isPart "type_arguments" hPart
      (by decide)
    cases c
    simp_all [argumentsOf, kind]
  · intro c ts us hEq
    cases c
    rw [argumentsOf, argumentsOf, hEq]

theorem argumentsIn_parts
    (t : SyntaxTree) :
    f.argumentsIn scope t.children =
      f.argumentsIn scope t.parts := by
  apply eq_of_skips
  · intro c ts hPart
    have hWildcard := kind_ne_of_not_isPart "wildcard" hPart
      (by decide)
    have hType : c.kind ∉ Outline.typeKinds := fun hMem =>
      kind_ne_of_not_isPart _ hPart
        (List.mem_append_left _ hMem) rfl
    cases c
    simp_all [argumentsIn, kind]
  · intro c ts us hEq
    cases c
    rw [argumentsIn, argumentsIn, hEq]

theorem boundIn_parts
    (t : SyntaxTree)
    (keyword : Option String) :
    f.boundIn scope keyword t.children =
      f.boundIn scope keyword t.parts := by
  apply congrFun
    (eq_of_skips (g := fun ts k => f.boundIn scope k ts) _ _
      t.children) keyword
  · intro c ts hPart
    have hUpper := kind_ne_of_not_isPart "extends" hPart
      (by decide)
    have hLower := kind_ne_of_not_isPart "super" hPart
      (by decide)
    have hType : c.kind ∉ Outline.typeKinds := fun hMem =>
      kind_ne_of_not_isPart _ hPart
        (List.mem_append_left _ hMem) rfl
    funext k
    cases c
    simp_all [boundIn, kind]
  · intro c ts us hEq
    have hEach :
        ∀ k, f.boundIn scope k ts = f.boundIn scope k us :=
      congrFun hEq
    funext k
    cases c
    rw [boundIn, boundIn, hEach, hEach]

end SourceFile

end DeclaredApi

------------------------------------------------------------
-- Names
------------------------------------------------------------

namespace DeclaredApi

namespace SyntaxTree

variable {t : SyntaxTree}

/- A type is a named node of one of the kinds of types. -/
theorem isTypeChild_iff :
    Outline.isTypeChild t = true ↔
      t.isNamed = true ∧ t.kind ∈ Outline.typeKinds := by
  rw [Outline.isTypeChild, Bool.and_eq_true,
    List.contains_iff_mem]

theorem IsA.isTypeChild
    {kind : String}
    (hA : t.IsA kind)
    (hKind : kind ∈ Outline.typeKinds) :
    Outline.isTypeChild t = true := by
  rw [isTypeChild_iff, hA.2]
  exact ⟨hA.1, hKind⟩

end SyntaxTree

namespace SourceFile

open SyntaxTree

variable {f : SourceFile} {scope : List String}
variable {t : SyntaxTree}

/- A name node is of one of two kinds. -/
theorem isA_of_writesName
    {name : WrittenName}
    (hWrites : f.WritesName name t) :
    t.IsA "type_identifier" ∨ t.IsA "scoped_type_identifier" := by
  cases name with
  | simple word => exact Or.inl hWrites.1
  | inside outer word => exact Or.inr hWrites.1

theorem segments_of_writesWord
    {word : Identifier}
    (hWrites : f.WritesWord word t) :
    f.segments t = .ok [word.text] := by
  rcases hWrites with ⟨⟨hNamed, hKind⟩, hRead⟩
  cases t
  simp only [kind, isNamed] at hNamed hKind
  subst hNamed hKind
  simp [segments, hRead, bind, Except.bind, pure, Except.pure]

/- What holds a name is read as the words of its parts. -/
theorem segments_of_isA
    {kind : String}
    (hA : t.IsA kind)
    (hKind :
      kind ∈ ["scoped_type_identifier", "generic_type"]) :
    f.segments t = f.segmentsIn t.parts := by
  rw [← segmentsIn_parts]
  rcases hA with ⟨hNamed, rfl⟩
  cases t
  simp only [SyntaxTree.kind, isNamed, List.mem_cons,
    List.not_mem_nil, or_false] at hNamed hKind
  rcases hKind with hScoped | hGeneric
  · simp [segments, hNamed, hScoped, children]
  · simp [segments, hNamed, hGeneric, children]

/- The arguments of a name are skipped. -/
theorem segments_of_applies
    {name arguments : SyntaxTree}
    {words : List String}
    (hApplies : t.Applies name arguments)
    (hName : f.segments name = .ok words) :
    f.segments t = .ok words := by
  rcases hApplies with ⟨hGeneric, hKind, hParts⟩
  have hNone : f.segments arguments = .ok [] := by
    cases arguments
    simp only [kind] at hKind
    simp [segments, hKind]
  rw [segments_of_isA hGeneric (by decide), hParts]
  simp [segmentsIn, hName, hNone, bind, Except.bind, pure,
    Except.pure]

/- The words that a node writes are those of the name. -/
theorem segments_of_writesName
    {name : WrittenName}
    (hWrites : f.WritesName name t) :
    f.segments t = .ok (name.head :: name.tail) := by
  induction name generalizing t with
  | simple word => exact segments_of_writesWord hWrites
  | inside outer word ih =>
      rcases hWrites with
        ⟨hScoped, holder, last, hParts, hWord, name, hName,
          hHolder⟩
      have hOuter :
          f.segments holder = .ok (outer.head :: outer.tail) := by
        rcases hHolder with rfl | ⟨arguments, hApplies⟩
        · exact ih hName
        · exact segments_of_applies hApplies (ih hName)
      rw [segments_of_isA hScoped (by decide), hParts]
      simp [segmentsIn, hOuter, segments_of_writesWord hWord,
        bind, Except.bind, pure, Except.pure,
        WrittenName.head, WrittenName.tail]

/- A name with dots is qualified by its head. -/
theorem scopedName_of_writesName
    {outer : WrittenName}
    {word : Identifier}
    (hWrites : f.WritesName (.inside outer word) t) :
    f.scopedName t.children =
      .ok ((WrittenName.inside outer word).qualified f) := by
  have hWords := segments_of_writesName hWrites
  rw [segments_of_isA hWrites.1 (by decide)] at hWords
  rw [scopedName, segmentsIn_parts, hWords]
  rfl

/- The class of a generic type is the name in front. -/
theorem rawName_of_applies
    {name : WrittenName}
    {raw arguments : SyntaxTree}
    (hApplies : t.Applies raw arguments)
    (hName : f.WritesName name raw) :
    f.rawName t.children = .ok (name.qualified f) := by
  have hFirst :
      ofKind? ["type_identifier", "scoped_type_identifier"]
          t.children =
        some raw := by
    rw [ofKind?_parts t (by decide), hApplies.2.2]
    rcases isA_of_writesName hName with hA | hA
    · simp [ofKind?, hA.2]
    · simp [ofKind?, hA.2]
  rw [rawName, hFirst]
  cases name with
  | simple word =>
      simp only [hName.1.2, if_true, hName.2]
      rfl
  | inside outer word =>
      simp only [hName.1.2]
      exact scopedName_of_writesName hName

end SourceFile

end DeclaredApi

------------------------------------------------------------
-- Kinds of Types
------------------------------------------------------------

namespace DeclaredApi

namespace SourceFile

open SyntaxTree

variable {f : SourceFile} {scope : List String}
variable {t : SyntaxTree}

theorem typeOf_primitive
    (hKind : t.kind ∈ Outline.primitiveKinds) :
    f.typeOf scope t =
      (do
        let name ← f.read t
        pure (.ofName name)) := by
  cases t
  rw [kind] at hKind
  simp [typeOf, hKind]

theorem typeOf_identifier
    (hKind : t.kind = "type_identifier") :
    f.typeOf scope t =
      (do
        let name ← f.read t
        pure (f.nameType scope name)) := by
  cases t
  rw [kind] at hKind
  subst hKind
  simp [typeOf, Outline.primitiveKinds]

theorem typeOf_scoped
    (hKind : t.kind = "scoped_type_identifier") :
    f.typeOf scope t =
      (do
        let name ← f.scopedName t.children
        pure (.ofName name)) := by
  cases t
  rw [kind] at hKind
  subst hKind
  simp [typeOf, Outline.primitiveKinds, children]

theorem typeOf_generic
    (hKind : t.kind = "generic_type") :
    f.typeOf scope t =
      (do
        let name ← f.rawName t.children
        let arguments ← f.argumentsOf scope t.children
        pure (applied name arguments)) := by
  cases t
  rw [kind] at hKind
  subst hKind
  simp [typeOf, Outline.primitiveKinds, children]

theorem typeOf_array
    (hKind : t.kind = "array_type") :
    f.typeOf scope t =
      (do
        let element ← f.typeAt scope "element" t.children
        let dimensions ← f.dimensionsAt t.children
        pure (element.addDimensions dimensions)) := by
  cases t
  rw [kind] at hKind
  subst hKind
  simp [typeOf, Outline.primitiveKinds, children]

theorem typeOf_annotated
    (hKind : t.kind = "annotated_type") :
    f.typeOf scope t = f.lastType scope t.children := by
  cases t
  rw [kind] at hKind
  subst hKind
  simp [typeOf, Outline.primitiveKinds, children]

end SourceFile

end DeclaredApi

------------------------------------------------------------
-- Types
------------------------------------------------------------

namespace DeclaredApi

namespace SourceFile

open SyntaxTree

variable {f : SourceFile} {scope : List String}
variable {t : SyntaxTree}

/- A node that writes a type is a type. -/
theorem isTypeChild_of_writes
    {e : WrittenType}
    (hWrites : f.Writes e t) :
    Outline.isTypeChild t = true := by
  cases e with
  | primitive name known =>
      rcases hWrites with ⟨⟨kind, hKind, hA⟩, _⟩
      have hTypes :
          ∀ k ∈ Outline.primitiveKinds,
            k ∈ Outline.typeKinds := by
        decide
      exact hA.isTypeChild (hTypes kind hKind)
  | named name =>
      rcases isA_of_writesName hWrites with hA | hA
      · exact hA.isTypeChild (by decide)
      · exact hA.isTypeChild (by decide)
  | applied name first rest =>
      rcases hWrites with ⟨raw, list, u, us, hApplies, _⟩
      exact hApplies.1.isTypeChild (by decide)
  | array element dimensions =>
      exact hWrites.1.isTypeChild (by decide)
  | annotated type =>
      exact hWrites.1.isTypeChild (by decide)

/- The type in a field is the first child that fills it. -/
theorem typeAt_of_atField?
    {wanted : String}
    {ts : List SyntaxTree}
    (hFirst : atField? wanted ts = some t) :
    f.typeAt scope wanted ts = f.typeOf scope t := by
  induction ts with
  | nil => cases hFirst
  | cons u ts ih =>
      rw [atField?, List.find?_cons] at hFirst
      unfold typeAt
      by_cases hField : u.field = some wanted
      · simp only [hField, decide_true, Option.some.injEq]
          at hFirst
        rw [if_pos hField, hFirst]
      · simp only [hField, decide_false] at hFirst
        rw [if_neg hField]
        exact ih hFirst

/- The only type among nodes is the last one. -/
theorem lastType_of_filter
    {ts : List SyntaxTree}
    (hOnly : ts.filter Outline.isTypeChild = [t]) :
    f.lastType scope ts = f.typeOf scope t := by
  induction ts with
  | nil => cases hOnly
  | cons u ts ih =>
      cases hType : Outline.isTypeChild u with
      | true =>
          rw [List.filter_cons_of_pos hType] at hOnly
          injection hOnly with hHead hNone
          have hRest : ts.any Outline.isTypeChild = false := by
            simpa using hNone
          subst hHead
          simp [lastType, hRest, hType]
      | false =>
          rw [List.filter_cons_of_neg (by simp [hType])]
            at hOnly
          have hRest : ts.any Outline.isTypeChild = true := by
            have hMem : t ∈ ts.filter Outline.isTypeChild := by
              rw [hOnly]
              exact List.mem_singleton_self t
            exact List.any_eq_true.mpr
              ⟨t, List.mem_filter.mp hMem⟩
          rw [lastType, if_pos hRest]
          exact ih hOnly

/- Dimensions are counted by their opening brackets. -/
theorem count_of_isBrackets
    {dimensions : Nat}
    {text : String}
    (hBrackets : IsBrackets dimensions text) :
    text.toList.count '[' = dimensions := by
  have hMarks : !Text.isBlank '[' := by decide
  have hCount :
      ∀ n, (Name.brackets n).toList.count '[' = n := by
    intro n
    induction n with
    | zero => rfl
    | succ n ih =>
        rw [Name.brackets, String.toList_append,
          List.count_append, ih, Nat.add_comm]
        rfl
  rw [← List.count_filter
    (p := fun c => !Text.isBlank c) hMarks, hBrackets, hCount]

/- The type of an array is its element with dimensions. -/
theorem typeOf_of_writes_array
    {element : DeclaredType}
    {dimensions : Nat}
    {text : String}
    {inner marks : SyntaxTree}
    (hA : t.IsA "array_type")
    (hInner : t.childAt? "element" = some inner)
    (hElement : f.typeOf scope inner = .ok element)
    (hMarks : t.childAt? "dimensions" = some marks)
    (hText : f.read marks = .ok text)
    (hBrackets : IsBrackets dimensions text) :
    f.typeOf scope t =
      .ok (element.addDimensions dimensions) := by
  have hCount : f.dimensionsAt t.children = .ok dimensions := by
    rw [childAt?] at hMarks
    rw [dimensionsAt, hMarks, SourceText.countDimensions]
    rw [SourceFile.read] at hText
    rw [hText, ← count_of_isBrackets hBrackets]
    rfl
  rw [typeOf_array hA.2, typeAt_of_atField? hInner, hElement,
    hCount]
  rfl

/- A simple name in scope is read as a variable. -/
theorem typeOf_of_writesName
    {name : WrittenName}
    (hWrites : f.WritesName name t) :
    f.typeOf scope t =
      .ok ((WrittenType.named name).declared f scope) := by
  cases name with
  | simple word =>
      rw [typeOf_identifier hWrites.1.2, hWrites.2]
      rfl
  | inside outer word =>
      rw [typeOf_scoped hWrites.1.2,
        scopedName_of_writesName hWrites]
      rfl

/- The bound of a wildcard follows the keyword. -/
theorem boundIn_of_parts
    {relation : BoundRelation}
    {bound : WrittenType}
    {keyword inner : SyntaxTree}
    (hParts : t.parts = [keyword, inner])
    (hKeyword : keyword.kind = relation.word)
    (hType : Outline.isTypeChild inner = true)
    (hBound :
      f.typeOf scope inner = .ok (bound.declared f scope)) :
    f.boundIn scope none t.children =
      .ok ((WrittenArgument.bounded relation bound).declared
        f scope) := by
  rw [boundIn_parts, hParts]
  have hTypes :
      ∀ k ∈ Outline.typeKinds, k ≠ "extends" ∧ k ≠ "super" := by
    decide
  have hKind := (isTypeChild_iff.mp hType).2
  have hOther := hTypes _ hKind
  cases keyword
  cases inner
  simp only [SyntaxTree.kind] at hKeyword hKind hOther
  cases relation with
  | upper =>
      simp [boundIn, hKeyword, hKind, hOther, hBound, bind,
        Except.bind, pure, Except.pure, BoundRelation.word,
        WrittenArgument.declared, DeclaredType.boundedBy]
  | lower =>
      simp [boundIn, hKeyword, hKind, hOther, hBound, bind,
        Except.bind, pure, Except.pure, BoundRelation.word,
        WrittenArgument.declared, DeclaredType.boundedBy]

/- The only type below an annotated one is what it means. -/
theorem typeOf_of_annotated
    {inner : SyntaxTree}
    (hA : t.IsA "annotated_type")
    (hParts : t.parts = [inner])
    (hType : Outline.isTypeChild inner = true) :
    f.typeOf scope t = f.typeOf scope inner := by
  have hPart :
      ∀ c, Outline.isTypeChild c = true → c.isPart = true := by
    intro c hc
    simp [isPart, partKinds, (isTypeChild_iff.mp hc).2]
  have hOnly :
      t.children.filter Outline.isTypeChild = [inner] := by
    have hFilter :
        t.children.filter Outline.isTypeChild =
          t.parts.filter Outline.isTypeChild := by
      rw [parts, List.filter_filter]
      apply List.filter_congr
      intro c _
      cases hc : Outline.isTypeChild c with
      | true => rw [hPart c hc, Bool.true_and]
      | false => rw [Bool.false_and]
    rw [hFilter, hParts, List.filter_cons_of_pos hType,
      List.filter_nil]
  rw [typeOf_annotated hA.2, lastType_of_filter hOnly]

end SourceFile

end DeclaredApi

------------------------------------------------------------
-- Types and Arguments
------------------------------------------------------------

namespace DeclaredApi

namespace SourceFile

open SyntaxTree

variable {f : SourceFile} {scope : List String}
variable {t : SyntaxTree}

/- A node that writes the type is read as declared. -/
def ReadsType
    (f : SourceFile)
    (scope : List String)
    (e : WrittenType) : Prop :=
  ∀ t, f.Writes e t →
    f.typeOf scope t = .ok (e.declared f scope)

/- A node that writes the argument is read before others. -/
def ReadsArgument
    (f : SourceFile)
    (scope : List String)
    (a : WrittenArgument) : Prop :=
  ∀ t us types,
    f.WritesArgument a t →
      f.argumentsIn scope us = .ok types →
        f.argumentsIn scope (t :: us) =
          .ok (a.declared f scope :: types)

/- A type among arguments is read as a type. -/
theorem argumentsIn_type
    {us : List SyntaxTree}
    {type : DeclaredType}
    {types : List DeclaredType}
    (hType : Outline.isTypeChild t = true)
    (hRead : f.typeOf scope t = .ok type)
    (hRest : f.argumentsIn scope us = .ok types) :
    f.argumentsIn scope (t :: us) = .ok (type :: types) := by
  have hTypes : ∀ k ∈ Outline.typeKinds, k ≠ "wildcard" := by
    decide
  rcases isTypeChild_iff.mp hType with ⟨hNamed, hKind⟩
  have hOther := hTypes _ hKind
  cases t
  simp only [SyntaxTree.kind, isNamed] at hNamed hKind hOther
  subst hNamed
  simp [argumentsIn, hKind, hOther, hRead, hRest, bind,
    Except.bind, pure, Except.pure]

/- A wildcard among arguments is read by its bound. -/
theorem argumentsIn_wildcard
    {us : List SyntaxTree}
    {type : DeclaredType}
    {types : List DeclaredType}
    (hA : t.IsA "wildcard")
    (hRead : f.boundIn scope none t.children = .ok type)
    (hRest : f.argumentsIn scope us = .ok types) :
    f.argumentsIn scope (t :: us) = .ok (type :: types) := by
  rcases hA with ⟨hNamed, hKind⟩
  cases t
  simp only [SyntaxTree.kind, isNamed, children]
    at hNamed hKind hRead
  simp [argumentsIn, hNamed, hKind, hRead, hRest, bind,
    Except.bind, pure, Except.pure]

theorem argumentsIn_of_writesAll
    {rest : List WrittenArgument}
    {us : List SyntaxTree}
    (hEach : ∀ a ∈ rest, f.ReadsArgument scope a)
    (hWrites : f.WritesAll rest us) :
    f.argumentsIn scope us =
      .ok (WrittenArgument.declaredAll f scope rest) := by
  induction rest generalizing us with
  | nil =>
      rw [WritesAll] at hWrites
      rw [hWrites]
      rfl
  | cons a rest ih =>
      rw [List.forall_mem_cons] at hEach
      rcases hWrites with ⟨v, vs, rfl, hFirst, hRest⟩
      exact hEach.1 v vs _ hFirst (ih hEach.2 hRest)

/- A class is read with its arguments in order. -/
theorem typeOf_of_applies
    {name : WrittenName}
    {first : WrittenArgument}
    {rest : List WrittenArgument}
    (hEach : ∀ a ∈ first :: rest, f.ReadsArgument scope a)
    (hWrites : f.Writes (.applied name first rest) t) :
    f.typeOf scope t =
      .ok ((WrittenType.applied name first rest).declared
        f scope) := by
  rcases hWrites with
    ⟨raw, list, u, us, hApplies, hName, hList, hFirst, hRest⟩
  rw [List.forall_mem_cons] at hEach
  have hArguments :
      f.argumentsOf scope t.children =
        .ok (first.declared f scope ::
          WrittenArgument.declaredAll f scope rest) := by
    have hInside := hEach.1 u us _ hFirst
      (argumentsIn_of_writesAll hEach.2 hRest)
    rw [← hList, ← argumentsIn_parts] at hInside
    have hRaw : raw.kind ≠ "type_arguments" := by
      rcases isA_of_writesName hName with hA | hA
      · rw [hA.2]
        decide
      · rw [hA.2]
        decide
    have hKind := hApplies.2.1
    rw [argumentsOf_parts, hApplies.2.2]
    cases raw
    cases list
    simp only [SyntaxTree.kind] at hRaw hKind
    simp only [argumentsOf, hRaw, if_false, hKind, if_true]
    exact hInside
  rw [typeOf_generic hApplies.1.2,
    rawName_of_applies hApplies hName, hArguments]
  rfl

/-
  The induction is over what is written: a node is read by
  its parts, which write the parts of the type.
-/
theorem readsType_and_readsArgument :
    (∀ e, f.ReadsType scope e) ∧
      ∀ a, f.ReadsArgument scope a := by
  apply WrittenType.inductionOnParts
  case primitive =>
    intro name known t hWrites
    rcases hWrites with ⟨⟨kind, hKind, hA⟩, hRead⟩
    rw [← hA.2] at hKind
    rw [typeOf_primitive hKind, hRead]
    rfl
  case named =>
    intro name t hWrites
    exact typeOf_of_writesName hWrites
  case applied =>
    intro name first rest hEach t hWrites
    exact typeOf_of_applies hEach hWrites
  case array =>
    intro element dimensions hElement t hWrites
    rcases hWrites with
      ⟨hA, inner, marks, text, hInner, hWrites, hMarks, hText,
        hBrackets⟩
    exact typeOf_of_writes_array hA hInner
      (hElement inner hWrites) hMarks hText hBrackets
  case annotated =>
    intro e hType t hWrites
    rcases hWrites with ⟨hA, inner, hParts, hWrites⟩
    rw [typeOf_of_annotated hA hParts
      (isTypeChild_of_writes hWrites)]
    exact hType inner hWrites
  case type =>
    intro e hType t us types hWrites hRest
    exact argumentsIn_type (isTypeChild_of_writes hWrites)
      (hType t hWrites) hRest
  case anything =>
    intro t us types hWrites hRest
    apply argumentsIn_wildcard hWrites.1 _ hRest
    rw [boundIn_parts, hWrites.2]
    rfl
  case bounded =>
    intro relation bound hBound t us types hWrites hRest
    rcases hWrites with
      ⟨hA, keyword, inner, hParts, hKeyword, hWrites⟩
    exact argumentsIn_wildcard hA
      (boundIn_of_parts hParts hKeyword
        (isTypeChild_of_writes hWrites) (hBound inner hWrites))
      hRest

/- A node that writes a type is read as what it declares. -/
theorem typeOf_of_writes
    {e : WrittenType}
    (hWrites : f.Writes e t) :
    f.typeOf scope t = .ok (e.declared f scope) :=
  readsType_and_readsArgument.1 e t hWrites

end SourceFile

end DeclaredApi
