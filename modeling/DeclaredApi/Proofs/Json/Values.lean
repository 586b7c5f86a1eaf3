import DeclaredApi.Proofs.Json.KeyOrder
import DeclaredApi.Proofs.Json.Numbers

/-
  Values read back from their texts.

  The reader takes each value of JSON from its indented text
  at every level, if its integers are short enough.  Spaces
  between the parts are passed over; lists and objects are
  read item by item, up to the closing bracket.

  Main declarations:
    * `Json.ReadsBack`
    * `Json.takes_items`
    * `Json.takes_fields`
    * `Json.readsBack_list`
    * `Json.readsBack_object`
    * `Json.readsBack_of_plain`
-/

------------------------------------------------------------
-- Spaces
------------------------------------------------------------

namespace DeclaredApi

namespace Json

variable {rest : List Char}

/- A value, a key or a bracket starts here. -/
def Starts (rest : List Char) : Prop :=
  ∃ c cs, rest = c :: cs ∧ Cursor.isSpace c = false

theorem Starts.append
    {text : List Char}
    (hStarts : Starts text)
    (rest : List Char) :
    Starts (text ++ rest) := by
  rcases hStarts with ⟨c, cs, rfl, hSpace⟩
  exact ⟨c, cs ++ rest, rfl, hSpace⟩

theorem skipSpaces_of_starts
    (position : Nat)
    (hStarts : Starts rest) :
    Cursor.skipSpaces ⟨position, rest⟩ = ⟨position, rest⟩ := by
  rcases hStarts with ⟨c, cs, rfl, hSpace⟩
  simp [Cursor.skipSpaces, Cursor.skipFrom, hSpace]

/- Spaces of a new line are passed over. -/
theorem skipSpaces_lineBreak
    (level position : Nat)
    (hStarts : Starts rest) :
    ∃ stop,
      Cursor.skipSpaces
          ⟨position, (lineBreak level).toList ++ rest⟩ =
        ⟨stop, rest⟩ := by
  have hBlanks :
      ∀ count position,
        ∃ stop,
          Cursor.skipSpaces
              ⟨position, List.replicate count ' ' ++ rest⟩ =
            ⟨stop, rest⟩ := by
    intro count
    induction count with
    | zero =>
        exact fun position =>
          ⟨position, skipSpaces_of_starts position hStarts⟩
    | succ count ih => exact fun position => ih (position + 1)
  rw [lineBreak, String.toList_ofList]
  exact hBlanks (2 * level) (position + 1)

end Json

end DeclaredApi

------------------------------------------------------------
-- Items and Fields
------------------------------------------------------------

namespace DeclaredApi

namespace Json

/- The text of a field. -/
def fieldText
    (level : Nat)
    (key : String)
    (value : Json) : List Char :=
  (encodeText key).toList ++
    ':' :: ' ' :: (prettyAt level value).toList

/- A value is read from its text at every level. -/
def ReadsBack (value : Json) : Prop :=
  ∀ level fuel rest,
    Ends rest →
      2 * (prettyAt level value).toList.length < fuel →
        Takes (readValue fuel) (prettyAt level value).toList
          value rest

theorem toList_prettyAt_nil (level : Nat) :
    (prettyAt level (.list [])).toList = ['[', ']'] := by
  simp [prettyAt]

theorem toList_prettyAt_empty (level : Nat) :
    (prettyAt level (.object [])).toList =
      ['\x7b', '\x7d'] := by
  simp [prettyAt]

/- The text of a list that is not empty. -/
theorem toList_prettyAt_list
    (level : Nat)
    (item : Json)
    (items : List Json) :
    (prettyAt level (.list (item :: items))).toList =
      '[' :: ((lineBreak (level + 1)).toList ++
        ((prettyAt (level + 1) item).toList ++
          ((prettyItems (level + 1) items).toList ++
            ((lineBreak level).toList ++ [']'])))) := by
  simp only [prettyAt, String.toList_append, List.append_assoc]
  rfl

/- The text of an object that is not empty. -/
theorem toList_prettyAt_object
    (level : Nat)
    (key : String)
    (value : Json)
    (fields : List (String × Json)) :
    (prettyAt level (.object ((key, value) :: fields))).toList =
      '\x7b' :: ((lineBreak (level + 1)).toList ++
        (fieldText (level + 1) key value ++
          ((prettyFields (level + 1) fields).toList ++
            ((lineBreak level).toList ++ ['\x7d'])))) := by
  simp only [prettyAt, fieldText, String.toList_append,
    List.append_assoc]
  rfl

theorem toList_prettyAt_object_eq_cons
    (level : Nat)
    (fields : List (String × Json)) :
    ∃ cs, (prettyAt level (.object fields)).toList =
      '\x7b' :: cs := by
  cases fields with
  | nil => exact ⟨['\x7d'], toList_prettyAt_empty level⟩
  | cons field fields =>
      exact ⟨_,
        toList_prettyAt_object level field.1 field.2 fields⟩

theorem isSpace_of_isDigit
    {c : Char}
    (hDigit : c.isDigit = true) :
    Cursor.isSpace c = false := by
  have hOther :
      ∀ d, d.isDigit = false → ¬ c = d := by
    rintro d hSpace rfl
    rw [hSpace] at hDigit
    cases hDigit
  simp only [Cursor.isSpace, hOther ' ' rfl, hOther '\t' rfl,
    hOther '\n' rfl, hOther '\r' rfl, decide_false,
    Bool.or_self]

/- A value starts with no space and no closing bracket. -/
theorem toList_prettyAt_eq_cons
    {value : Json}
    (hPlain : value.Plain)
    (level : Nat) :
    ∃ c cs,
      (prettyAt level value).toList = c :: cs ∧
        Cursor.isSpace c = false ∧ c ≠ ']' := by
  cases hPlain with
  | null =>
      exact ⟨'n', ['u', 'l', 'l'], by simp [prettyAt], rfl,
        by decide⟩
  | bool value =>
      cases value with
      | false =>
          exact ⟨'f', ['a', 'l', 's', 'e'], by simp [prettyAt],
            rfl, by decide⟩
      | true =>
          exact ⟨'t', ['r', 'u', 'e'], by simp [prettyAt], rfl,
            by decide⟩
  | int value =>
      rcases toList_toString_eq_cons value with
        ⟨c, cs, hText, rfl | hDigit⟩
      · exact ⟨'-', cs, hText, rfl, by decide⟩
      · refine ⟨c, cs, hText, ?_, ?_⟩
        · exact isSpace_of_isDigit hDigit
        · rintro rfl
          cases hDigit
  | str value =>
      exact ⟨'"', _, toList_encodeText value, rfl, by decide⟩
  | list items _ =>
      cases items with
      | nil =>
          exact ⟨'[', [']'], toList_prettyAt_nil level, rfl,
            by decide⟩
      | cons item items =>
          exact ⟨'[', _, toList_prettyAt_list level item items,
            rfl, by decide⟩
  | object fields _ _ =>
      rcases toList_prettyAt_object_eq_cons level fields with
        ⟨cs, hText⟩
      exact ⟨'\x7b', cs, hText, rfl, by decide⟩

theorem starts_prettyAt
    {value : Json}
    (hPlain : value.Plain)
    (level : Nat) :
    Starts (prettyAt level value).toList := by
  rcases toList_prettyAt_eq_cons hPlain level with
    ⟨c, cs, hText, hSpace, _⟩
  exact ⟨c, cs, hText, hSpace⟩

/- An item after the first stands behind a comma. -/
theorem toList_prettyItems_cons
    (level : Nat)
    (item : Json)
    (items : List Json) :
    (prettyItems level (item :: items)).toList =
      ',' :: ((lineBreak level).toList ++
        ((prettyAt level item).toList ++
          (prettyItems level items).toList)) := by
  simp only [prettyItems, String.toList_append,
    List.append_assoc]
  rfl

/- The last item stands before the closing bracket. -/
theorem readItems_of_last
    {c after : Cursor}
    {item : Json}
    {fuel stop : Nat}
    {rest : List Char}
    (hItem : readValue fuel c = .ok (item, after))
    (hClose : after.skipSpaces = ⟨stop, ']' :: rest⟩) :
    readItems (fuel + 1) c = .ok ([item], ⟨stop + 1, rest⟩) := by
  rw [readItems]
  refine Result.bind_eq_ok_iff.mpr ⟨_, hItem, ?_⟩
  simp only [hClose]
  rfl

/- A comma stands between an item and the next ones. -/
theorem readItems_of_comma
    {c after last : Cursor}
    {item : Json}
    {items : List Json}
    {fuel stop : Nat}
    {rest : List Char}
    (hItem : readValue fuel c = .ok (item, after))
    (hComma : after.skipSpaces = ⟨stop, ',' :: rest⟩)
    (hRest :
      readItems fuel (Cursor.skipSpaces ⟨stop + 1, rest⟩) =
        .ok (items, last)) :
    readItems (fuel + 1) c = .ok (item :: items, last) := by
  rw [readItems]
  refine Result.bind_eq_ok_iff.mpr ⟨_, hItem, ?_⟩
  simp only [hComma]
  exact Result.bind_eq_ok_iff.mpr ⟨_, hRest, rfl⟩

/- The items of a list are read up to its closing bracket. -/
theorem takes_items
    {item : Json}
    {items : List Json}
    {level fuel : Nat}
    (outer position : Nat)
    (rest : List Char)
    (hPlain : ∀ v ∈ item :: items, v.Plain)
    (hReads : ∀ v ∈ item :: items, v.ReadsBack)
    (hFuel :
      2 * ((prettyAt level item).toList.length +
        (prettyItems level items).toList.length) + 1 < fuel) :
    ∃ stop,
      readItems fuel
          ⟨position, (prettyAt level item).toList ++
            ((prettyItems level items).toList ++
              ((lineBreak outer).toList ++ ']' :: rest))⟩ =
        .ok (item :: items, ⟨stop, rest⟩) := by
  induction items generalizing item fuel position with
  | nil =>
      cases fuel with
      | zero => exact absurd hFuel (Nat.not_lt_zero _)
      | succ fuel =>
          have hItem := hReads item List.mem_cons_self level fuel
            ((lineBreak outer).toList ++ ']' :: rest)
            (by simp [lineBreak, ends_line]) (by omega)
          rcases hItem position with ⟨middle, hItem⟩
          rcases skipSpaces_lineBreak outer middle
            ⟨']', rest, rfl, rfl⟩ with ⟨stop, hClose⟩
          exact ⟨stop + 1, readItems_of_last hItem hClose⟩
  | cons next items ih =>
      cases fuel with
      | zero => exact absurd hFuel (Nat.not_lt_zero _)
      | succ fuel =>
          rw [List.forall_mem_cons] at hPlain hReads
          rw [toList_prettyItems_cons] at hFuel ⊢
          simp only [List.length_cons, List.length_append]
            at hFuel
          simp only [List.cons_append, List.append_assoc]
          rcases hReads.1 level fuel _ (ends_comma _) (by omega)
            position with
            ⟨middle, hItem⟩
          have hNext : Starts (prettyAt level next).toList :=
            starts_prettyAt (hPlain.2 next List.mem_cons_self)
              level
          rcases skipSpaces_lineBreak level (middle + 1)
            (hNext.append _) with
            ⟨start, hNext⟩
          have hLess :
              2 * ((prettyAt level next).toList.length +
                (prettyItems level items).toList.length) + 1 <
                fuel := by
            omega
          rcases ih start hPlain.2 hReads.2 hLess with
            ⟨stop, hRest⟩
          exact ⟨stop, readItems_of_comma hItem
            (skipSpaces_of_starts middle ⟨',', _, rfl, rfl⟩)
            ((congrArg (readItems fuel) hNext).trans hRest)⟩

/- A field after the first stands behind a comma. -/
theorem toList_prettyFields_cons
    (level : Nat)
    (key : String)
    (value : Json)
    (fields : List (String × Json)) :
    (prettyFields level ((key, value) :: fields)).toList =
      ',' :: ((lineBreak level).toList ++
        (fieldText level key value ++
          (prettyFields level fields).toList)) := by
  simp only [prettyFields, fieldText, String.toList_append,
    List.append_assoc]
  rfl

/- The key of a field, a colon and a value are read. -/
structure ReadsField
    (fuel : Nat)
    (c : Cursor)
    (key : String)
    (value : Json)
    (after : Cursor) : Prop where
  quoted : c.peek? = some '"'
  reads :
    ∃ position rest,
      readText c = .ok (key, ⟨position, ':' :: ' ' :: rest⟩) ∧
        Starts rest ∧
          readValue fuel ⟨position + 2, rest⟩ =
            .ok (value, after)

/- The value of a field is read behind its key and a colon. -/
theorem readFields_of_key
    {c : Cursor}
    {key : String}
    {position : Nat}
    {rest : List Char}
    (fuel : Nat)
    (hQuote : c.peek? = some '"')
    (hKey :
      readText c = .ok (key, ⟨position, ':' :: ' ' :: rest⟩))
    (hStarts : Starts rest) :
    readFields (fuel + 1) c = (do
      let (value, after) ← readValue fuel ⟨position + 2, rest⟩
      let next := after.skipSpaces
      match next.peek? with
      | some '\x7d' => pure ([(key, value)], next.advance 1)
      | some ',' =>
          let (fields, last) ←
            readFields fuel (next.advance 1).skipSpaces
          pure ((key, value) :: fields, last)
      | _ => next.fail .expectedComma) := by
  rw [Cursor.peek?] at hQuote
  have hSpaces :
      (Cursor.advance ⟨position, ':' :: ' ' :: rest⟩
          1).skipSpaces =
        ⟨position + 2, rest⟩ :=
    skipSpaces_of_starts (position + 2) hStarts
  have hColon :
      Cursor.skipSpaces ⟨position, ':' :: ' ' :: rest⟩ =
        ⟨position, ':' :: ' ' :: rest⟩ := rfl
  conv_lhs =>
    simp only [readFields, hQuote, hKey, hColon, hSpaces, bind,
      Except.bind, Cursor.peek?, List.head?_cons, ne_eq,
      not_true_eq_false, if_false]
  rfl

/- What follows a field is read when the field is. -/
theorem ReadsField.readFields_eq
    {c after : Cursor}
    {key : String}
    {value : Json}
    {fuel : Nat}
    (hField : ReadsField fuel c key value after) :
    readFields (fuel + 1) c =
      match after.skipSpaces.peek? with
      | some '\x7d' =>
          pure ([(key, value)], after.skipSpaces.advance 1)
      | some ',' => do
          let (fields, last) ←
            readFields fuel
              (after.skipSpaces.advance 1).skipSpaces
          pure ((key, value) :: fields, last)
      | _ => after.skipSpaces.fail .expectedComma := by
  rcases hField with
    ⟨hQuote, position, rest, hKey, hStarts, hValue⟩
  rw [readFields_of_key fuel hQuote hKey hStarts, hValue]
  rfl

/- The last field stands before the closing brace. -/
theorem ReadsField.readFields_last
    {c after : Cursor}
    {key : String}
    {value : Json}
    {fuel stop : Nat}
    {rest : List Char}
    (hField : ReadsField fuel c key value after)
    (hClose : after.skipSpaces = ⟨stop, '\x7d' :: rest⟩) :
    readFields (fuel + 1) c =
      .ok ([(key, value)], ⟨stop + 1, rest⟩) := by
  rw [hField.readFields_eq, hClose]
  rfl

/- A comma stands between a field and the next ones. -/
theorem ReadsField.readFields_comma
    {c after last : Cursor}
    {key : String}
    {value : Json}
    {fields : List (String × Json)}
    {fuel stop : Nat}
    {rest : List Char}
    (hField : ReadsField fuel c key value after)
    (hComma : after.skipSpaces = ⟨stop, ',' :: rest⟩)
    (hRest :
      readFields fuel (Cursor.skipSpaces ⟨stop + 1, rest⟩) =
        .ok (fields, last)) :
    readFields (fuel + 1) c =
      .ok ((key, value) :: fields, last) := by
  rw [hField.readFields_eq, hComma]
  exact Result.bind_eq_ok_iff.mpr ⟨_, hRest, rfl⟩

/- A field is read from its text. -/
theorem readsField_fieldText
    {key : String}
    {value : Json}
    {level fuel : Nat}
    {rest : List Char}
    (position : Nat)
    (hPlain : value.Plain)
    (hReads : value.ReadsBack)
    (hEnds : Ends rest)
    (hFuel : 2 * (fieldText level key value).length < fuel) :
    ∃ stop,
      ReadsField fuel
        ⟨position, fieldText level key value ++ rest⟩
        key value ⟨stop, rest⟩ := by
  rw [fieldText, List.length_append, List.length_cons,
    List.length_cons] at hFuel
  rw [fieldText, List.append_assoc]
  rcases takes_encodeText key _ position with ⟨colon, hKey⟩
  rcases hReads level fuel rest hEnds (by omega) (colon + 2) with
    ⟨stop, hValue⟩
  refine ⟨stop, ?_, colon, _, hKey, ?_, hValue⟩
  · rw [toList_encodeText]
    rfl
  · exact (starts_prettyAt hPlain level).append rest

/- A field starts with a quote. -/
theorem starts_fieldText
    (level : Nat)
    (key : String)
    (value : Json) :
    Starts (fieldText level key value) := by
  rw [fieldText, toList_encodeText]
  exact ⟨'"', _, rfl, rfl⟩

theorem peek?_fieldText
    (position level : Nat)
    (key : String)
    (value : Json)
    (rest : List Char) :
    Cursor.peek? ⟨position, fieldText level key value ++ rest⟩ ≠
      some '\x7d' := by
  rw [fieldText, toList_encodeText]
  exact fun hSame =>
    absurd (Option.some.inj hSame) (by decide)

/- The fields of an object are read up to its closing brace. -/
theorem takes_fields
    {key : String}
    {value : Json}
    {fields : List (String × Json)}
    {level fuel : Nat}
    (outer position : Nat)
    (rest : List Char)
    (hPlain : ∀ f ∈ (key, value) :: fields, f.2.Plain)
    (hReads : ∀ f ∈ (key, value) :: fields, f.2.ReadsBack)
    (hFuel :
      2 * ((fieldText level key value).length +
        (prettyFields level fields).toList.length) + 1 < fuel) :
    ∃ stop,
      readFields fuel
          ⟨position, fieldText level key value ++
            ((prettyFields level fields).toList ++
              ((lineBreak outer).toList ++ '\x7d' :: rest))⟩ =
        .ok ((key, value) :: fields, ⟨stop, rest⟩) := by
  induction fields generalizing key value fuel position with
  | nil =>
      cases fuel with
      | zero => exact absurd hFuel (Nat.not_lt_zero _)
      | succ fuel =>
          rw [List.forall_mem_cons] at hPlain hReads
          have hEnds :
              Ends ((prettyFields level []).toList ++
                ((lineBreak outer).toList ++ '\x7d' :: rest)) := by
            simp [prettyFields, lineBreak, ends_line]
          have hEnough :
              2 * (fieldText level key value).length < fuel := by
            omega
          rcases readsField_fieldText position hPlain.1 hReads.1
            hEnds hEnough with ⟨middle, hField⟩
          rcases skipSpaces_lineBreak outer middle
            ⟨'\x7d', rest, rfl, rfl⟩ with ⟨stop, hClose⟩
          exact ⟨stop + 1, hField.readFields_last hClose⟩
  | cons next fields ih =>
      cases fuel with
      | zero => exact absurd hFuel (Nat.not_lt_zero _)
      | succ fuel =>
          rcases next with ⟨nextKey, nextValue⟩
          rw [List.forall_mem_cons] at hPlain hReads
          rw [toList_prettyFields_cons] at hFuel ⊢
          simp only [List.length_cons, List.length_append]
            at hFuel
          simp only [List.cons_append, List.append_assoc]
          have hEnough :
              2 * (fieldText level key value).length < fuel := by
            omega
          rcases readsField_fieldText position hPlain.1 hReads.1
            (ends_comma _) hEnough with ⟨middle, hField⟩
          rcases skipSpaces_lineBreak level (middle + 1)
            ((starts_fieldText level nextKey nextValue).append _)
            with ⟨start, hNext⟩
          have hLess :
              2 * ((fieldText level nextKey nextValue).length +
                (prettyFields level fields).toList.length) + 1 <
                fuel := by
            omega
          rcases ih start hPlain.2 hReads.2 hLess with
            ⟨stop, hRest⟩
          exact ⟨stop, hField.readFields_comma
            (skipSpaces_of_starts middle ⟨',', _, rfl, rfl⟩)
            ((congrArg (readFields fuel) hNext).trans hRest)⟩

end Json

end DeclaredApi

------------------------------------------------------------
-- Values
------------------------------------------------------------

namespace DeclaredApi

namespace Json

/- A text starts with no mark of a text, object or list. -/
def Unmarked (text : List Char) : Prop :=
  ∃ c cs, text = c :: cs ∧ c ≠ '"' ∧ c ≠ '\x7b' ∧ c ≠ '['

theorem readValue_of_unmarked
    {text : List Char}
    (fuel position : Nat)
    (rest : List Char)
    (hUnmarked : Unmarked text) :
    readValue (fuel + 1) ⟨position, text ++ rest⟩ =
      match namedValue? ⟨position, text ++ rest⟩ with
      | some (value, size) =>
          .ok (value,
            Cursor.advance ⟨position, text ++ rest⟩ size)
      | none => readNumber ⟨position, text ++ rest⟩ := by
  rcases hUnmarked with ⟨c, cs, rfl, hText, hObject, hList⟩
  rw [readValue]
  split
  · next hMark => exact absurd (Option.some.inj hMark) hText
  · next hMark => exact absurd (Option.some.inj hMark) hObject
  · next hMark => exact absurd (Option.some.inj hMark) hList
  · rfl

/- A value with a name is read from its name. -/
theorem readsBack_of_name
    {value : Json}
    {name : String}
    (hText : ∀ level, prettyAt level value = name)
    (hUnmarked : Unmarked name.toList)
    (hNamed :
      ∀ position rest,
        namedValue? ⟨position, name.toList ++ rest⟩ =
          some (value, name.length)) :
    ReadsBack value := by
  intro level fuel rest _ hFuel position
  cases fuel with
  | zero => exact absurd hFuel (Nat.not_lt_zero _)
  | succ fuel =>
      refine ⟨position + name.length, ?_⟩
      rw [hText, readValue_of_unmarked fuel position rest
        hUnmarked, hNamed]
      simp only [Cursor.advance, ← String.length_toList,
        List.drop_left]

theorem readsBack_null : ReadsBack .null :=
  readsBack_of_name (fun _ => rfl)
    ⟨'n', ['u', 'l', 'l'], rfl, by decide⟩
    (fun position rest => by simp [namedValue?, namedValues])

theorem readsBack_bool (value : Bool) :
    ReadsBack (.bool value) := by
  cases value with
  | false =>
      exact readsBack_of_name (fun _ => rfl)
        ⟨'f', ['a', 'l', 's', 'e'], rfl, by decide⟩
        (fun position rest => by simp [namedValue?, namedValues])
  | true =>
      exact readsBack_of_name (fun _ => rfl)
        ⟨'t', ['r', 'u', 'e'], rfl, by decide⟩
        (fun position rest => by simp [namedValue?, namedValues])

theorem unmarked_toString (n : Int) :
    Unmarked (toString n).toList := by
  rcases toList_toString_eq_cons n with
    ⟨c, cs, hText, rfl | hDigit⟩
  · exact ⟨'-', cs, hText, by decide⟩
  · refine ⟨c, cs, hText, ?_, ?_, ?_⟩
    all_goals
      rintro rfl
      cases hDigit

theorem readsBack_int
    {value : Int}
    (hShort : value.natAbs < 10 ^ digitLimit) :
    ReadsBack (.int value) := by
  intro level fuel rest hEnds hFuel position
  cases fuel with
  | zero => exact absurd hFuel (Nat.not_lt_zero _)
  | succ fuel =>
      rcases takes_toString hShort hEnds position with
        ⟨stop, hNumber⟩
      refine ⟨stop, ?_⟩
      rw [prettyAt, readValue_of_unmarked fuel position rest
        (unmarked_toString value), namedValue?_toString]
      exact hNumber

theorem readsBack_str (value : String) :
    ReadsBack (.str value) := by
  intro level fuel rest _ hFuel position
  cases fuel with
  | zero => exact absurd hFuel (Nat.not_lt_zero _)
  | succ fuel =>
      rcases takes_encodeText value rest position with
        ⟨stop, hText⟩
      refine ⟨stop, ?_⟩
      have hQuote :
          Cursor.peek?
              ⟨position, (encodeText value).toList ++ rest⟩ =
            some '"' := by
        rw [toList_encodeText]
        rfl
      rw [prettyAt, readValue]
      simp only [hQuote]
      exact Result.bind_eq_ok_iff.mpr ⟨_, hText, rfl⟩

theorem readValue_of_items
    {c inside after : Cursor}
    {items : List Json}
    {fuel : Nat}
    (hOpen : c.peek? = some '[')
    (hInside : (c.advance 1).skipSpaces = inside)
    (hMore : inside.peek? ≠ some ']')
    (hItems : readItems fuel inside = .ok (items, after)) :
    readValue (fuel + 1) c = .ok (.list items, after) := by
  rw [readValue]
  simp only [hOpen, hInside, if_neg hMore]
  exact Result.bind_eq_ok_iff.mpr ⟨_, hItems, rfl⟩

/- What an object holds is read behind its brace. -/
theorem readValue_of_brace
    {c inside : Cursor}
    (fuel : Nat)
    (hOpen : c.peek? = some '\x7b')
    (hInside : (c.advance 1).skipSpaces = inside)
    (hMore : inside.peek? ≠ some '\x7d') :
    readValue (fuel + 1) c = (do
      let (fields, after) ← readFields fuel inside
      pure (ofFields fields, after)) := by
  rw [readValue]
  simp only [hOpen, hInside, if_neg hMore]

theorem readValue_of_fields
    {c inside after : Cursor}
    {fields : List (String × Json)}
    {fuel : Nat}
    (hOpen : c.peek? = some '\x7b')
    (hInside : (c.advance 1).skipSpaces = inside)
    (hMore : inside.peek? ≠ some '\x7d')
    (hFields : readFields fuel inside = .ok (fields, after)) :
    readValue (fuel + 1) c = .ok (ofFields fields, after) := by
  rw [readValue_of_brace fuel hOpen hInside hMore]
  exact Result.bind_eq_ok_iff.mpr ⟨_, hFields, rfl⟩

/- A list is read from its brackets and its items. -/
theorem readsBack_list
    {items : List Json}
    (hPlain : ∀ item ∈ items, item.Plain)
    (hReads : ∀ item ∈ items, item.ReadsBack) :
    ReadsBack (.list items) := by
  intro level fuel rest _ hFuel position
  cases fuel with
  | zero => exact absurd hFuel (Nat.not_lt_zero _)
  | succ fuel =>
      cases items with
      | nil =>
          rw [toList_prettyAt_nil]
          exact ⟨position + 2, rfl⟩
      | cons item items =>
          rw [toList_prettyAt_list] at hFuel ⊢
          simp only [List.length_cons, List.length_append]
            at hFuel
          simp only [List.cons_append, List.append_assoc,
            List.nil_append]
          have hItem :=
            toList_prettyAt_eq_cons
              (hPlain item List.mem_cons_self) (level + 1)
          rcases hItem with ⟨c, cs, hHead, hSpace, hBracket⟩
          have hStarts :
              Starts (prettyAt (level + 1) item).toList :=
            ⟨c, cs, hHead, hSpace⟩
          rcases skipSpaces_lineBreak (level + 1) (position + 1)
            (hStarts.append _) with ⟨start, hInside⟩
          have hLess :
              2 * ((prettyAt (level + 1) item).toList.length +
                (prettyItems (level + 1) items).toList.length) +
                  1 < fuel := by
            omega
          rcases takes_items level start rest hPlain hReads hLess
            with ⟨stop, hItems⟩
          have hMore :
              Cursor.peek? ⟨start,
                (prettyAt (level + 1) item).toList ++
                  ((prettyItems (level + 1) items).toList ++
                    ((lineBreak level).toList ++
                      ']' :: rest))⟩ ≠ some ']' := by
            rw [hHead]
            exact fun hSame => hBracket (Option.some.inj hSame)
          exact ⟨stop, readValue_of_items rfl hInside hMore hItems⟩

/-
  An object is read from its braces and its fields.  Putting
  the fields together keeps them, as their keys differ.
-/
theorem readsBack_object
    {fields : List (String × Json)}
    (hKeys : (fields.map Prod.fst).Nodup)
    (hPlain : ∀ field ∈ fields, field.2.Plain)
    (hReads : ∀ field ∈ fields, field.2.ReadsBack) :
    ReadsBack (.object fields) := by
  intro level fuel rest _ hFuel position
  cases fuel with
  | zero => exact absurd hFuel (Nat.not_lt_zero _)
  | succ fuel =>
      cases fields with
      | nil =>
          rw [toList_prettyAt_empty]
          exact ⟨position + 2, rfl⟩
      | cons field fields =>
          rcases field with ⟨key, value⟩
          rw [toList_prettyAt_object] at hFuel ⊢
          simp only [List.length_cons, List.length_append]
            at hFuel
          simp only [List.cons_append, List.append_assoc,
            List.nil_append]
          rcases skipSpaces_lineBreak (level + 1) (position + 1)
            ((starts_fieldText (level + 1) key value).append _)
            with ⟨start, hInside⟩
          have hLess :
              2 * ((fieldText (level + 1) key value).length +
                (prettyFields (level + 1)
                  fields).toList.length) + 1 < fuel := by
            omega
          rcases takes_fields level start rest hPlain hReads hLess
            with ⟨stop, hFields⟩
          rw [← ofFields_of_nodup hKeys]
          exact ⟨stop, readValue_of_fields rfl hInside
            (peek?_fieldText start (level + 1) key value _)
            hFields⟩

/- A value of JSON without long integers is read back. -/
theorem readsBack_of_plain
    {value : Json}
    (hPlain : value.Plain)
    (hShort :
      ∀ n ∈ value.integers, n.natAbs < 10 ^ digitLimit) :
    value.ReadsBack := by
  induction hPlain with
  | null => exact readsBack_null
  | bool value => exact readsBack_bool value
  | int value => exact readsBack_int (hShort value (by simp [integers]))
  | str value => exact readsBack_str value
  | list items hItems ih =>
      rw [integers, integersIn_eq_flatMap,
        List.forall_mem_flatMap] at hShort
      exact readsBack_list hItems
        (fun item hMem => ih item hMem (hShort item hMem))
  | object fields hKeys hFields ih =>
      rw [integers, integersOf_eq_flatMap,
        List.forall_mem_flatMap] at hShort
      exact readsBack_object hKeys hFields
        (fun field hMem => ih field hMem (hShort field hMem))

end Json

end DeclaredApi
