import DeclaredApi.Proofs.Json.Values

/-
  Documents read back from their texts.

  A document is read back as the value that it was written
  for, with its keys in order, and documents that are the
  same value have the same text.  Only integers with too many
  digits are refused, by the writer and by the reader.

  Main declarations:
    * `Json.deserialize_pretty`
    * `Json.deserialize_serialize`
    * `Json.deserialize_long`
    * `Json.long_integer_not_survives`
-/

------------------------------------------------------------
-- Documents
------------------------------------------------------------

namespace DeclaredApi

namespace Json

/- The text of an object is read as a value from its start. -/
theorem read_pretty_object
    (fields : List (String × Json)) :
    read (pretty (.object fields)) = (do
      let text := (pretty (.object fields)).toList
      let (value, after) ←
        readValue (2 * text.length + 2) ⟨0, text⟩
      let stop := after.skipSpaces
      if !stop.rest.isEmpty then
        stop.fail .extraData
      pure value) := by
  rcases toList_prettyAt_object_eq_cons 0 fields with
    ⟨cs, hText⟩
  have hSpaces :
      Cursor.skipSpaces ⟨0, '\x7b' :: cs⟩ =
        ⟨0, '\x7b' :: cs⟩ :=
    skipSpaces_of_starts 0 ⟨'\x7b', cs, rfl, rfl⟩
  rw [read, pretty, hText]
  simp only [hSpaces]
  rfl

/- An object without long integers is read from its text. -/
theorem deserialize_pretty
    {fields : List (String × Json)}
    (hPlain : (Json.object fields).Plain)
    (hShort :
      ∀ n ∈ (Json.object fields).integers,
        n.natAbs < 10 ^ digitLimit) :
    deserialize (pretty (.object fields)) =
      .ok (.object fields) := by
  have hReads := readsBack_of_plain hPlain hShort 0
    (2 * (pretty (.object fields)).toList.length + 2) []
    ends_nil (by rw [pretty]; omega) 0
  rcases hReads with ⟨stop, hValue⟩
  rw [List.append_nil, ← pretty] at hValue
  have hRead : read (pretty (.object fields)) =
      .ok (.object fields) := by
    rw [read_pretty_object]
    exact Result.bind_eq_ok_iff.mpr ⟨_, hValue, rfl⟩
  rw [deserialize, hRead]

/-
  A document of JSON whose integers have at most as many
  digits as a text may hold is written, and read back as the
  same value.  One with a longer integer has no text.
  Documents that are the same up to the order of keys, at any
  depth, have the same text.
-/
theorem deserialize_serialize
    {fields : List (String × Json)}
    (hPlain : (Json.object fields).Plain) :
    ((∀ n ∈ (Json.object fields).integers,
        n.natAbs < 10 ^ digitLimit) →
      ∃ text,
        serialize (.object fields) = .ok text ∧
          deserialize text =
              .ok (Json.object fields).sorted ∧
            (Json.object fields).sorted.same
              (.object fields) = true) ∧
      ((∃ n ∈ (Json.object fields).integers,
          10 ^ digitLimit ≤ n.natAbs) →
        serialize (.object fields) = .error .longInteger) ∧
      ∀ other : Json,
        other.Plain →
          other.same (.object fields) = true →
            serialize other = serialize (.object fields) := by
  refine ⟨?_, ?_, ?_⟩
  · intro hShort
    rcases serialize_cases hPlain with
      ⟨hText, _⟩ | ⟨_, n, hMem, hLong⟩
    · refine ⟨_, hText, ?_, same_sorted hPlain⟩
      have hSortedShort :
          ∀ n ∈ (Json.object fields).sorted.integers,
            n.natAbs < 10 ^ digitLimit :=
        fun n hMem => hShort n (mem_integers_sorted.mp hMem)
      exact deserialize_pretty (plain_sorted hPlain) hSortedShort
    · exact absurd (hShort n hMem) (Nat.not_lt.mpr hLong)
  · rintro ⟨n, hMem, hLong⟩
    rcases serialize_cases hPlain with ⟨_, hShort⟩ | ⟨hError, _⟩
    · exact absurd (hShort n hMem) (Nat.not_lt.mpr hLong)
    · exact hError
  · intro other hOther hSame
    exact serialize_eq_of_same hPlain hOther hSame

/-
  A document with escapes, a line separator, a character
  beyond the basic plane, empty parts and the least integer
  that has a text.
-/
def nestedDocument : Json :=
  .object [
    ("\u2028z", .list [.null, .bool true, .list [], .object []]),
    ("a\"\\\x01", .object [
      ("n", .int (-(10 ^ digitLimit - 1))),
      ("b", .str "é\n🚀\x7f")])]

/- The same document with its keys in another order. -/
def reorderedDocument : Json :=
  .object [
    ("a\"\\\x01", .object [
      ("b", .str "é\n🚀\x7f"),
      ("n", .int (-(10 ^ digitLimit - 1)))]),
    ("\u2028z", .list [.null, .bool true, .list [], .object []])]

theorem deserialize_serialize_nested :
    nestedDocument.Plain ∧
      reorderedDocument.Plain ∧
      reorderedDocument.same nestedDocument = true ∧
      serialize reorderedDocument = serialize nestedDocument ∧
      ∃ text,
        serialize nestedDocument = .ok text ∧
          deserialize text = .ok nestedDocument.sorted ∧
            nestedDocument.sorted.same nestedDocument = true := by
  have hParts :
      ∀ v ∈ [Json.null, .bool true, .list [], .object []],
        v.Plain := by
    simp only [List.forall_mem_cons]
    exact ⟨.null, .bool true, .list [] nofun,
      .object [] List.nodup_nil nofun, nofun⟩
  have hPair :
      ∀ a b : String × Json,
        a.1 ≠ b.1 → a.2.Plain → b.2.Plain →
          (Json.object [a, b]).Plain :=
    fun a b hKeys hA hB => .object [a, b] (by simpa using hKeys)
      (by simpa only [List.forall_mem_cons] using ⟨hA, hB, nofun⟩)
  have hNested : nestedDocument.Plain :=
    hPair _ _ (by decide +kernel) (.list _ hParts)
      (hPair _ _ (by decide +kernel) (.int _) (.str _))
  have hReordered : reorderedDocument.Plain :=
    hPair _ _ (by decide +kernel)
      (hPair _ _ (by decide +kernel) (.str _) (.int _))
      (.list _ hParts)
  have hSame : reorderedDocument.same nestedDocument = true := by
    decide +kernel
  have hShort :
      ∀ n ∈ nestedDocument.integers,
        n.natAbs < 10 ^ digitLimit := by
    decide +kernel
  rcases deserialize_serialize hNested with
    ⟨hText, _, hOthers⟩
  exact ⟨hNested, hReordered, hSame,
    hOthers _ hReordered hSame, hText hShort⟩

/- A long integer is refused where its value would be read. -/
theorem readValue_long
    {n : Int}
    {rest : List Char}
    (fuel level position : Nat)
    (hLong : 10 ^ digitLimit ≤ n.natAbs)
    (hEnds : Ends rest) :
    readValue (fuel + 1)
        ⟨position, (prettyAt level (.int n)).toList ++ rest⟩ =
      .error ⟨position, .longInteger⟩ := by
  rw [prettyAt, readValue_of_unmarked fuel position rest
    (unmarked_toString n), namedValue?_toString]
  exact (readNumber_toString n position hEnds).trans
    (if_pos hLong)

/- So it is as the value of a field. -/
theorem readFields_long
    {n : Int}
    {rest : List Char}
    (fuel level position : Nat)
    (key : String)
    (hLong : 10 ^ digitLimit ≤ n.natAbs)
    (hEnds : Ends rest) :
    ∃ stop,
      readFields (fuel + 2)
          ⟨position, fieldText level key (.int n) ++ rest⟩ =
        .error ⟨stop, .longInteger⟩ := by
  rw [fieldText, List.append_assoc]
  rcases takes_encodeText key
    (':' :: ' ' :: ((prettyAt level (.int n)).toList ++ rest))
    position with ⟨colon, hKey⟩
  have hQuote :
      Cursor.peek? ⟨position, (encodeText key).toList ++
        ':' :: ' ' :: ((prettyAt level (.int n)).toList ++
          rest)⟩ = some '"' := by
    rw [toList_encodeText]
    rfl
  refine ⟨colon + 2, ?_⟩
  refine (readFields_of_key (fuel + 1) hQuote hKey
    ((starts_prettyAt (.int n) level).append rest)).trans ?_
  rw [readValue_long fuel level (colon + 2) hLong hEnds]
  rfl

/- And so is the text of an object that starts with it. -/
theorem deserialize_long
    {n : Int}
    (key : String)
    (fields : List (String × Json))
    (hLong : 10 ^ digitLimit ≤ n.natAbs) :
    deserialize (pretty (.object ((key, .int n) :: fields))) =
      .error .longInteger := by
  have hEnds :
      Ends ((prettyFields 1 fields).toList ++
        ((lineBreak 0).toList ++ ['\x7d'])) := by
    cases fields with
    | nil => simp [prettyFields, lineBreak, ends_line]
    | cons field fields =>
        rw [toList_prettyFields_cons]
        exact ends_comma _
  rcases skipSpaces_lineBreak 1 1
    ((starts_fieldText 1 key (.int n)).append
      ((prettyFields 1 fields).toList ++
        ((lineBreak 0).toList ++ ['\x7d']))) with
    ⟨start, hInside⟩
  have hText :
      (pretty (.object ((key, .int n) :: fields))).toList =
        '\x7b' :: ((lineBreak 1).toList ++
          (fieldText 1 key (.int n) ++
            ((prettyFields 1 fields).toList ++
              ((lineBreak 0).toList ++ ['\x7d'])))) :=
    toList_prettyAt_object 0 key (.int n) fields
  have hValue :
      ∀ fuel,
        ∃ stop,
          readValue (fuel + 3)
              ⟨0, (pretty (.object
                ((key, .int n) :: fields))).toList⟩ =
            .error ⟨stop, .longInteger⟩ := by
    intro fuel
    rcases readFields_long fuel 1 start key hLong hEnds with
      ⟨stop, hFields⟩
    rw [hText]
    refine ⟨stop, Eq.trans (readValue_of_brace (fuel + 2) rfl
      hInside (peek?_fieldText start 1 key (.int n) _)) ?_⟩
    rw [hFields]
    rfl
  have hFuel :
      ∃ fuel,
        2 * (pretty (.object
          ((key, .int n) :: fields))).toList.length + 2 =
            fuel + 3 := by
    rw [hText, List.length_cons]
    exact ⟨_, rfl⟩
  rcases hFuel with ⟨fuel, hFuel⟩
  rcases hValue fuel with ⟨stop, hValue⟩
  have hRead :
      read (pretty (.object ((key, .int n) :: fields))) =
        .error ⟨stop, .longInteger⟩ := by
    rw [read_pretty_object]
    simp only [hFuel, hValue]
    rfl
  rw [deserialize, hRead]

/- The least integer with too many digits, in a document. -/
def longDocument : Json :=
  .object [("a", .int (10 ^ digitLimit))]

/-
  A document with a long integer has no text, and the text
  that it would have is refused.
-/
theorem long_integer_not_survives :
    longDocument.Plain ∧
      serialize longDocument = .error .longInteger ∧
      deserialize longDocument.pretty = .error .longInteger := by
  have hPlain : longDocument.Plain :=
    .object _ (List.nodup_singleton _)
      (List.forall_mem_singleton.mpr (.int _))
  have hLong :
      10 ^ digitLimit ≤ (10 ^ digitLimit : Int).natAbs := by
    simp [Int.natAbs_pow]
  refine ⟨hPlain, ?_, ?_⟩
  · rcases serialize_cases hPlain with ⟨_, hShort⟩ | ⟨hError, _⟩
    · have hMem :
          (10 ^ digitLimit : Int) ∈ longDocument.integers :=
        List.mem_singleton_self _
      exact absurd (hShort _ hMem) (Nat.not_lt.mpr hLong)
    · exact hError
  · rw [longDocument]
    exact deserialize_long "a" [] hLong

end Json

end DeclaredApi
