import DeclaredApi.Json.Value

/-
  Plain values by their parts.

  Induction over values has a hypothesis for each part.  An
  object that is put together from fields with different keys
  has exactly these fields.

  Main declarations:
    * `Json.inductionOnParts`
    * `Json.put_of_not_mem`
    * `Json.ofFields_of_nodup`
-/

------------------------------------------------------------
-- Parts of Values
------------------------------------------------------------

namespace DeclaredApi

namespace Json

/- Induction with the hypothesis for each part of a value. -/
@[elab_as_elim, induction_eliminator]
theorem inductionOnParts
    {motive : Json → Prop}
    (null : motive .null)
    (bool : ∀ value, motive (.bool value))
    (int : ∀ value, motive (.int value))
    (float : ∀ value, motive (.float value))
    (str : ∀ value, motive (.str value))
    (list :
      ∀ items,
        (∀ item ∈ items, motive item) → motive (.list items))
    (object :
      ∀ fields,
        (∀ field ∈ fields, motive field.2) →
          motive (.object fields))
    (foreign : ∀ kind shown, motive (.foreign kind shown))
    (value : Json) :
    motive value :=
  @Json.rec motive
    (fun items => ∀ item ∈ items, motive item)
    (fun fields => ∀ field ∈ fields, motive field.2)
    (fun field => motive field.2)
    null bool int float str list object foreign
    (fun _ h => absurd h List.not_mem_nil)
    (fun _ _ hHead hTail _ hMem =>
      (List.mem_cons.mp hMem).elim
        (fun hEq => hEq ▸ hHead) (hTail _))
    (fun _ h => absurd h List.not_mem_nil)
    (fun _ _ hHead hTail _ hMem =>
      (List.mem_cons.mp hMem).elim
        (fun hEq => hEq ▸ hHead) (hTail _))
    (fun _ _ hValue => hValue) value

end Json

end DeclaredApi

------------------------------------------------------------
-- Keys of Objects
------------------------------------------------------------

namespace DeclaredApi

namespace Json

variable {fields : List (String × Json)}

theorem put_ne_nil
    (key : String)
    (value : Json)
    (fields : List (String × Json)) :
    put key value fields ≠ [] := by
  cases fields with
  | nil => exact List.cons_ne_nil _ _
  | cons field fields =>
      rw [put]
      split <;> exact List.cons_ne_nil _ _

/- A new key is put behind the others. -/
theorem put_of_not_mem
    {key : String}
    (value : Json)
    (hNew : key ∉ fields.map Prod.fst) :
    put key value fields = fields ++ [(key, value)] := by
  induction fields with
  | nil => rfl
  | cons field fields ih =>
      rw [List.map_cons, List.mem_cons, not_or] at hNew
      rw [put, if_neg (Ne.symm hNew.1), ih hNew.2,
        List.cons_append]

/- Fields with different keys make an object of them all. -/
theorem ofFields_of_nodup
    (hKeys : (fields.map Prod.fst).Nodup) :
    ofFields fields = .object fields := by
  have hPut :
      ∀ later earlier : List (String × Json),
        ((earlier ++ later).map Prod.fst).Nodup →
          later.foldl (fun acc f => put f.1 f.2 acc) earlier =
            earlier ++ later := by
    intro later
    induction later with
    | nil => exact fun earlier _ => (List.append_nil _).symm
    | cons field later ih =>
        intro earlier hNodup
        have hNew : field.1 ∉ earlier.map Prod.fst := by
          rw [List.map_append, List.nodup_append] at hNodup
          exact fun hMem =>
            hNodup.2.2 _ hMem _ List.mem_cons_self rfl
        rw [List.foldl_cons, put_of_not_mem _ hNew,
          ih _ (by simpa using hNodup), List.append_assoc]
        rfl
  exact congrArg Json.object (hPut fields [] hKeys)

end Json

end DeclaredApi
