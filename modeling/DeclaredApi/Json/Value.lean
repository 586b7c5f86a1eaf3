import DeclaredApi.Number.FloatText
import DeclaredApi.Sorting
import DeclaredApi.Text.Quoted

/-
  Plain values of documents.

  Objects keep their keys in the order of insertion.  Beside
  the values of JSON there are foreign ones, which a program
  may hand in but no document can hold; they carry the name
  of their kind and the text that shows them.

  Key definitions include:
    * `Json`
    * `Json.digitLimit`
    * `Json.kind`
    * `Json.shown`
    * `Json.truthy`
    * `Json.get?`
    * `Json.put`
    * `Json.sorted`
-/

------------------------------------------------------------
-- Values
------------------------------------------------------------

namespace DeclaredApi

/- A plain value. -/
inductive Json where
| null
| bool (value : Bool)
| int (value : Int)
| float (value : Float)
| str (value : String)
| list (items : List Json)
| object (fields : List (String × Json))
| foreign (kind shown : String)
deriving Repr, Inhabited

namespace Json

/- The most digits of an integer in a text. -/
def digitLimit : Nat :=
  4300

/- The name of the kind of a value, as errors show it. -/
def kind : Json → String
| .null => "NoneType"
| .bool _ => "bool"
| .int _ => "int"
| .float _ => "float"
| .str _ => "str"
| .list _ => "list"
| .object _ => "dict"
| .foreign kind _ => kind

/- Empty values, zero, null and false are not truthy. -/
def truthy : Json → Bool
| .null => false
| .bool value => value
| .int value => value != 0
| .float value => value != 0.0
| .str value => value != ""
| .list items => !items.isEmpty
| .object fields => !fields.isEmpty
| .foreign _ _ => true

/- The spelling of the special floats in shown values. -/
def shownFloat : Number.FloatSpelling :=
  ⟨"nan", "inf"⟩

mutual

/- A value as error messages show it. -/
def shown : Json → String
| .null => "None"
| .bool true => "True"
| .bool false => "False"
| .int value => toString value
| .float value => Number.floatText shownFloat value
| .str value => Text.quote value
| .list items => "[" ++ ", ".intercalate (shownAll items) ++ "]"
| .object fields =>
    "\x7b" ++ ", ".intercalate (shownFields fields) ++ "\x7d"
| .foreign _ shown => shown

/- The items of a list, each as it is shown. -/
def shownAll : List Json → List String
| [] => []
| v :: vs => shown v :: shownAll vs

/- The fields of an object, each with its quoted key. -/
def shownFields : List (String × Json) → List String
| [] => []
| (key, v) :: rest =>
    (Text.quote key ++ ": " ++ shown v) :: shownFields rest

end

end Json

end DeclaredApi

------------------------------------------------------------
-- Objects
------------------------------------------------------------

namespace DeclaredApi

namespace Json

/- The fields of an object; other values have none. -/
def fields : Json → List (String × Json)
| .object fields => fields
| _ => []

/- The value under a key. -/
def get?
    (value : Json)
    (key : String) : Option Json :=
  value.fields.lookup key

/-
  Set a key.  A key that is present keeps its place and
  takes the new value; another one is added at the end.
-/
def put
    (key : String)
    (value : Json) :
    List (String × Json) → List (String × Json)
| [] => [(key, value)]
| (k, v) :: rest =>
    if k = key then
      (k, value) :: rest
    else
      (k, v) :: put key value rest

/- The object with the given fields, set one by one. -/
def ofFields (fields : List (String × Json)) : Json :=
  .object (fields.foldl
    (fun acc field => put field.1 field.2 acc) [])

/- A list of texts. -/
def strings (texts : List String) : Json :=
  .list (texts.map .str)

end Json

end DeclaredApi

------------------------------------------------------------
-- Key Order
------------------------------------------------------------

namespace DeclaredApi

namespace Json

mutual

/- A value whose objects have their keys in order. -/
def sorted : Json → Json
| .list items => .list (sortedAll items)
| .object fields => .object (sortedFields fields)
| value => value

/- The items of a list, each sorted. -/
def sortedAll : List Json → List Json
| [] => []
| v :: vs => sorted v :: sortedAll vs

/- Fields in the order of their keys, values sorted. -/
def sortedFields :
    List (String × Json) → List (String × Json)
| [] => []
| (key, v) :: rest =>
    Sorting.insert (Sorting.keyLess Prod.fst) (key, sorted v)
      (sortedFields rest)

end

end Json

end DeclaredApi
