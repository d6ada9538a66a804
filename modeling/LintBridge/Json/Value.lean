import LintBridge.Json.Number

set_option autoImplicit false

/-! # JSON values

An object is the list of its fields. The library keeps the fields of every object in the
order of their keys, each key once; `Fields.ofList` brings any list of fields into this form,
the last of several fields with one key winning.
-/

namespace LintBridge

/-- A JSON value. -/
inductive Json
  | null
  | bool (b : Bool)
  | number (n : Number)
  | string (s : String)
  | array (items : List Json)
  | object (fields : List (String × Json))
  deriving Inhabited

namespace Json

/-- An integer. -/
def int (n : Int) : Json := .number (.int n)

/-! ## Fields -/

namespace Fields

/-- Of neighbouring fields with one key only the last. -/
def lastOfEach (fields : List (String × Json)) : List (String × Json) :=
  fields.foldr (fun field kept => match kept with
    | [] => [field]
    | next :: _ => if field.1 = next.1 then kept else field :: kept) []

/-- The fields in the order of their keys, the last field winning for each key. -/
def ofList (fields : List (String × Json)) : List (String × Json) :=
  lastOfEach (fields.mergeSort (fun a b => decide (a.1 ≤ b.1)))

/-- The value of the field with the given key. -/
def get? (fields : List (String × Json)) (key : String) : Option Json :=
  (fields.find? (·.1 = key)).map (·.2)

/-- The fields but those with the given key. -/
def erase (fields : List (String × Json)) (key : String) : List (String × Json) :=
  fields.filter (·.1 ≠ key)

/-- Strictly increasing keys: the order is fixed and no key stands twice. -/
def Ordered (fields : List (String × Json)) : Prop :=
  fields.Pairwise (fun a b => a.1 < b.1)

end Fields

/-- An object with the given fields, in any order. -/
def ofFields (fields : List (String × Json)) : Json := .object (Fields.ofList fields)

end Json

end LintBridge
