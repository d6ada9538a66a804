import LintBridge.Json.Binary64

set_option autoImplicit false

/-! # TOML values

What a TOML document can hold. A number that has the shape of one but no value is kept without
it: an integer with digits that do not fit its base, with none at all or past 128 bits, and a
float that is too great for a 64-bit floating-point number. `isReadable` says that a value holds
no number like that.
-/

namespace LintBridge

/-- A TOML value. -/
inductive Toml
  | string (s : String)
  | boolean (b : Bool)
  /-- Without a value if it has the wrong digits, none, or too many. -/
  | integer (n : Option Int)
  /-- Without a value if it is too great. -/
  | float (x : Option Binary64)
  /-- A date, a time, or both. -/
  | datetime
  | array (items : List Toml)
  | table (fields : List (String × Toml))
  deriving Inhabited

namespace Toml

mutual
/-- Whether every number in a value has a value of its own. -/
def isReadable : Toml → Bool
  | string _ | boolean _ | datetime => true
  | integer n => n.isSome
  | float x => x.isSome
  | array items => areReadable items
  | table fields => fieldsAreReadable fields

/-- Whether all items can be read. -/
def areReadable : List Toml → Bool
  | [] => true
  | v :: vs => v.isReadable && areReadable vs

/-- Whether the values of all fields can be read. -/
def fieldsAreReadable : List (String × Toml) → Bool
  | [] => true
  | (_, v) :: fs => v.isReadable && fieldsAreReadable fs
end

/-- The value of the field with the given key. -/
def get? (fields : List (String × Toml)) (key : String) : Option Toml :=
  (fields.find? (·.1 = key)).map (·.2)

end Toml

end LintBridge
