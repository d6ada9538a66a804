import LintBridge.Json.Value
import LintBridge.Text.Quoted

set_option autoImplicit false

/-! # Shapes of values

A *shape* says what a JSON value has to look like: a text, an integer of a given width, a list,
a record with named fields, a tuple. Reading a value by a shape yields a Lean value of the
type that the shape stands for, or says where the two part.

A record may be given as an object, in which fields of other names are left out of account, or
as an array of the values of its fields. The fields of an object are looked at in the order in
which the object holds them, and the first unfit one is reported; only then missing ones are,
in the order of the record.
-/

namespace LintBridge

/-- How the items of a group are named. -/
inductive Group
  /-- The fields of a record. -/
  | record (name : String)
  /-- The items of a tuple, which have no names. -/
  | tuple
  deriving DecidableEq

mutual
/-- What a value has to look like. -/
inductive Shape
  /-- Any string. -/
  | text
  /-- An integer from `-2 ^ 31` to `2 ^ 31 - 1`. -/
  | int32
  /-- An integer from 0 to `2 ^ 32 - 1`. -/
  | uint32
  /-- Any value. -/
  | any
  /-- An array. -/
  | list (item : Shape)
  /-- A record or a tuple. -/
  | group (kind : Group) (fields : Fields)

/-- The fields of a group, each with the value that an absent one is read as, if any. -/
inductive Fields
  | nil
  | cons (name : String) (shape : Shape) (fallback : Option Json) (rest : Fields)
end

/-- A field that may not be absent, before others. -/
abbrev Fields.field (name : String) (shape : Shape) (rest : Fields := .nil) : Fields :=
  .cons name shape none rest

/-- The number of fields. -/
def Fields.length : Fields → Nat
  | .nil => 0
  | .cons _ _ _ rest => rest.length + 1

mutual
/-- The values of a shape. -/
@[reducible] def Shape.Carrier : Shape → Type
  | .text => String
  | .int32 => Int32
  | .uint32 => UInt32
  | .any => Json
  | .list item => List item.Carrier
  | .group _ fields => fields.Carrier

/-- The values of some fields. -/
@[reducible] def Fields.Carrier : Fields → Type
  | .nil => Unit
  | .cons _ shape _ rest => shape.Carrier × rest.Carrier
end

/-! ## Misfits -/

/-- Why a value does not have a shape. -/
inductive Misfit
  /-- Another kind of value is expected. -/
  | wrongKind (found : Json) (expected : String)
  /-- The integer does not fit. -/
  | outOfRange (n : Int) (expected : String)
  /-- A field is absent. -/
  | missing (name : String)
  /-- An array has the wrong number of items. -/
  | wrongLength (found : Nat) (expected : String)

/-- A value, as a message names it. -/
def Json.describe : Json → String
  | .null => "null"
  | .bool b => "boolean `" ++ (if b then "true" else "false") ++ "`"
  | .number (.int n) => "integer `" ++ String.ofList (Number.renderInt n) ++ "`"
  | .number (.float x) => "floating point `" ++ String.ofList (Number.renderFloat x) ++ "`"
  | .string s => "string " ++ String.ofList (Text.quoted s.toList)
  | .array _ => "sequence"
  | .object _ => "map"

/-- The wording of a misfit. -/
def Misfit.message : Misfit → String
  | wrongKind found expected => "invalid type: " ++ found.describe ++ ", expected " ++ expected
  | outOfRange n expected =>
    "invalid value: " ++ (Json.int n).describe ++ ", expected " ++ expected
  | missing name => "missing field `" ++ name ++ "`"
  | wrongLength found expected =>
    "invalid length " ++ toString found ++ ", expected " ++ expected

/-- A group of so many items, as a message names it. -/
def Group.describe (kind : Group) (size : Nat) : String :=
  match kind with
  | record name =>
    "struct " ++ name ++ " with " ++ toString size ++ (if size = 1 then " element" else " elements")
  | tuple => "a tuple of size " ++ toString size

/-- What a group is called where a value of another kind stands. -/
def Group.kindName (kind : Group) (size : Nat) : String :=
  match kind with
  | record name => "struct " ++ name
  | tuple => kind.describe size

/-! ## Reading -/

mutual
/-- Reads a value by a shape. -/
def Shape.read : (shape : Shape) → Json → Except Misfit shape.Carrier
  | .text, v => match v with
    | .string s => .ok s
    | _ => .error (.wrongKind v "a string")
  | .int32, v => match v with
    | .number (.int n) =>
      if -2147483648 ≤ n ∧ n < 2147483648 then .ok (Int32.ofInt n) else .error (.outOfRange n "i32")
    | _ => .error (.wrongKind v "i32")
  | .uint32, v => match v with
    | .number (.int n) =>
      if 0 ≤ n ∧ n < 4294967296 then .ok (UInt32.ofNat n.toNat) else .error (.outOfRange n "u32")
    | _ => .error (.wrongKind v "u32")
  | .any, v => .ok v
  | .list item, v => match v with
    | .array vs => vs.mapM item.read
    | _ => .error (.wrongKind v "a sequence")
  | .group kind fields, v => match v with
    | .array vs => fields.readArray kind fields.length vs.length 0 vs
    | .object fs => match kind with
      | .record _ => do
        fs.forM fun f => fields.check f.1 f.2
        fields.readObject fs
      | .tuple => .error (.wrongKind v (kind.kindName fields.length))
    | _ => .error (.wrongKind v (kind.kindName fields.length))

/-- Reads the fields of a group of `size` items from what remains of an array of `given`
values, `index` of which have been read. -/
def Fields.readArray (kind : Group) (size given index : Nat) :
    (fields : Fields) → List Json → Except Misfit fields.Carrier
  | .nil, [] => .ok ()
  | .nil, _ :: _ => .error (.wrongLength given "fewer elements in array")
  | .cons _ shape _ rest, v :: vs => do
    let a ← shape.read v
    let r ← rest.readArray kind size given (index + 1) vs
    pure (a, r)
  | .cons _ shape fallback rest, [] => do
    let a ← match fallback with
      | some v => shape.read v
      | none => .error (.wrongLength index (kind.describe size))
    let r ← rest.readArray kind size given (index + 1) []
    pure (a, r)

/-- Whether a value fits the field of the given name, if there is one. -/
def Fields.check : Fields → String → Json → Except Misfit Unit
  | .nil, _, _ => .ok ()
  | .cons name shape _ rest, key, v =>
    if name = key then (shape.read v).map fun _ => () else rest.check key v

/-- Reads the fields of a record from those of an object. -/
def Fields.readObject : (fields : Fields) → List (String × Json) → Except Misfit fields.Carrier
  | .nil, _ => .ok ()
  | .cons name shape fallback rest, fs => do
    let a ← match (Json.Fields.get? fs name).or fallback with
      | some v => shape.read v
      | none => .error (.missing name)
    let r ← rest.readObject fs
    pure (a, r)
end

end LintBridge
