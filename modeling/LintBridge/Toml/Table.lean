import LintBridge.Toml.Value

set_option autoImplicit false

/-! # Building tables

A document puts its tables together bit by bit: by headers, by headers of tables further
inside, and by dotted keys. Which bit may be added to a table depends on how the table came
about, so each table of an unfinished document carries its *origin*. Tables in braces and
arrays in brackets are finished values.
-/

namespace LintBridge.Toml

/-- How a table came about. -/
inductive Origin
  /-- By a header of its own, or as the document itself. -/
  | header
  /-- On the way to a table with a header. -/
  | path
  /-- By a dotted key. -/
  | dotted
  deriving DecidableEq

/-- What a key stands for in an unfinished document. -/
inductive Node
  | value (v : Toml)
  | table (origin : Origin) (fields : List (String × Node))
  /-- Tables with headers in double brackets: the earlier ones, and the one that is still open. -/
  | tables (earlier : List (List (String × Node))) (last : List (String × Node))
  deriving Inhabited

namespace Node

/-! ## Fields -/

/-- What a key stands for. -/
def get? (fields : List (String × Node)) (key : String) : Option Node :=
  (fields.find? (·.1 = key)).map (·.2)

/-- The fields with a key bound anew. -/
def put (fields : List (String × Node)) (key : String) (node : Node) : List (String × Node) :=
  (key, node) :: fields.filter (·.1 ≠ key)

/-- Changes the fields of the table that a path leads to from a table with the given origin and
fields. Tables that are missing on the way are made, and of several tables under one key the
last is taken. A dotted key may not lead through a table with a header, and what it leads through
stems from dotted keys from then on. -/
def change (f : Origin → List (String × Node) → Option (List (String × Node))) (dotted : Bool) :
    List String → Origin → List (String × Node) → Option (List (String × Node))
  | [], origin, fields => f origin fields
  | key :: path, _, fields => match get? fields key with
    | none => do
      let origin := if dotted then Origin.dotted else .path
      let inner ← change f dotted path origin []
      pure (put fields key (.table origin inner))
    | some (.value _) => none
    | some (.table origin inner) =>
      if dotted ∧ origin = .header then none
      else
        let origin := if dotted then .dotted else origin
        (change f dotted path origin inner).map fun inner => put fields key (.table origin inner)
    | some (.tables earlier last) =>
      (change f dotted path .header last).map fun last => put fields key (.tables earlier last)

/-- Binds a dotted key, given by the path before its last part and that part. The table at the
end of a path has to stem from dotted keys too, and no key may be bound twice. -/
def bind (path : List String) (key : String) (v : Toml) (origin : Origin)
    (fields : List (String × Node)) : Option (List (String × Node)) :=
  change (fun origin fields =>
    if (origin = .dotted ↔ path = []) ∨ (get? fields key).isSome then none
    else some (put fields key (.value v))) true path origin fields

/-- Opens the table under a key: a new one, or one that headers have led through. -/
def openTable (key : String) (fields : List (String × Node)) : Option (List (String × Node)) :=
  match get? fields key with
  | none => some (put fields key (.table .header []))
  | some (.table .path inner) => some (put fields key (.table .header inner))
  | _ => none

/-- Opens one more of the tables under a key. -/
def openNext (key : String) (fields : List (String × Node)) : Option (List (String × Node)) :=
  match get? fields key with
  | none => some (put fields key (.tables [] []))
  | some (.tables earlier last) => some (put fields key (.tables (earlier ++ [last]) []))
  | _ => none

/-! ## Finished values -/

mutual
/-- The value of a node. -/
def toToml : Node → Toml
  | value v => v
  | table _ fields => .table (fieldsToToml fields)
  | tables earlier last => .array (allToToml earlier ++ [.table (fieldsToToml last)])

/-- The values of some fields. -/
def fieldsToToml : List (String × Node) → List (String × Toml)
  | [] => []
  | (key, node) :: rest => (key, node.toToml) :: fieldsToToml rest

/-- The values of some tables. -/
def allToToml : List (List (String × Node)) → List Toml
  | [] => []
  | fields :: rest => .table (fieldsToToml fields) :: allToToml rest
end

end Node

end LintBridge.Toml
