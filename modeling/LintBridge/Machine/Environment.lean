import LintBridge.Text.Utf8

set_option autoImplicit false

/-! # Environment variables

The environment binds names to values, both texts. A setting may refer to a variable as
`${NAME}`, and `expand` puts the value in the place of the reference. It goes through the text
once, from left to right, and never looks at what it has put in.
-/

namespace LintBridge

/-- The variables of a process. -/
structure Environment where
  bindings : List (String × String)

namespace Environment

/-- The value of a variable, if it is set. -/
def get? (env : Environment) (name : String) : Option String :=
  (env.bindings.find? (·.1 = name)).map (·.2)

/-- The environment with a variable set. -/
def set (env : Environment) (name value : String) : Environment :=
  ⟨(name, value) :: env.bindings.filter (·.1 ≠ name)⟩

/-- The environment without a variable. -/
def unset (env : Environment) (name : String) : Environment :=
  ⟨env.bindings.filter (·.1 ≠ name)⟩

theorem get?_set (env : Environment) (name value other : String) :
    (env.set name value).get? other = if name = other then some value else env.get? other := by
  by_cases h : name = other
  · simp [get?, set, h]
  · simp only [get?, set, List.find?_cons, h, decide_false, if_false, List.find?_filter]
    congr 2
    funext e
    by_cases he : e.1 = other <;> simp [he, Ne.symm h]

theorem get?_unset (env : Environment) (name other : String) :
    (env.unset name).get? other = if name = other then none else env.get? other := by
  by_cases h : name = other
  · subst h
    simp [get?, unset]
  · simp only [get?, unset, h, if_false, List.find?_filter]
    congr 2
    funext e
    by_cases he : e.1 = other <;> simp [he, Ne.symm h]

/-- The binding that some bytes state: a name, an equals sign and a value, all in UTF-8. -/
def binding? (bytes : List UInt8) : Option (String × String) :=
  match Text.Utf8.decode bytes with
  | .error _ => none
  | .ok cs => match cs.dropWhile (· ≠ '=') with
    | [] => none
    | _ :: value => some (String.ofList (cs.takeWhile (· ≠ '=')), String.ofList value)

/-- The environment that a block of bindings states, each ended by a zero byte. Bindings that
cannot be read are left out. -/
def ofBlock (block : List UInt8) : Environment := ⟨(split [] block).filterMap binding?⟩
where
  /-- The pieces between zero bytes, with the bytes of the current one in reverse order. -/
  split (piece : List UInt8) : List UInt8 → List (List UInt8)
    | [] => [piece.reverse]
    | b :: bs => if b = 0 then piece.reverse :: split [] bs else split (b :: piece) bs

/-- The home directory, which may not be empty. -/
def home? (env : Environment) : Option String := (env.get? "HOME").filter (· ≠ "")

/-! ## References -/

/-- What a reference to a variable stands for: its value, or nothing if it is not set or has no
name. -/
def valueOf (env : Environment) (name : List Char) : List Char :=
  if name = [] then [] else ((env.get? (String.ofList name)).getD "").toList

/-- Puts values in the place of references. Inside a reference, `name` holds what has been read
of the name, in reverse order. A reference that is not closed is no reference and stays, like
all text behind it. -/
def expandFrom (env : Environment) (name : Option (List Char)) (cs : List Char) : List Char :=
  match name, cs with
  | none, [] => []
  | none, '$' :: '{' :: rest => expandFrom env (some []) rest
  | none, c :: rest => c :: expandFrom env none rest
  | some name, [] => '$' :: '{' :: name.reverse
  | some name, c :: rest =>
    if c = '}' then env.valueOf name.reverse ++ expandFrom env none rest
    else expandFrom env (some (c :: name)) rest

/-- Puts the values of variables in the place of references to them. -/
def expandChars (env : Environment) (cs : List Char) : List Char := env.expandFrom none cs

/-- Puts the values of variables in the place of references to them. -/
def expand (env : Environment) (text : String) : String :=
  String.ofList (env.expandChars text.toList)

end Environment

end LintBridge
