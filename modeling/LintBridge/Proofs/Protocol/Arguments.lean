import LintBridge.Protocol.Message

set_option autoImplicit false

/-! # Values that are read back

The server writes positions, ranges and edits as objects, and it reads them by their shapes. The
fields of an object stand in the order of their keys and those of a shape in the order of their
declaration, so what is written is not laid out as it is read. This module says that each value
that is written is read back all the same, up to the arguments of the command that applies
edits (`DocumentEdits.ofArguments_toArguments`), and that a call of a command is read from the
fields that matter, whatever other fields it has (`CommandCall.read_object`).
-/

namespace LintBridge

namespace Shape

/-! ## Numbers and lists -/

theorem read_int32 (n : Int32) : int32.read (.int n.toInt) = .ok n := by
  have hle : -2147483648 ≤ n.toInt := Int32.le_toInt n
  have hlt : n.toInt < 2147483648 := Int32.toInt_lt n
  simp only [Shape.read, Json.int]
  rw [if_pos ⟨hle, hlt⟩, Int32.ofInt_toInt]

theorem read_uint32 (n : UInt32) : uint32.read (.int n.toNat) = .ok n := by
  have hle : (0 : Int) ≤ n.toNat := Int.natCast_nonneg _
  have hlt : (n.toNat : Int) < 4294967296 := by
    have := n.toNat_lt
    omega
  simp only [Shape.read, Json.int]
  rw [if_pos ⟨hle, hlt⟩, Int.toNat_natCast, UInt32.ofNat_toNat]

/-- A list is read back if its items are. -/
theorem read_list {α : Type} {item : Shape} {write : α → Json} {fields : α → item.Carrier}
    (h : ∀ a, item.read (write a) = .ok (fields a)) (as : List α) :
    (list item).read (.array (as.map write)) = .ok (as.map fields) := by
  show (as.map write).mapM item.read = _
  induction as with
  | nil => rfl
  | cons a as ih =>
      rw [List.map_cons, List.mapM_cons, h, ih]
      rfl

end Shape

/-! ## Groups -/

namespace Fields

variable {kind : Group} {size given index : Nat} {name : String} {shape : Shape}
  {fallback : Option Json} {rest : Fields} {v : Json} {vs : List Json}
  {fs : List (String × Json)} {a : shape.Carrier} {r : rest.Carrier}

theorem readArray_cons (h : shape.read v = .ok a)
    (hrest : rest.readArray kind size given (index + 1) vs = .ok r) :
    (cons name shape fallback rest).readArray kind size given index (v :: vs) = .ok (a, r) := by
  simp only [readArray, h, hrest]
  rfl

theorem readObject_cons (hv : (Json.Fields.get? fs name).or fallback = some v)
    (h : shape.read v = .ok a) (hrest : rest.readObject fs = .ok r) :
    (cons name shape fallback rest).readObject fs = .ok (a, r) := by
  simp only [readObject, hv, h, hrest]
  rfl

theorem check_cons {key : String} (h : name = key → shape.read v = .ok a)
    (hrest : rest.check key v = .ok ()) : (cons name shape fallback rest).check key v = .ok () := by
  unfold check
  split
  · rename_i hkey
    rw [h hkey]
    rfl
  · exact hrest

end Fields

namespace Shape

/-- A record is read from an object whose fields all fit. -/
theorem read_object {name : String} {fields : Fields} {fs : List (String × Json)}
    {r : fields.Carrier} (hcheck : ∀ f ∈ fs, fields.check f.1 f.2 = .ok ())
    (hread : fields.readObject fs = .ok r) :
    (group (.record name) fields).read (.object fs) = .ok r := by
  have hall : fs.forM (fun f => fields.check f.1 f.2) = .ok () := by
    clear hread
    induction fs with
    | nil => rfl
    | cons f fs ih =>
        show (fields.check f.1 f.2 >>= fun _ => fs.forM fun g => fields.check g.1 g.2) = _
        rw [hcheck f List.mem_cons_self]
        exact ih fun g hg => hcheck g (List.mem_cons_of_mem _ hg)
  simp only [Shape.read, hall, hread]
  rfl

/-- A record of two fields is read from an object in which they stand the other way round. -/
theorem read_pair {name key key' : String} {shape shape' : Shape} {v v' : Json}
    {a : shape.Carrier} {a' : shape'.Carrier} (hne : key ≠ key') (h : shape.read v = .ok a)
    (h' : shape'.read v' = .ok a') :
    (group (.record name) (.field key shape (.field key' shape'))).read
      (.object [(key', v'), (key, v)]) = .ok (a, a', ()) := by
  apply read_object
  · intro f hf
    simp only [List.mem_cons, List.not_mem_nil, or_false] at hf
    rcases hf with rfl | rfl
    · exact Fields.check_cons (a := a) (fun heq => absurd heq hne)
        (Fields.check_cons (fun _ => h') rfl)
    · exact Fields.check_cons (fun _ => h)
        (Fields.check_cons (a := a') (fun heq => absurd heq hne.symm) rfl)
  · refine Fields.readObject_cons (v := v) ?_ h (Fields.readObject_cons (v := v') ?_ h' rfl)
    · simp [Json.Fields.get?, hne.symm]
    · simp [Json.Fields.get?]

end Shape

/-! ## Places and edits -/

/-- The fields of a position, in the order of its shape. -/
def Position.fields (p : Position) : shape.Carrier := (p.line, p.character, ())

/-- The fields of a range, in the order of its shape. -/
def Range.fields (r : Range) : shape.Carrier := (r.start.fields, r.stop.fields, ())

/-- The fields of an edit, in the order of its shape. -/
def TextEdit.fields (e : TextEdit) : shape.Carrier := (e.range.fields, e.newText, ())

theorem Position.read_toJson (p : Position) : shape.read p.toJson = .ok p.fields :=
  Shape.read_pair (by decide) (Shape.read_uint32 p.line) (Shape.read_uint32 p.character)

theorem Range.read_toJson (r : Range) : shape.read r.toJson = .ok r.fields :=
  Shape.read_pair (by decide) r.start.read_toJson r.stop.read_toJson

theorem TextEdit.read_toJson (e : TextEdit) : shape.read e.toJson = .ok e.fields :=
  Shape.read_pair (by decide) e.range.read_toJson rfl

/-! ## Commands -/

/-- The arguments of the command that applies edits are read back. -/
theorem DocumentEdits.ofArguments_toArguments (e : DocumentEdits) :
    ofArguments e.toArguments = .ok e := by
  have hedits := Shape.read_list TextEdit.read_toJson e.edits
  have hread : shape.read (.array e.toArguments) =
      .ok (e.uri, e.version, e.edits.map TextEdit.fields, ()) :=
    Fields.readArray_cons rfl (Fields.readArray_cons (Shape.read_int32 e.version)
      (Fields.readArray_cons hedits rfl))
  have hfields : (e.edits.map TextEdit.fields).map TextEdit.ofFields = e.edits := by
    rw [List.map_map]
    exact List.map_id e.edits
  rw [ofArguments, hread]
  show Except.ok (DocumentEdits.mk e.uri e.version _) = _
  rw [hfields]

/-- A field of an object without repetitions is the one that is found under its key. -/
theorem Json.Fields.get?_of_mem {fields : List (String × Json)} (h : Ordered fields)
    {f : String × Json} (hf : f ∈ fields) : get? fields f.1 = some f.2 := by
  induction fields with
  | nil => cases hf
  | cons g fields ih =>
      obtain ⟨hlt, hrest⟩ := List.pairwise_cons.mp h
      rcases List.mem_cons.mp hf with rfl | hf
      · simp [get?]
      · have hne : g.1 ≠ f.1 := String.ne_of_lt (hlt f hf)
        rw [← ih hrest hf]
        simp [get?, hne]

/-- A call of a command is read from its two fields. Other fields make no difference. -/
theorem CommandCall.read_object {fields : List (String × Json)} (h : Json.Fields.Ordered fields)
    {command : String} {arguments : List Json}
    (hcommand : Json.Fields.get? fields "command" = some (.string command))
    (harguments : Json.Fields.get? fields "arguments" = some (.array arguments)) :
    read (.object fields) = .ok ⟨command, arguments⟩ := by
  have harray : (Shape.list .any).read (.array arguments) = .ok arguments := by
    have hitems := @Shape.read_list Json .any id id (fun v => rfl) arguments
    rwa [List.map_id] at hitems
  have hread : shape.read (.object fields) = .ok (command, arguments, ()) := by
    apply Shape.read_object
    · intro f hf
      -- Whatever stands under one of the two keys is what is found there.
      have hget := Json.Fields.get?_of_mem h hf
      refine Fields.check_cons (a := command) ?_ (Fields.check_cons (a := arguments) ?_ rfl)
      · intro hkey
        rw [← hkey, hcommand] at hget
        rw [← Option.some.inj hget]
        rfl
      · intro hkey
        rw [← hkey, harguments] at hget
        rw [← Option.some.inj hget]
        exact harray
    · refine Fields.readObject_cons (v := .string command) ?_ rfl
        (Fields.readObject_cons (v := .array arguments) ?_ harray rfl)
      · rw [hcommand]
        rfl
      · rw [harguments]
        rfl
  rw [read, hread]
  rfl

end LintBridge
