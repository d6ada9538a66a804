import Mathlib.Logic.Relation
import LintBridge.Proofs.Protocol.Arguments

set_option autoImplicit false

/-! # What a reading takes no notice of

Editors send more fields than the server asks for, and other writers give records as arrays.
This module says that neither is noticed, wherever in a value a record stands. A change of the
value that is read by one shape somewhere in a larger value is a step `Shape.Within`. There are
two such changes:

* `AddsFields` puts fields of unknown names into the object of a record. The outcome is the
  same (`Shape.Within.read_eq`), also when it is a misfit.
* `Unnames` puts the array of its fields in the place of the object of a record. Whatever could
  be read is read as before (`Shape.Within.read_ok`). A misfit may well be another one, since an
  array is read in the order of the fields and an object in the order of its keys.

`params_tolerant` says both of all parameters of messages, for any number of such changes.
-/

namespace LintBridge

/-- Readings one after the other succeed if each does. -/
theorem Misfit.bind_eq_ok_iff {α β : Type} {x : Except Misfit α} {f : α → Except Misfit β}
    {b : β} : x >>= f = .ok b ↔ ∃ a, x = .ok a ∧ f a = .ok b := by
  cases x with
  | error why => exact ⟨nofun, fun ⟨_, h, _⟩ => nomatch h⟩
  | ok a =>
      constructor
      · intro h
        exact ⟨a, rfl, h⟩
      · rintro ⟨a', h, h'⟩
        cases h
        exact h'

namespace Json.Fields

variable {name key : String} {pre post fs fs' : List (String × Json)}

/-- What stands under another key is found as before. -/
theorem get?_append_of_ne (w w' : Json) (hne : key ≠ name) :
    get? (pre ++ (key, w) :: post) name = get? (pre ++ (key, w') :: post) name := by
  simp [get?, List.find?_append, hne]

/-- The first field with a key is the one that is found. -/
theorem get?_append_self (w : Json) :
    get? (pre ++ (key, w) :: post) key = (get? pre key).or (some w) := by
  cases hpre : pre.find? (·.1 = key) <;> simp [get?, List.find?_append, hpre]

/-- The second list has the fields of the first one, in this order, and between them others
whose keys are not among `names`. -/
inductive Adds (names : List String) : List (String × Json) → List (String × Json) → Prop
  | nil : Adds names [] []
  | keep {fs fs' : List (String × Json)} (f : String × Json) (h : Adds names fs fs') :
    Adds names (f :: fs) (f :: fs')
  | add {fs fs' : List (String × Json)} (f : String × Json) (hf : f.1 ∉ names)
    (h : Adds names fs fs') : Adds names fs (f :: fs')

theorem Adds.refl (names : List String) : (fs : List (String × Json)) → Adds names fs fs
  | [] => .nil
  | f :: fs => .keep f (refl names fs)

/-- What is added is not found under the names. -/
theorem Adds.get?_eq {names : List String} (h : Adds names fs fs') (hname : name ∈ names) :
    get? fs' name = get? fs name := by
  induction h with
  | nil => rfl
  | keep f _ ih =>
      by_cases hf : f.1 = name
      · simp [get?, hf]
      · simpa [get?, hf] using ih
  | add f hnot _ ih =>
      have hf : f.1 ≠ name := fun heq => hnot (heq ▸ hname)
      simpa [get?, hf] using ih

end Json.Fields

/-! ## The fields of a group -/

namespace Fields

variable {kind : Group} {size given index : Nat} {name key : String} {shape : Shape}
  {fallback : Option Json} {fields rest : Fields} {v w w' : Json} {fs fs' : List (String × Json)}

/-- The names of some fields. -/
def names : Fields → List String
  | .nil => []
  | .cons name _ _ rest => name :: rest.names

/-- The shape of the field at an index. -/
def shapeAt? : Fields → Nat → Option Shape
  | .nil, _ => none
  | .cons _ shape _ _, 0 => some shape
  | .cons _ _ _ rest, i + 1 => rest.shapeAt? i

/-- Exactly one of the fields has the name `key`, and it has this shape. -/
inductive Declares (key : String) (shape : Shape) : Fields → Prop
  | here {fallback : Option Json} {rest : Fields} (h : key ∉ rest.names) :
    Declares key shape (.cons key shape fallback rest)
  | there {name : String} {other : Shape} {fallback : Option Json} {rest : Fields}
    (hne : name ≠ key) (h : Declares key shape rest) :
    Declares key shape (.cons name other fallback rest)

/-- Where no name comes twice, every field is declared. -/
theorem declares_of_nodup {i : Nat} (hnodup : fields.names.Nodup)
    (hname : fields.names[i]? = some key) (hshape : fields.shapeAt? i = some shape) :
    fields.Declares key shape := by
  induction fields using Fields.names.induct generalizing i with
  | case1 => cases hshape
  | case2 name first fallback rest ih =>
      obtain ⟨hnew, hnodup⟩ := List.nodup_cons.mp hnodup
      cases i with
      | zero =>
          cases hname
          cases hshape
          exact .here hnew
      | succ i =>
          have hname : rest.names[i]? = some key := hname
          have hne : name ≠ key := by
            rintro rfl
            exact hnew (List.mem_of_getElem? hname)
          exact .there hne (ih hnodup hname hshape)

/-! ### Arrays -/

section

variable {pre post : List Json}

theorem readArray_absent {a : shape.Carrier} {r : rest.Carrier} (hv : fallback = some v)
    (h : shape.read v = .ok a) (hrest : rest.readArray kind size given (index + 1) [] = .ok r) :
    (cons name shape fallback rest).readArray kind size given index [] = .ok (a, r) := by
  simp only [readArray, hv, h, hrest]
  rfl

/-- Items that are read alike make no difference to an array. -/
theorem readArray_congr (hshape : fields.shapeAt? pre.length = some shape)
    (h : shape.read w = shape.read w') :
    fields.readArray kind size given index (pre ++ w :: post) =
      fields.readArray kind size given index (pre ++ w' :: post) := by
  induction pre generalizing fields index with
  | nil =>
      cases fields with
      | nil => cases hshape
      | cons name first fallback rest =>
          cases hshape
          simp only [List.nil_append, readArray, h]
  | cons v pre ih =>
      cases fields with
      | nil => cases hshape
      | cons name first fallback rest =>
          have hrest : rest.shapeAt? pre.length = some shape := hshape
          simp only [List.cons_append, readArray, ih hrest]

/-- Every item of an array that is read has the shape of its field. -/
theorem read_of_readArray {r : fields.Carrier}
    (hshape : fields.shapeAt? pre.length = some shape)
    (h : fields.readArray kind size given index (pre ++ w :: post) = .ok r) :
    ∃ a, shape.read w = .ok a := by
  induction pre generalizing fields index with
  | nil =>
      cases fields with
      | nil => cases hshape
      | cons name first fallback rest =>
          cases hshape
          simp only [List.nil_append, readArray] at h
          obtain ⟨a, ha, -⟩ := Misfit.bind_eq_ok_iff.mp h
          exact ⟨a, ha⟩
  | cons v pre ih =>
      cases fields with
      | nil => cases hshape
      | cons name first fallback rest =>
          simp only [List.cons_append, readArray] at h
          obtain ⟨a, -, h⟩ := Misfit.bind_eq_ok_iff.mp h
          obtain ⟨r, hr, -⟩ := Misfit.bind_eq_ok_iff.mp h
          exact ih hshape hr

end

/-! ### Objects -/

variable {pre post : List (String × Json)}

theorem check_of_notMem (h : key ∉ fields.names) : fields.check key v = .ok () := by
  induction fields using Fields.names.induct with
  | case1 => rfl
  | case2 name shape fallback rest ih =>
      have hne : name ≠ key := fun heq => h (heq ▸ List.mem_cons_self)
      rw [check, if_neg hne]
      exact ih fun hrest => h (List.mem_cons_of_mem _ hrest)

theorem check_congr (hkey : fields.Declares key shape) (h : shape.read w = shape.read w') :
    fields.check key w = fields.check key w' := by
  induction hkey with
  | here => rw [check, check, if_pos rfl, if_pos rfl, h]
  | there hne _ ih => rw [check, check, if_neg hne, if_neg hne, ih]

theorem read_of_check (hkey : fields.Declares key shape) (h : fields.check key w = .ok ()) :
    ∃ a, shape.read w = .ok a := by
  induction hkey with
  | here =>
      rw [check, if_pos rfl] at h
      cases hread : shape.read w with
      | error why =>
          rw [hread] at h
          cases h
      | ok a => exact ⟨a, rfl⟩
  | there hne _ ih =>
      rw [check, if_neg hne] at h
      exact ih h

/-- An object is read by what stands under the names of the fields. -/
theorem readObject_congr
    (h : ∀ name ∈ fields.names, Json.Fields.get? fs name = Json.Fields.get? fs' name) :
    fields.readObject fs = fields.readObject fs' := by
  induction fields using Fields.names.induct with
  | case1 => rfl
  | case2 name shape fallback rest ih =>
      have hrest := ih fun n hn => h n (List.mem_cons_of_mem _ hn)
      simp only [readObject, h name List.mem_cons_self, hrest]

/-- Values that are read alike make no difference to an object. -/
theorem readObject_replace (hkey : fields.Declares key shape)
    (h : shape.read w = shape.read w') :
    fields.readObject (pre ++ (key, w) :: post) = fields.readObject (pre ++ (key, w') :: post) := by
  induction hkey with
  | @here fallback rest hkey =>
      have hrest : rest.readObject (pre ++ (key, w) :: post) =
          rest.readObject (pre ++ (key, w') :: post) :=
        readObject_congr fun name hname =>
          Json.Fields.get?_append_of_ne w w' fun heq => hkey (heq ▸ hname)
      simp only [readObject, Json.Fields.get?_append_self, hrest]
      -- An earlier field with the same key is the one that is read.
      cases Json.Fields.get? pre key with
      | some v => rfl
      | none => simp only [Option.none_or, Option.some_or, h]
  | there hne _ ih =>
      simp only [readObject, Json.Fields.get?_append_of_ne w w' hne.symm, ih]

/-- The values of the fields of a record, in their order, where the object has the fields `fs`.
An absent field stands as its fallback, or not at all if all others after it do not either. -/
inductive Listed (fs : List (String × Json)) : Fields → List Json → Prop
  | nil : Listed fs .nil []
  | cons {name : String} {shape : Shape} {fallback : Option Json} {rest : Fields} {v : Json}
    {vs : List Json} (hv : (Json.Fields.get? fs name).or fallback = some v)
    (h : Listed fs rest vs) : Listed fs (.cons name shape fallback rest) (v :: vs)
  | absent {name : String} {shape : Shape} {fallback : Option Json} {rest : Fields}
    (hnone : Json.Fields.get? fs name = none) (h : Listed fs rest []) :
    Listed fs (.cons name shape fallback rest) []

theorem readObject_cons_inv {r : (cons name shape fallback rest).Carrier}
    (h : (cons name shape fallback rest).readObject fs = .ok r) :
    ∃ v a r', (Json.Fields.get? fs name).or fallback = some v ∧ shape.read v = .ok a ∧
      rest.readObject fs = .ok r' ∧ r = (a, r') := by
  simp only [readObject] at h
  cases hv : (Json.Fields.get? fs name).or fallback with
  | none =>
      rw [hv] at h
      cases h
  | some v =>
      rw [hv] at h
      obtain ⟨a, ha, h⟩ := Misfit.bind_eq_ok_iff.mp h
      obtain ⟨r', hr, h⟩ := Misfit.bind_eq_ok_iff.mp h
      cases h
      exact ⟨v, a, r', rfl, ha, hr, rfl⟩

/-- What is read from an object is read from the array of its fields. -/
theorem readArray_of_listed {vs : List Json} {r : fields.Carrier} (hlisted : Listed fs fields vs)
    (h : fields.readObject fs = .ok r) : fields.readArray kind size given index vs = .ok r := by
  induction hlisted generalizing index with
  | nil => rfl
  | cons hv _ ih =>
      obtain ⟨v, a, r', hv', ha, hr, rfl⟩ := readObject_cons_inv h
      cases hv.symm.trans hv'
      exact readArray_cons ha (ih hr)
  | absent hnone _ ih =>
      obtain ⟨v, a, r', hv, ha, hr, rfl⟩ := readObject_cons_inv h
      rw [hnone, Option.none_or] at hv
      exact readArray_absent hv ha (ih hr)

end Fields

/-! ## One change somewhere in a value -/

namespace Shape

variable {item shape : Shape} {kind : Group} {name key : String} {fields : Fields} {w w' : Json}

/-- One change in a value that is read by a shape. `change s w w'` says that `w`, where `s` reads
it, may be changed into `w'`, and the other rules go down to the place of such a change. -/
inductive Within (change : Shape → Json → Json → Prop) : Shape → Json → Json → Prop
  | here {shape : Shape} {w w' : Json} (h : change shape w w') : Within change shape w w'
  /-- An item of a list. -/
  | item {shape : Shape} {w w' : Json} (pre post : List Json) (h : Within change shape w w') :
    Within change (.list shape) (.array (pre ++ w :: post)) (.array (pre ++ w' :: post))
  /-- A field of a group that is given as an array. -/
  | element {kind : Group} {fields : Fields} {shape : Shape} {w w' : Json} (pre post : List Json)
    (hshape : fields.shapeAt? pre.length = some shape) (h : Within change shape w w') :
    Within change (.group kind fields) (.array (pre ++ w :: post)) (.array (pre ++ w' :: post))
  /-- A field of a record that is given as an object. -/
  | field {name key : String} {fields : Fields} {shape : Shape} {w w' : Json}
    (pre post : List (String × Json)) (hkey : fields.Declares key shape)
    (h : Within change shape w w') :
    Within change (.group (.record name) fields) (.object (pre ++ (key, w) :: post))
      (.object (pre ++ (key, w') :: post))

/-! ### Items -/

theorem read_item_congr (pre post : List Json) (h : item.read w = item.read w') :
    (list item).read (.array (pre ++ w :: post)) = (list item).read (.array (pre ++ w' :: post)) := by
  simp only [Shape.read, List.mapM_append, List.mapM_cons, h]

theorem read_of_read_list {pre post : List Json} {as : List item.Carrier}
    (h : (list item).read (.array (pre ++ w :: post)) = .ok as) : ∃ a, item.read w = .ok a := by
  simp only [Shape.read, List.mapM_append, List.mapM_cons] at h
  obtain ⟨_, -, h⟩ := Misfit.bind_eq_ok_iff.mp h
  obtain ⟨_, h, -⟩ := Misfit.bind_eq_ok_iff.mp h
  obtain ⟨a, ha, -⟩ := Misfit.bind_eq_ok_iff.mp h
  exact ⟨a, ha⟩

/-! ### Fields -/

theorem read_element_congr (pre post : List Json)
    (hshape : fields.shapeAt? pre.length = some shape) (h : shape.read w = shape.read w') :
    (group kind fields).read (.array (pre ++ w :: post)) =
      (group kind fields).read (.array (pre ++ w' :: post)) := by
  have hlength : (pre ++ w :: post).length = (pre ++ w' :: post).length := by
    simp only [List.length_append, List.length_cons]
  simp only [Shape.read, hlength]
  exact Fields.readArray_congr hshape h

theorem read_record_congr {fs fs' : List (String × Json)}
    (hcheck : (fs.forM fun f => fields.check f.1 f.2) = fs'.forM fun f => fields.check f.1 f.2)
    (hread : fields.readObject fs = fields.readObject fs') :
    (group (.record name) fields).read (.object fs) =
      (group (.record name) fields).read (.object fs') := by
  simp only [Shape.read, hcheck, hread]

theorem read_field_congr (pre post : List (String × Json)) (hkey : fields.Declares key shape)
    (h : shape.read w = shape.read w') :
    (group (.record name) fields).read (.object (pre ++ (key, w) :: post)) =
      (group (.record name) fields).read (.object (pre ++ (key, w') :: post)) := by
  apply read_record_congr
  · simp only [List.forM_eq_forM, List.forM_append, List.forM_cons, Fields.check_congr hkey h]
  · exact Fields.readObject_replace hkey h

theorem read_of_read_object {pre post : List (String × Json)} {r : fields.Carrier}
    (hkey : fields.Declares key shape)
    (h : (group (.record name) fields).read (.object (pre ++ (key, w) :: post)) = .ok r) :
    ∃ a, shape.read w = .ok a := by
  simp only [Shape.read, List.forM_eq_forM, List.forM_append, List.forM_cons] at h
  obtain ⟨_, h, -⟩ := Misfit.bind_eq_ok_iff.mp h
  obtain ⟨_, -, h⟩ := Misfit.bind_eq_ok_iff.mp h
  obtain ⟨_, h, -⟩ := Misfit.bind_eq_ok_iff.mp h
  exact Fields.read_of_check hkey h

/-! ### Steps -/

variable {change : Shape → Json → Json → Prop} {v v' : Json}

/-- A change that never shows in the outcome does not show from outside. -/
theorem Within.read_eq (hchange : ∀ {s w w'}, change s w w' → s.read w = s.read w')
    (h : shape.Within change v v') : shape.read v = shape.read v' := by
  induction h with
  | here h => exact hchange h
  | item pre post _ ih => exact read_item_congr pre post ih
  | element pre post hshape _ ih => exact read_element_congr pre post hshape ih
  | field pre post hkey _ ih => exact read_field_congr pre post hkey ih

/-- A change that keeps what can be read does so from outside: the outer value is read only
if the inner one is, and then the two inner ones are read alike. -/
theorem Within.read_ok
    (hchange : ∀ {s w w'} {b : s.Carrier}, change s w w' → s.read w = .ok b → s.read w' = .ok b)
    {a : shape.Carrier} (h : shape.Within change v v') (hread : shape.read v = .ok a) :
    shape.read v' = .ok a := by
  induction h with
  | here h => exact hchange h hread
  | item pre post _ ih =>
      obtain ⟨b, hb⟩ := read_of_read_list hread
      rw [← read_item_congr pre post (hb.trans (ih hb).symm)]
      exact hread
  | element pre post hshape _ ih =>
      obtain ⟨b, hb⟩ := Fields.read_of_readArray hshape hread
      rw [← read_element_congr pre post hshape (hb.trans (ih hb).symm)]
      exact hread
  | field pre post hkey _ ih =>
      obtain ⟨b, hb⟩ := read_of_read_object hkey hread
      rw [← read_field_congr pre post hkey (hb.trans (ih hb).symm)]
      exact hread

end Shape

/-! ## Unknown fields -/

/-- Fields of unknown names are added to the object of a record. -/
inductive AddsFields : Shape → Json → Json → Prop
  | record {name : String} {fields : Fields} {fs fs' : List (String × Json)}
    (h : Json.Fields.Adds fields.names fs fs') :
    AddsFields (.group (.record name) fields) (.object fs) (.object fs')

theorem Fields.forM_check_of_adds {fields : Fields} {fs fs' : List (String × Json)}
    (h : Json.Fields.Adds fields.names fs fs') :
    (fs.forM fun f => fields.check f.1 f.2) = fs'.forM fun f => fields.check f.1 f.2 := by
  simp only [List.forM_eq_forM]
  induction h with
  | nil => rfl
  | keep f _ ih => rw [List.forM_cons, List.forM_cons, ih]
  | add f hf _ ih =>
      rw [List.forM_cons, check_of_notMem hf]
      exact ih

theorem AddsFields.read_eq {shape : Shape} {v v' : Json} (h : AddsFields shape v v') :
    shape.read v = shape.read v' := by
  cases h with
  | record h =>
      exact Shape.read_record_congr (Fields.forM_check_of_adds h)
        (Fields.readObject_congr fun name hname => (h.get?_eq hname).symm)

/-! ## Records as arrays -/

/-- The array of the fields of a record takes the place of its object. -/
inductive Unnames : Shape → Json → Json → Prop
  | record {name : String} {fields : Fields} {fs : List (String × Json)} {vs : List Json}
    (h : Fields.Listed fs fields vs) :
    Unnames (.group (.record name) fields) (.object fs) (.array vs)

theorem Unnames.read_ok {shape : Shape} {v v' : Json} {a : shape.Carrier}
    (h : Unnames shape v v') (hread : shape.read v = .ok a) : shape.read v' = .ok a := by
  cases h with
  | record h =>
      simp only [Shape.read] at hread ⊢
      obtain ⟨_, -, hread⟩ := Misfit.bind_eq_ok_iff.mp hread
      exact Fields.readArray_of_listed h hread

/-! ## Parameters -/

/-- A reading of values of a shape that takes no notice of unknown fields nor, where it succeeds,
of whether records are given as objects or as arrays, in as many places as may be. -/
structure Shape.Tolerant {α : Type} (shape : Shape) (read : Json → Except Misfit α) : Prop where
  unknown {v v' : Json} (h : Relation.ReflTransGen (shape.Within AddsFields) v v') :
    read v' = read v
  unnamed {v v' : Json} {a : α} (h : Relation.ReflTransGen (shape.Within Unnames) v v')
    (hread : read v = .ok a) : read v' = .ok a

namespace Shape

theorem tolerant_read (shape : Shape) : shape.Tolerant shape.read where
  unknown h := by
    induction h with
    | refl => rfl
    | tail _ hstep ih => exact (hstep.read_eq AddsFields.read_eq).symm.trans ih
  unnamed h hread := by
    induction h with
    | refl => exact hread
    | tail _ hstep ih => exact hstep.read_ok Unnames.read_ok ih

theorem Tolerant.map {α β : Type} {shape : Shape} {read : Json → Except Misfit α}
    (h : shape.Tolerant read) (f : α → β) : shape.Tolerant fun v => (read v).map f where
  unknown hsteps := congrArg (Except.map f) (h.unknown hsteps)
  unnamed {v v' b} hsteps hread := by
    cases hv : read v with
    | error why =>
        rw [hv] at hread
        cases hread
    | ok a =>
        rw [hv] at hread
        rw [h.unnamed hsteps hv]
        exact hread

end Shape

/-- **What is read of the parameters of a message does not depend on unknown fields, nor on
whether their records are objects or arrays**: neither the values of their shapes nor what is
made of them. -/
theorem params_tolerant :
    (∀ shape : Shape, shape.Tolerant shape.read) ∧
    DocumentText.openedShape.Tolerant DocumentText.opened ∧
    DocumentText.changedShape.Tolerant DocumentText.changed ∧
    closedShape.Tolerant closedUri ∧
    FixQuery.shape.Tolerant FixQuery.read ∧
    CommandCall.shape.Tolerant CommandCall.read ∧
    TextEdit.shape.Tolerant (fun v => (TextEdit.shape.read v).map TextEdit.ofFields) ∧
    Range.shape.Tolerant (fun v => (Range.shape.read v).map Range.ofFields) :=
  ⟨Shape.tolerant_read, (Shape.tolerant_read _).map _, (Shape.tolerant_read _).map _,
    (Shape.tolerant_read _).map _, (Shape.tolerant_read _).map _, (Shape.tolerant_read _).map _,
    (Shape.tolerant_read _).map _, (Shape.tolerant_read _).map _⟩

/-- A change with an unknown field in an item of its list, and one with its outer and an inner
record given as arrays, is the change without. -/
theorem params_tolerant_nested :
    DocumentText.changed (.object [
      ("contentChanges", .array [.object [("range", .null), ("text", .string "a")]]),
      ("textDocument", .object [("uri", .string "u"), ("version", .int 2)])]) =
      .ok (some ⟨"u", ⟨2, "a"⟩⟩) ∧
    DocumentText.changed (.array [.array [.string "u", .int 2],
      .array [.object [("text", .string "a")]]]) = .ok (some ⟨"u", ⟨2, "a"⟩⟩) := by
  have hplain : DocumentText.changed (.object [
      ("contentChanges", .array [.object [("text", .string "a")]]),
      ("textDocument", .object [("uri", .string "u"), ("version", .int 2)])]) =
      .ok (some ⟨"u", ⟨2, "a"⟩⟩) := rfl
  constructor
  · have hrange : Json.Fields.Adds ["text"] [("text", .string "a")]
        [("range", .null), ("text", .string "a")] := .add _ (by decide) (.refl _ _)
    refine (params_tolerant.2.2.1.unknown (.single ?_)).trans hplain
    exact .field [] _ (Fields.declares_of_nodup (i := 1) (by decide) rfl rfl)
      (.item [] [] (.here (.record hrange)))
  · have houter : DocumentText.changedShape.Within Unnames
        (.object [("contentChanges", .array [.object [("text", .string "a")]]),
          ("textDocument", .object [("uri", .string "u"), ("version", .int 2)])])
        (.array [.object [("uri", .string "u"), ("version", .int 2)],
          .array [.object [("text", .string "a")]]]) :=
      .here (.record (.cons rfl (.cons rfl .nil)))
    refine params_tolerant.2.2.1.unnamed (.head houter (.single ?_)) hplain
    exact .element [] _ rfl (.here (.record (.cons rfl (.cons rfl .nil))))

end LintBridge
