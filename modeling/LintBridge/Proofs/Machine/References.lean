import LintBridge.Machine.Environment
import LintBridge.Proofs.Text.Utf8

set_option autoImplicit false

/-! # References to variables

A text is *closed* if each reference that is opened in it is closed in it, too (`Closed`). Every
other text is a closed one with an opening behind it that nothing closes (`closed_or_unclosed`).
A closed text may be expanded apart from what follows it (`expandFrom_append`), since there is
nothing it leaves open.

A process is given its environment as bytes (`blockOf`), not all of which need to be text. What a
reference stands for in such an environment is read off the bytes (`getD_get?_ofBlock`).

The main statement is `expand_compositional`.
-/

namespace LintBridge.Environment

/-! ## Closed texts -/

/-- A text in which each reference that is opened is closed. A reference goes up to the first
closing brace. -/
inductive Closed : List Char → Prop
  | nil : Closed []
  | plain {c : Char} {rest : List Char} (hopening : ¬ ['$', '{'] <+: c :: rest)
      (hrest : Closed rest) : Closed (c :: rest)
  | reference {name rest : List Char} (hname : '}' ∉ name) (hrest : Closed rest) :
      Closed ('$' :: '{' :: (name ++ '}' :: rest))

theorem opening_prefix_iff {c : Char} {rest : List Char} :
    ['$', '{'] <+: c :: rest ↔ c = '$' ∧ rest.head? = some '{' := by
  rw [List.cons_prefix_cons]
  cases rest with
  | nil => simp
  | cons d rest => simp [List.cons_prefix_cons, eq_comm]

/-- A text that is not closed has an opening that nothing closes behind a closed text. -/
theorem closed_or_unclosed (cs : List Char) :
    Closed cs ∨ ∃ front tail, cs = front ++ '$' :: '{' :: tail ∧ Closed front ∧ '}' ∉ tail := by
  induction hn : cs.length using Nat.strongRecOn generalizing cs with
  | _ n ih =>
      cases cs with
      | nil => exact .inl .nil
      | cons c rest =>
          by_cases hopening : ['$', '{'] <+: c :: rest
          · obtain ⟨rfl, hhead⟩ := opening_prefix_iff.mp hopening
            obtain ⟨tail, rfl⟩ := List.head?_eq_some_iff.mp hhead
            by_cases hclose : '}' ∈ tail
            · obtain ⟨name, rest, rfl, hname⟩ := List.eq_append_cons_of_mem hclose
              have hshort : rest.length < n := by
                simp only [← hn, List.length_cons, List.length_append]
                omega
              refine (ih rest.length hshort rest rfl).imp (.reference hname) ?_
              rintro ⟨front, tail, rfl, hfront, htail⟩
              exact ⟨'$' :: '{' :: (name ++ '}' :: front), tail, by simp,
                .reference hname hfront, htail⟩
            · exact .inr ⟨[], tail, rfl, .nil, hclose⟩
          · have hshort : rest.length < n := by
              rw [← hn]
              exact Nat.lt_succ_self _
            refine (ih rest.length hshort rest rfl).imp (.plain hopening) ?_
            rintro ⟨front, tail, rfl, hfront, htail⟩
            refine ⟨c :: front, tail, rfl, .plain ?_ hfront, htail⟩
            -- What opens a reference in front of the tail does so with the tail behind it.
            exact fun h => hopening (h.trans (List.prefix_append _ _))

/-! ## Steps of the expansion -/

section

variable (env : Environment)

theorem expandFrom_plain {c : Char} {rest : List Char} (h : ¬ ['$', '{'] <+: c :: rest) :
    env.expandFrom none (c :: rest) = c :: env.expandFrom none rest := by
  apply expandFrom.eq_3
  rintro rest' rfl rfl
  exact h ⟨rest', rfl⟩

theorem expandFrom_name {name : List Char} (h : '}' ∉ name) (read rest : List Char) :
    env.expandFrom (some read) (name ++ '}' :: rest) =
      env.valueOf (read.reverse ++ name) ++ env.expandFrom none rest := by
  induction name generalizing read with
  | nil => simp [expandFrom]
  | cons c name ih =>
      obtain ⟨hc, hname⟩ := not_or.mp (mt List.mem_cons.mpr h)
      have hgo : env.expandFrom (some read) (c :: (name ++ '}' :: rest)) =
          env.expandFrom (some (c :: read)) (name ++ '}' :: rest) := by
        rw [expandFrom, if_neg (Ne.symm hc)]
      rw [List.cons_append, hgo, ih hname, List.reverse_cons, List.append_assoc,
        List.singleton_append]

/-- A reference is replaced by what it stands for, and the expansion goes on behind it. -/
theorem expandFrom_reference {name : List Char} (h : '}' ∉ name) (rest : List Char) :
    env.expandFrom none ('$' :: '{' :: (name ++ '}' :: rest)) =
      env.valueOf name ++ env.expandFrom none rest := by
  rw [expandFrom, expandFrom_name env h, List.reverse_nil, List.nil_append]

/-- An opening that nothing closes stays, with all that follows it. -/
theorem expandFrom_unclosed {tail : List Char} (h : '}' ∉ tail) :
    env.expandFrom none ('$' :: '{' :: tail) = '$' :: '{' :: tail := by
  have key : ∀ read : List Char,
      env.expandFrom (some read) tail = '$' :: '{' :: (read.reverse ++ tail) := by
    induction tail with
    | nil => simp [expandFrom]
    | cons c tail ih =>
        obtain ⟨hc, htail⟩ := not_or.mp (mt List.mem_cons.mpr h)
        intro read
        rw [expandFrom, if_neg (Ne.symm hc), ih htail, List.reverse_cons, List.append_assoc,
          List.singleton_append]
  rw [expandFrom, key, List.reverse_nil, List.nil_append]

/-- A text without openings stays. -/
theorem expandFrom_of_no_opening {cs : List Char} (h : ¬ ['$', '{'] <:+: cs) :
    env.expandFrom none cs = cs := by
  induction cs with
  | nil => rfl
  | cons c rest ih =>
      have hrest : ¬ ['$', '{'] <:+: rest := mt List.infix_cons h
      rw [expandFrom_plain env fun hpre => h hpre.isInfix, ih hrest]

/-- **Closed texts are expanded apart from what follows them**, unless a reference is opened
just between the two. -/
theorem expandFrom_append {cs : List Char} (hcs : Closed cs) {cs' : List Char}
    (hbetween : ¬ (cs.getLast? = some '$' ∧ cs'.head? = some '{')) :
    env.expandFrom none (cs ++ cs') = env.expandFrom none cs ++ env.expandFrom none cs' := by
  induction hcs with
  | nil => rfl
  | @plain c rest hopening hrest ih =>
      have hopening' : ¬ ['$', '{'] <+: c :: (rest ++ cs') := by
        rw [opening_prefix_iff] at hopening ⊢
        cases rest with
        | nil => simpa using hbetween
        | cons d rest => simpa using hopening
      have hbetween' : ¬ (rest.getLast? = some '$' ∧ cs'.head? = some '{') := by
        rintro ⟨hlast, hhead⟩
        refine hbetween ⟨?_, hhead⟩
        rw [List.getLast?_cons, hlast, Option.getD_some]
      rw [List.cons_append, expandFrom_plain env hopening', expandFrom_plain env hopening,
        ih hbetween', List.cons_append]
  | @reference name rest hname hrest ih =>
      have hbetween' : ¬ (rest.getLast? = some '$' ∧ cs'.head? = some '{') := by
        rintro ⟨hlast, hhead⟩
        refine hbetween ⟨?_, hhead⟩
        simp [List.getLast?_cons, List.getLast?_append, hlast]
      have hcut : '$' :: '{' :: (name ++ '}' :: rest) ++ cs' =
          '$' :: '{' :: (name ++ '}' :: (rest ++ cs')) := by
        simp only [List.cons_append, List.append_assoc]
      rw [hcut, expandFrom_reference env hname, expandFrom_reference env hname, ih hbetween',
        List.append_assoc]

end

/-! ## Environments as bytes -/

open Text

/-- A variable as a process is given it. -/
structure Variable where
  name : List UInt8
  value : List UInt8
  /-- An equals sign ends a name. -/
  name_ends : 61 ∉ name ∧ 0 ∉ name
  /-- A zero byte ends a value. -/
  value_ends : 0 ∉ value

/-- A variable as it stands in a block. -/
def Variable.bytes (v : Variable) : List UInt8 := v.name ++ 61 :: v.value

/-- The block of some variables. -/
def blockOf (vars : List Variable) : List UInt8 := vars.flatMap fun v => v.bytes ++ [0]

/-- The value of a variable, if it is set and its bytes are text. -/
def textIn (vars : List Variable) (name : String) : Option String :=
  (vars.find? (·.name = Utf8.encode name.toList)).bind fun v =>
    (Utf8.decode v.value).toOption.map String.ofList

theorem binding?_eq_some_iff {v : Variable} {name value : String} :
    binding? v.bytes = some (name, value) ↔
      v.name = Utf8.encode name.toList ∧ v.value = Utf8.encode value.toList := by
  have hcut : ∀ {before behind : List Char}, '=' ∉ before →
      binding? (Utf8.encode (before ++ '=' :: behind)) =
        some (String.ofList before, String.ofList behind) := by
    intro before behind h
    obtain ⟨htake, hdrop⟩ := takeWhile_dropWhile_sep h behind
    simp only [binding?, Utf8.decode_encode, htake, hdrop]
  constructor
  · intro h
    have hdecode : ∃ cs, Utf8.decode v.bytes = .ok cs := by
      unfold binding? at h
      split at h
      · cases h
      · exact ⟨_, ‹_›⟩
    obtain ⟨cs, hcs⟩ := hdecode
    rw [Utf8.decode_eq_ok_iff] at hcs
    obtain ⟨before, behind, rfl, hbefore, hname, hvalue⟩ :=
      (@Utf8.encode_eq_append_ascii_iff '=' (by decide) cs v.name v.value v.name_ends.1).mp
        hcs.symm
    rw [hcs, hcut hbefore] at h
    obtain ⟨rfl, rfl⟩ := Prod.mk.inj (Option.some.inj h)
    rw [String.toList_ofList, String.toList_ofList]
    exact ⟨hname, hvalue⟩
  · rintro ⟨hname, hvalue⟩
    have hends : '=' ∉ name.toList := by
      have := v.name_ends.1
      rw [hname] at this
      exact mt (@Utf8.ascii_mem_encode_iff '=' (by decide) name.toList).mpr this
    have hbytes : v.bytes = Utf8.encode (name.toList ++ '=' :: value.toList) := by
      rw [Variable.bytes, hname, hvalue, Utf8.encode_append, Utf8.encode_cons]
      rfl
    rw [hbytes, hcut hends, String.ofList_toList, String.ofList_toList]

theorem split_append {piece : List UInt8} (h : 0 ∉ piece) (read rest : List UInt8) :
    ofBlock.split read (piece ++ 0 :: rest) =
      (read.reverse ++ piece) :: ofBlock.split [] rest := by
  induction piece generalizing read with
  | nil => simp [ofBlock.split]
  | cons b piece ih =>
      obtain ⟨hb, hpiece⟩ := not_or.mp (mt List.mem_cons.mpr h)
      have hgo : ofBlock.split read (b :: (piece ++ 0 :: rest)) =
          ofBlock.split (b :: read) (piece ++ 0 :: rest) := by
        rw [ofBlock.split, if_neg (Ne.symm hb)]
      rw [List.cons_append, hgo, ih hpiece, List.reverse_cons, List.append_assoc,
        List.singleton_append]

/-- The variables of a block are read one by one. -/
theorem bindings_ofBlock (vars : List Variable) :
    (ofBlock (blockOf vars)).bindings = vars.filterMap fun v => binding? v.bytes := by
  show (ofBlock.split [] (blockOf vars)).filterMap binding? = _
  induction vars with
  | nil => rfl
  | cons v vars ih =>
      have hends : 0 ∉ v.bytes := by
        simp [Variable.bytes, v.name_ends.2, v.value_ends]
      have hcut : blockOf (v :: vars) = v.bytes ++ 0 :: blockOf vars := by
        simp [blockOf]
      rw [hcut, split_append hends, List.reverse_nil, List.nil_append, List.filterMap_cons,
        List.filterMap_cons, ih]

theorem textIn_cons (v : Variable) (vars : List Variable) (name : String) :
    textIn (v :: vars) name =
      if v.name = Utf8.encode name.toList then (Utf8.decode v.value).toOption.map String.ofList
      else textIn vars name := by
  unfold textIn
  rw [List.find?_cons]
  split
  · rename_i h
    rw [if_pos (of_decide_eq_true h)]
    rfl
  · rename_i h
    rw [if_neg (of_decide_eq_false h)]

theorem textIn_of_notMem {vars : List Variable} {name : String}
    (h : Utf8.encode name.toList ∉ vars.map Variable.name) : textIn vars name = none := by
  have hfind : vars.find? (·.name = Utf8.encode name.toList) = none := by
    rw [List.find?_eq_none]
    intro v hv heq
    exact h (List.mem_map.mpr ⟨v, hv, of_decide_eq_true heq⟩)
  rw [textIn, hfind]
  rfl

/-- In the environment that a block states, a variable has the text of its bytes as its value. -/
theorem get?_ofBlock {vars : List Variable} (hdistinct : (vars.map Variable.name).Nodup)
    (name : String) : (ofBlock (blockOf vars)).get? name = textIn vars name := by
  rw [get?, bindings_ofBlock]
  induction vars with
  | nil => rfl
  | cons v vars ih =>
      obtain ⟨hnew, hdistinct⟩ := List.nodup_cons.mp hdistinct
      rw [textIn_cons, List.filterMap_cons]
      cases hread : binding? v.bytes with
      | none =>
          rw [ih hdistinct]
          split
          · rename_i hname
            -- The value is no text, and the name does not come again.
            have hvalue : (Utf8.decode v.value).toOption = none := by
              cases hdecode : Utf8.decode v.value with
              | error => rfl
              | ok cs =>
                  have hset : binding? v.bytes = some (name, String.ofList cs) := by
                    rw [binding?_eq_some_iff, String.toList_ofList]
                    exact ⟨hname, Utf8.decode_eq_ok_iff.mp hdecode⟩
                  cases hread.symm.trans hset
            rw [hvalue, textIn_of_notMem (hname ▸ hnew)]
            rfl
          · rfl
      | some binding =>
          obtain ⟨other, value⟩ := binding
          obtain ⟨hother, hvalue⟩ := binding?_eq_some_iff.mp hread
          by_cases hname : other = name
          · subst hname
            rw [if_pos hother, hvalue, Utf8.decode_encode]
            simp [Except.toOption]
          · have hne : v.name ≠ Utf8.encode name.toList := by
              rw [hother, Ne, Utf8.encode_inj, String.toList_inj]
              exact hname
            rw [if_neg hne, ← ih hdistinct]
            simp [hname]

/-! ## Expansion of texts -/

/-- The reference to a variable. -/
def reference (name : String) : String := String.ofList ('$' :: '{' :: (name.toList ++ ['}']))

/-- What a reference to a variable stands for. -/
def value (env : Environment) (name : String) : String :=
  if name = "" then "" else (env.get? name).getD ""

/-- An opening that nothing closes, with what follows it. -/
def unclosed (tail : String) : String := String.ofList ('$' :: '{' :: tail.toList)

section

variable (env : Environment)

theorem ofList_valueOf (name : String) :
    String.ofList (env.valueOf name.toList) = env.value name := by
  unfold valueOf value
  rw [String.ofList_toList]
  by_cases h : name = ""
  · subst h
    rfl
  · rw [if_neg h, if_neg (mt String.toList_eq_nil_iff.mp h), String.ofList_toList]

theorem expand_append {x : String} (hx : Closed x.toList) {y : String}
    (hbetween : ¬ (x.toList.getLast? = some '$' ∧ y.toList.head? = some '{')) :
    env.expand (x ++ y) = env.expand x ++ env.expand y := by
  simp only [expand, expandChars, String.toList_append]
  rw [expandFrom_append env hx hbetween, String.ofList_append]

theorem expand_reference_append {name : String} (h : '}' ∉ name.toList) (y : String) :
    env.expand (reference name ++ y) = env.value name ++ env.expand y := by
  have hcut : (reference name ++ y).toList = '$' :: '{' :: (name.toList ++ '}' :: y.toList) := by
    simp [reference]
  rw [expand, expandChars, hcut, expandFrom_reference env h, String.ofList_append,
    ofList_valueOf]
  rfl

theorem expand_reference {name : String} (h : '}' ∉ name.toList) :
    env.expand (reference name) = env.value name := by
  have hgo := env.expand_reference_append h ""
  rwa [String.append_empty, show env.expand "" = "" from rfl, String.append_empty] at hgo

theorem expand_of_no_opening {x : String} (h : ¬ ['$', '{'] <:+: x.toList) :
    env.expand x = x := by
  rw [expand, expandChars, expandFrom_of_no_opening env h, String.ofList_toList]

theorem expand_unclosed {tail : String} (h : '}' ∉ tail.toList) :
    env.expand (unclosed tail) = unclosed tail := by
  rw [expand, expandChars, unclosed, String.toList_ofList, expandFrom_unclosed env h]

theorem expand_append_unclosed {front tail : String} (hfront : Closed front.toList)
    (htail : '}' ∉ tail.toList) :
    env.expand (front ++ unclosed tail) = env.expand front ++ unclosed tail := by
  have hbetween : ¬ (front.toList.getLast? = some '$' ∧
      (unclosed tail).toList.head? = some '{') := by
    simp [unclosed]
  rw [env.expand_append hfront hbetween, env.expand_unclosed htail]

end

/-- **Variable expansion is a single pass, part by part.** A text whose references are all closed
is expanded apart from what follows it, unless a reference is opened just between the two. The
reference to a variable yields the value of the variable, and this value is not looked at again:
the expansion goes on behind the reference. The value is that of the variable's bytes, and empty
if these are no text or the variable is not set, and also if the name is empty. A text without
openings is left as it is, and so is an opening that nothing closes with all that follows it,
behind whatever closed text it stands. A text that is not closed has such an opening. -/
theorem expand_compositional (env : Environment) :
    (∀ x y : String, Closed x.toList →
      ¬ (x.toList.getLast? = some '$' ∧ y.toList.head? = some '{') →
        env.expand (x ++ y) = env.expand x ++ env.expand y) ∧
      (∀ name : String, '}' ∉ name.toList →
        env.expand (reference name) = (if name = "" then "" else (env.get? name).getD "") ∧
          ∀ y : String, env.expand (reference name ++ y) =
            env.expand (reference name) ++ env.expand y) ∧
      (∀ vars : List Variable, (vars.map Variable.name).Nodup → ∀ name : String,
        '}' ∉ name.toList → (ofBlock (blockOf vars)).expand (reference name) =
          if name = "" then "" else (textIn vars name).getD "") ∧
      (∀ x : String, ¬ ['$', '{'] <:+: x.toList → env.expand x = x) ∧
      (∀ tail : String, '}' ∉ tail.toList → env.expand (unclosed tail) = unclosed tail) ∧
      ∀ x : String, Closed x.toList ∨ ∃ front tail, x = front ++ unclosed tail ∧
        Closed front.toList ∧ '}' ∉ tail.toList ∧
          env.expand x = env.expand front ++ unclosed tail := by
  refine ⟨fun x y hx hbetween => env.expand_append hx hbetween, fun name hname => ?_,
    fun vars hdistinct name hname => ?_, fun x h => env.expand_of_no_opening h,
    fun tail h => env.expand_unclosed h, fun x => (closed_or_unclosed x.toList).imp_right ?_⟩
  · refine ⟨env.expand_reference hname, fun y => ?_⟩
    rw [env.expand_reference_append hname, env.expand_reference hname]
  · rw [expand_reference _ hname, value, get?_ofBlock hdistinct]
  · rintro ⟨front, tail, hcut, hfront, htail⟩
    obtain rfl : x = String.ofList front ++ unclosed (String.ofList tail) := by
      rw [← String.toList_inj, hcut]
      simp [unclosed]
    rw [← @String.toList_ofList front] at hfront
    rw [← @String.toList_ofList tail] at htail
    exact ⟨_, _, rfl, hfront, htail, env.expand_append_unclosed hfront htail⟩

/-- An environment in which the value of a variable looks like a reference to another one. -/
def nested : Environment := ⟨[("A", "$\x7bB\x7d"), ("B", "b")]⟩

/-- A variable whose value is no text. -/
def garbled : Variable where
  name := [65]
  value := [0xFF]
  name_ends := by decide
  value_ends := by decide

theorem expand_compositional_nested :
    Closed "a$$\x7bA\x7d".toList ∧
      ¬ ("a$$\x7bA\x7d".toList.getLast? = some '$' ∧ "\x7b$\x7bB".toList.head? = some '{') ∧
      nested.expand ("a$$\x7bA\x7d" ++ "\x7b$\x7bB") =
        nested.expand "a$$\x7bA\x7d" ++ nested.expand "\x7b$\x7bB" ∧
      '}' ∉ "A".toList ∧ nested.expand (reference "A") = "$\x7bB\x7d" ∧
      ([garbled].map Variable.name).Nodup ∧
      (ofBlock (blockOf [garbled])).expand (reference "A") = "" ∧
      ¬ ['$', '{'] <:+: "$A\x7d".toList ∧ nested.expand "$A\x7d" = "$A\x7d" ∧
      '}' ∉ "$\x7bA".toList ∧ nested.expand (unclosed "$\x7bA") = unclosed "$\x7bA" := by
  have hclosed : Closed "a$$\x7bA\x7d".toList :=
    .plain (by decide) (.plain (by decide) (@Closed.reference ['A'] [] (by decide) .nil))
  have hbetween : ¬ ("a$$\x7bA\x7d".toList.getLast? = some '$' ∧
      "\x7b$\x7bB".toList.head? = some '{') := by
    decide
  have hname : '}' ∉ "A".toList := by decide
  have hdistinct : ([garbled].map Variable.name).Nodup := by decide
  have hplain : ¬ ['$', '{'] <:+: "$A\x7d".toList := by decide
  have hopen : '}' ∉ "$\x7bA".toList := by decide
  obtain ⟨happend, hreference, hblock, hkeep, hunclosed, -⟩ := expand_compositional nested
  exact ⟨hclosed, hbetween, happend _ _ hclosed hbetween, hname, (hreference "A" hname).1,
    hdistinct, hblock [garbled] hdistinct "A" hname, hplain, hkeep _ hplain, hopen,
    hunclosed _ hopen⟩

end LintBridge.Environment
