import LintBridge.Document.Store
import Mathlib.Data.Finset.Card
import Mathlib.Data.Finset.Dedup

set_option autoImplicit false

/-! # What the document store remembers

The store is used by updates, look-ups and closes, in any order and for any documents. What it
holds for a document is settled by the texts that have been sent for it since it was closed last
(`sinceClose`): it is the newest of them (`IsNewest`), where of several texts with the greatest
version the one that came last counts. One use of the store keeps this up (`remembers_step`), and so
it holds after any uses (`remembers_after`). The main statement, `newest_snapshot_kept`, adds what
the next use answers.
-/

namespace LintBridge

/-- A map holds as many URIs as there are URIs for which something is found. -/
theorem UriMap.size_eq_card {α : Type} (m : UriMap α) {us : Finset String}
    (h : ∀ uri, uri ∈ us ↔ (m.get? uri).isSome = true) : m.size = us.card := by
  have hus : us = m.uris.toFinset := by
    ext uri
    rw [h, List.mem_toFinset, mem_uris_iff]
  have hnodup : m.uris.Nodup := m.nodup
  rw [hus, List.toFinset_card_of_nodup hnodup, length_uris]

namespace DocumentStore

/-! ## Uses of the store -/

/-- A use of the store. -/
inductive Call
  | update (uri : String) (d : Document)
  | get (uri : String)
  | close (uri : String)

/-- The store behind a use. -/
def run (s : DocumentStore) : Call → DocumentStore
  | .update uri d => (s.update uri d).1
  | .get _ => s
  | .close uri => (s.close uri).1

/-- The store behind some uses, without any document at first. -/
def after (calls : List Call) : DocumentStore := calls.foldl run .empty

namespace Call

/-- The text that a use sends for a document. -/
def text? (uri : String) : Call → Option Document
  | update u d => if u = uri then some d else none
  | get _ => none
  | close _ => none

/-- The use closes a document. -/
def closes (uri : String) : Call → Bool
  | update _ _ => false
  | get _ => false
  | close u => u = uri

end Call

/-- The texts that have been sent for a document since it was closed last, accepted or not. -/
def sinceClose (uri : String) (calls : List Call) : List Document :=
  ((calls.reverse.takeWhile (!·.closes uri)).filterMap (·.text? uri)).reverse

theorem after_concat (calls : List Call) (call : Call) :
    after (calls ++ [call]) = run (after calls) call := by
  rw [after, List.foldl_append]
  rfl

theorem sinceClose_concat (uri : String) (calls : List Call) (call : Call) :
    sinceClose uri (calls ++ [call]) =
      if call.closes uri then [] else sinceClose uri calls ++ (call.text? uri).toList := by
  unfold sinceClose
  rw [List.reverse_append, List.reverse_singleton, List.singleton_append, List.takeWhile_cons]
  cases call.closes uri with
  | true => rfl
  | false =>
      rw [Bool.not_false, if_pos rfl, List.filterMap_cons]
      cases call.text? uri <;> simp

/-! ## The newest text -/

/-- Of the texts, in the order in which they were sent, `d` is the newest: it has the greatest
version, and none behind it has this version as well. -/
structure IsNewest (sent : List Document) (d : Document) : Prop where
  greatest : ∀ e ∈ sent, e.version ≤ d.version
  latest : ∃ before behind, sent = before ++ d :: behind ∧ ∀ e ∈ behind, e.version ≠ d.version

section

variable {sent : List Document} {d e : Document}

theorem IsNewest.mem (h : IsNewest sent d) : d ∈ sent := by
  obtain ⟨before, behind, rfl, -⟩ := h.latest
  simp

/-- A text that is sent last is the newest, unless its version is below one before it. -/
theorem isNewest_concat (h : ∀ e ∈ sent, e.version ≤ d.version) : IsNewest (sent ++ [d]) d where
  greatest := by
    intro e he
    rcases List.mem_append.mp he with hmem | hlast
    · exact h e hmem
    · obtain rfl := List.mem_singleton.mp hlast
      exact Int32.le_refl _
  latest := ⟨sent, [], rfl, nofun⟩

theorem IsNewest.of_le (h : IsNewest sent e) (hle : e.version ≤ d.version) :
    IsNewest (sent ++ [d]) d :=
  isNewest_concat fun e' he' => Int32.le_trans (h.greatest e' he') hle

/-- A text of a smaller version does not count. -/
theorem IsNewest.of_lt (h : IsNewest sent e) (hlt : d.version < e.version) :
    IsNewest (sent ++ [d]) e where
  greatest := by
    intro e' he'
    rcases List.mem_append.mp he' with hmem | hlast
    · exact h.greatest e' hmem
    · obtain rfl := List.mem_singleton.mp hlast
      exact Int32.le_of_lt hlt
  latest := by
    obtain ⟨before, behind, hsent, hbehind⟩ := h.latest
    refine ⟨before, behind ++ [d], by rw [hsent]; simp, ?_⟩
    intro e' he'
    rcases List.mem_append.mp he' with hmem | hlast
    · exact hbehind e' hmem
    · obtain rfl := List.mem_singleton.mp hlast
      exact Int32.ne_of_lt hlt

/-! ## What the store holds -/

/-- What is stored for a document is the newest text that has been sent, if any has. -/
def Remembers (sent : List Document) (stored : Option Document) : Prop :=
  (sent = [] ∧ stored = none) ∨ ∃ d, stored = some d ∧ IsNewest sent d

/-- A text is refused exactly if a newer one is stored. -/
theorem update_refused_iff (s : DocumentStore) (uri : String) (d : Document) :
    (s.update uri d).2 = false ↔ ∃ e, s.get? uri = some e ∧ d.version < e.version := by
  unfold update isNewer
  cases s.get? uri with
  | none => simp
  | some e => by_cases hlt : d.version < e.version <;> simp [hlt]

theorem update_of_refused {s : DocumentStore} {uri : String}
    (h : (s.update uri d).2 = false) : (s.update uri d).1 = s := by
  unfold update at h ⊢
  split
  · rfl
  · rename_i hnewer
    rw [if_neg hnewer] at h
    cases h

theorem update_of_accepted {s : DocumentStore} {uri : String}
    (h : (s.update uri d).2 = true) : (s.update uri d).1 = s.insert uri d := by
  unfold update at h ⊢
  split
  · rename_i hnewer
    rw [if_pos hnewer] at h
    cases h
  · rfl

/-- An update for a document does not touch the others. -/
theorem get?_update_of_ne (s : DocumentStore) {uri u : String} (d : Document) (hne : uri ≠ u) :
    (s.update uri d).1.get? u = s.get? u := by
  cases h : (s.update uri d).2 with
  | false => rw [update_of_refused h]
  | true => rw [update_of_accepted h, UriMap.get?_insert, if_neg hne]

theorem get?_close (s : DocumentStore) (uri u : String) :
    (s.close uri).1.get? u = if uri = u then none else s.get? u :=
  UriMap.get?_erase s uri u

/-- An update keeps the newest text. -/
theorem remembers_update {s : DocumentStore} {uri : String}
    (h : Remembers sent (s.get? uri)) (d : Document) :
    Remembers (sent ++ [d]) ((s.update uri d).1.get? uri) := by
  right
  cases hanswer : (s.update uri d).2 with
  | false =>
      obtain ⟨e, hstored, hlt⟩ := (update_refused_iff s uri d).mp hanswer
      rw [update_of_refused hanswer]
      rcases h with ⟨-, hnone⟩ | ⟨e', hstored', hnewest⟩
      · cases hstored.symm.trans hnone
      · cases hstored.symm.trans hstored'
        exact ⟨e, hstored, hnewest.of_lt hlt⟩
  | true =>
      rw [update_of_accepted hanswer, UriMap.get?_insert, if_pos rfl]
      refine ⟨d, rfl, ?_⟩
      rcases h with ⟨rfl, -⟩ | ⟨e, hstored, hnewest⟩
      · exact isNewest_concat nofun
      · have hle : e.version ≤ d.version := by
          rw [← Int32.not_lt]
          intro hlt
          rw [(update_refused_iff s uri d).mpr ⟨e, hstored, hlt⟩] at hanswer
          cases hanswer
        exact hnewest.of_le hle

end

/-- One use of the store keeps up what it remembers of a document. -/
theorem remembers_step {uri : String} {calls : List Call}
    (h : Remembers (sinceClose uri calls) ((after calls).get? uri)) (call : Call) :
    Remembers (sinceClose uri (calls ++ [call])) ((after (calls ++ [call])).get? uri) := by
  rw [sinceClose_concat, after_concat]
  cases call with
  | update u d =>
      by_cases hu : u = uri
      · subst hu
        simpa [run, Call.closes, Call.text?] using remembers_update h d
      · simpa [run, Call.closes, Call.text?, hu, get?_update_of_ne _ d hu] using h
  | get u => simpa [run, Call.closes, Call.text?] using h
  | close u =>
      by_cases hu : u = uri
      · left
        simp [run, Call.closes, get?_close, hu]
      · simpa [run, Call.closes, Call.text?, get?_close, hu] using h

/-- After any uses the store holds the newest text of every document. -/
theorem remembers_after (uri : String) (calls : List Call) :
    Remembers (sinceClose uri calls) ((after calls).get? uri) := by
  induction calls using List.reverseRecOn with
  | nil => exact .inl ⟨rfl, rfl⟩
  | append_singleton calls call ih => exact remembers_step ih call

/-! ## What the store answers -/

/-- The store `s` answers for a document as the texts tell that have been sent for it since it was
closed last. -/
structure Answers (s : DocumentStore) (uri : String) (sent : List Document) : Prop where
  absent : sent = [] → s.get? uri = none
  present : sent ≠ [] → ∃ d, s.get? uri = some d ∧ IsNewest sent d
  /-- An update is refused exactly if its version is below the greatest one. -/
  refuses : ∀ d, (s.update uri d).2 = false ↔
    ∃ newest, IsNewest sent newest ∧ d.version < newest.version
  refused_unchanged : ∀ d, (s.update uri d).2 = false → (s.update uri d).1 = s
  close_answer : (s.close uri).2 = s.get? uri
  close_others : ∀ u, u ≠ uri → (s.close uri).1.get? u = s.get? u
  /-- The size is the number of documents that are found. -/
  size : ∃ us : Finset String, (∀ u, u ∈ us ↔ (s.get? u).isSome = true) ∧ s.size = us.card

/-- The stored text decides about an update as the newest text does. -/
theorem Remembers.update_refused_iff {s : DocumentStore} {uri : String} {sent : List Document}
    (h : Remembers sent (s.get? uri)) (d : Document) : (s.update uri d).2 = false ↔
      ∃ newest, IsNewest sent newest ∧ d.version < newest.version := by
  rw [DocumentStore.update_refused_iff]
  constructor
  · rintro ⟨e, hstored, hlt⟩
    rcases h with ⟨-, hnone⟩ | ⟨e', hstored', hnewest⟩
    · cases hstored.symm.trans hnone
    · cases hstored.symm.trans hstored'
      exact ⟨e, hnewest, hlt⟩
  · rintro ⟨newest, hnewest, hlt⟩
    rcases h with ⟨rfl, -⟩ | ⟨e, hstored, he⟩
    · cases hnewest.mem
    · exact ⟨e, hstored, Int32.lt_of_lt_of_le hlt (he.greatest newest hnewest.mem)⟩

/-- **The store keeps the newest text of each document.** After any uses, what it holds for a
document is the newest text that has been sent for it since it was closed last. An update is
refused exactly if its version is below that of this text, and then nothing changes. Closing a
document yields its text and leaves the others as they are. -/
theorem newest_snapshot_kept (calls : List Call) (uri : String) :
    (after calls).Answers uri (sinceClose uri calls) := by
  have h := remembers_after uri calls
  have huris : ∀ u, u ∈ (after calls).uris.toFinset ↔ ((after calls).get? u).isSome = true := by
    intro u
    rw [List.mem_toFinset, UriMap.mem_uris_iff]
  refine ⟨?_, ?_, h.update_refused_iff, fun d => update_of_refused, rfl, ?_,
    _, huris, UriMap.size_eq_card _ huris⟩
  · intro hnil
    rcases h with ⟨-, hnone⟩ | ⟨d, -, hnewest⟩
    · exact hnone
    · have hmem := hnewest.mem
      rw [hnil] at hmem
      cases hmem
  · intro hne
    rcases h with ⟨hnil, -⟩ | hstored
    · exact absurd hnil hne
    · exact hstored
  · intro u hne
    rw [get?_close, if_neg hne.symm]

example : (after [.update "u" ⟨5, "a"⟩, .update "u" ⟨-3, "b"⟩, .update "u" ⟨5, "c"⟩]).get? "u" =
    some ⟨5, "c"⟩ := by decide

end DocumentStore

end LintBridge
