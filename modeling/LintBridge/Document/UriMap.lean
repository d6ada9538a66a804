set_option autoImplicit false

/-! # Maps from document URIs

A finite map keyed by the URI of a document, kept as a list of pairs in which no URI stands
twice. A URI is compared as text, character by character. The map is seen through `get?`;
`size` counts the URIs for which `get?` finds something.
-/

namespace LintBridge

/-- A finite map from document URIs. -/
structure UriMap (α : Type) where
  entries : List (String × α)
  nodup : (entries.map (·.1)).Nodup

namespace UriMap

variable {α : Type}

/-- The map without any URI. -/
def empty : UriMap α := ⟨[], .nil⟩

/-- What the map holds for a URI. -/
def get? (m : UriMap α) (uri : String) : Option α :=
  (m.entries.find? (·.1 = uri)).map (·.2)

/-- The URIs of the map. -/
def uris (m : UriMap α) : List String := m.entries.map (·.1)

/-- The number of URIs in the map. -/
def size (m : UriMap α) : Nat := m.entries.length

/-- The map without a URI. -/
def erase (m : UriMap α) (uri : String) : UriMap α where
  entries := m.entries.filter (·.1 ≠ uri)
  nodup := (m.nodup.sublist (List.filter_sublist.map _))

/-- The map with a URI bound to a value. -/
def insert (m : UriMap α) (uri : String) (a : α) : UriMap α where
  entries := (uri, a) :: (m.erase uri).entries
  nodup := by
    refine List.nodup_cons.mpr ⟨?_, (m.erase uri).nodup⟩
    simp [erase]

@[simp] theorem get?_empty (uri : String) : (empty : UriMap α).get? uri = none := rfl

theorem get?_insert (m : UriMap α) (uri u : String) (a : α) :
    (m.insert uri a).get? u = if uri = u then some a else m.get? u := by
  by_cases h : uri = u
  · simp [get?, insert, h]
  · simp only [get?, insert, erase, List.find?_cons, h, decide_false, if_false,
      List.find?_filter]
    congr 2
    funext e
    by_cases hu : e.1 = u <;> simp [hu, Ne.symm h]

theorem get?_erase (m : UriMap α) (uri u : String) :
    (m.erase uri).get? u = if uri = u then none else m.get? u := by
  by_cases h : uri = u
  · subst h
    simp [get?, erase]
  · simp only [get?, erase, h, if_false, List.find?_filter]
    congr 2
    funext e
    by_cases hu : e.1 = u <;> simp [hu, Ne.symm h]

theorem mem_uris_iff (m : UriMap α) (uri : String) :
    uri ∈ m.uris ↔ (m.get? uri).isSome = true := by
  simp [uris, get?]

theorem length_uris (m : UriMap α) : m.uris.length = m.size := by simp [uris, size]

end UriMap

end LintBridge
