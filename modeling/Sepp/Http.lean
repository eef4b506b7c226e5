import Mathlib.Data.List.AList
import Sepp.Bytes

/-!
# HTTP messages

Requests and responses as the SEPP hands them to its HTTP client and gets
them back. A header map is an `AList`: names are distinct by construction
and the order of the entries is the iteration order of the source's
`unordered_map`, which no result may depend on; the facts below therefore
speak about `lookup` only.
-/

namespace Sepp

abbrev HeaderMap := AList fun _ : Str => Str

inductive Method where
  | GET | POST | PUT | DELETE | PATCH
deriving DecidableEq, Repr

namespace Method

def name : Method → Str
  | GET => ascii "GET"
  | POST => ascii "POST"
  | PUT => ascii "PUT"
  | DELETE => ascii "DELETE"
  | PATCH => ascii "PATCH"

/-- The `method_e` of a method string; anything unknown is a GET. -/
def ofName (s : Str) : Method :=
  if s = ascii "POST" then POST
  else if s = ascii "PUT" then PUT
  else if s = ascii "DELETE" then DELETE
  else if s = ascii "PATCH" then PATCH
  else GET

@[simp] theorem ofName_name (m : Method) : ofName m.name = m := by
  cases m <;> rfl

theorem name_ne_nil (m : Method) : m.name ≠ [] := by
  cases m <;> exact List.cons_ne_nil _ _

theorem not_space_of_mem_name {m : Method} : ∀ c ∈ m.name, isSpace c = false := by
  cases m <;> exact not_space_of_all rfl

end Method

structure HttpRequest where
  method : Method
  uri : Str
  headers : HeaderMap
  body : Str

/-- A client's view of a response; status 0 means that there was none. -/
structure HttpResponse where
  statusCode : Int
  headers : HeaderMap
  body : Str

/-! ## Filling a header map entry by entry -/

namespace HeaderMap

/-- The loop `for (auto &[k, v] : l) m[k] = v`. -/
def insertAll (m : HeaderMap) (l : List (Σ _ : Str, Str)) : HeaderMap :=
  l.foldl (fun m e => m.insert e.1 e.2) m

@[simp] theorem insertAll_nil (m : HeaderMap) : insertAll m [] = m := rfl

theorem insertAll_cons (m : HeaderMap) (e : Σ _ : Str, Str)
    (l : List (Σ _ : Str, Str)) :
    insertAll m (e :: l) = insertAll (m.insert e.1 e.2) l := rfl

theorem lookup_insertAll_of_not_mem {l : List (Σ _ : Str, Str)} {k : Str} :
    ∀ {m : HeaderMap}, k ∉ l.keys → (insertAll m l).lookup k = m.lookup k := by
  induction l with
  | nil => intro m _; rfl
  | cons e l ih =>
      intro m hk
      simp only [List.keys_cons, List.mem_cons, not_or] at hk
      rw [insertAll_cons, ih hk.2, AList.lookup_insert_ne hk.1]

/-- With distinct names every entry of the list is found afterwards. -/
theorem lookup_insertAll_of_mem {l : List (Σ _ : Str, Str)} {k v : Str} :
    ∀ {m : HeaderMap}, l.NodupKeys → ⟨k, v⟩ ∈ l →
      (insertAll m l).lookup k = some v := by
  induction l with
  | nil => intro m _ h; cases h
  | cons e l ih =>
      intro m hnd hmem
      obtain ⟨he, hnd'⟩ := List.nodupKeys_cons.mp hnd
      rcases List.mem_cons.mp hmem with rfl | hmem'
      · rw [insertAll_cons, lookup_insertAll_of_not_mem he, AList.lookup_insert]
      · exact ih hnd' hmem'

/-- Copying the entries of a map that pass a test: a name that was absent
is found afterwards just when the map has it and its entry passes. -/
theorem lookup_insertAll_filter {m : HeaderMap} {k : Str} (hk : m.lookup k = none)
    (H : HeaderMap) (f : (Σ _ : Str, Str) → Bool) :
    (insertAll m (H.entries.filter f)).lookup k
      = (H.lookup k).filter fun v => f ⟨k, v⟩ := by
  have hnd : (H.entries.filter f).NodupKeys :=
    H.nodupKeys.sublist List.filter_sublist
  by_cases hmem : ∃ v, ⟨k, v⟩ ∈ H.entries.filter f
  · obtain ⟨v, hv⟩ := hmem
    obtain ⟨hin, hf⟩ := List.mem_filter.mp hv
    rw [lookup_insertAll_of_mem hnd hv, AList.mem_lookup_iff.mpr hin,
      Option.filter_some, if_pos hf]
  · have hkeys : k ∉ (H.entries.filter f).keys := by
      intro h
      obtain ⟨v, hv⟩ := List.exists_of_mem_keys h
      exact hmem ⟨v, hv⟩
    rw [lookup_insertAll_of_not_mem hkeys, hk]
    cases hl : H.lookup k with
    | none => rfl
    | some v =>
        have hin := AList.mem_lookup_iff.mp hl
        rw [Option.filter_some, if_neg]
        exact fun hf => hmem ⟨v, List.mem_filter.mpr ⟨hin, hf⟩⟩

end HeaderMap

end Sepp
