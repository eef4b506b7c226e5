import Sepp.Bytes

/-!
# JSON values

The `nlohmann::json` values the SEPP handles and the accessors it uses on
them. A number is kept as the text it is written with. `JsonLib` is the
library itself: parsing and serialising are its own business, and the
structure carries the documented facts about them that the forwarding
proofs use.
-/

namespace Sepp

/-- The `what()` text of an exception. -/
abbrev Exn := Str

inductive Json where
  | null
  | bool (b : Bool)
  | num (text : Str)
  | str (s : Str)
  | arr (items : List Json)
  | obj (members : List (Str × Json))

namespace Json

def isNull : Json → Bool
  | null => true
  | _ => false

def isObject : Json → Bool
  | obj _ => true
  | _ => false

/-- `empty()`: null and the containers without elements. -/
def empty : Json → Bool
  | null => true
  | arr items => items.isEmpty
  | obj members => members.isEmpty
  | _ => false

def typeName : Json → Str
  | null => ascii "null"
  | bool _ => ascii "boolean"
  | num _ => ascii "number"
  | str _ => ascii "string"
  | arr _ => ascii "array"
  | obj _ => ascii "object"

/-- The member of an object under a key. -/
def find? (j : Json) (key : Str) : Option Json :=
  match j with
  | obj members => members.lookup key
  | _ => none

def contains (j : Json) (key : Str) : Bool := (j.find? key).isSome

/-- The text of the exception thrown when a value of another type is read. -/
def typeError (wanted : Str) (j : Json) : Exn :=
  ascii "[json.exception.type_error.302] type must be " ++ wanted
    ++ ascii ", but is " ++ j.typeName

/-- `get<std::string>()`. -/
def getString : Json → Except Exn Str
  | str s => .ok s
  | j => .error (typeError (ascii "string") j)

/-- `get<bool>()`. -/
def getBool : Json → Except Exn Bool
  | bool b => .ok b
  | j => .error (typeError (ascii "boolean") j)

/-- What a range-based `for` goes over. -/
def elements : Json → List Json
  | null => []
  | arr items => items
  | obj members => members.map (·.2)
  | j => [j]

/-- `j[key]` on a value that may be changed: a member that does not exist is
created as null. -/
def member (j : Json) (key : Str) : Except Exn Json :=
  match j with
  | obj members => .ok ((members.lookup key).getD null)
  | null => .ok null
  | j => .error (ascii "[json.exception.type_error.305] cannot use operator[] with a string "
      ++ ascii "argument with " ++ j.typeName)

/-- `value(key, default)` on an object, for a string member. -/
def value (j : Json) (key dflt : Str) : Except Exn Str :=
  match j.find? key with
  | some v => v.getString
  | none => .ok dflt

/-- `j[key] = v` on an object; a null value becomes an object first. -/
def set (j : Json) (key : Str) (v : Json) : Json :=
  match j with
  | obj members =>
      if (members.lookup key).isSome then
        obj (members.map fun m => if m.1 = key then (key, v) else m)
      else obj (members ++ [(key, v)])
  | null => obj [(key, v)]
  | j => j

theorem isObject_set {j : Json} (hj : j.isObject = true) (key : Str) (v : Json) :
    (j.set key v).isObject = true := by
  cases j with
  | obj members =>
      simp only [set]
      split <;> rfl
  | _ => cases hj

theorem lookup_map_replace (key : Str) (v : Json) (members : List (Str × Json))
    (h : (members.lookup key).isSome = true) :
    (members.map fun m => if m.1 = key then (key, v) else m).lookup key = some v := by
  induction members with
  | nil => cases h
  | cons m rest ih =>
      obtain ⟨k, w⟩ := m
      by_cases hk : k = key
      · simp [hk]
      · have hne : (key == k) = false := beq_eq_false_iff_ne.mpr (Ne.symm hk)
        simp only [List.map_cons, if_neg hk, List.lookup_cons, hne] at h ⊢
        exact ih h

theorem find?_set {j : Json} (hj : j.isObject = true) (key : Str) (v : Json) :
    (j.set key v).find? key = some v := by
  cases j with
  | obj members =>
      simp only [set]
      split
      · rename_i h
        exact lookup_map_replace key v members h
      · rename_i h
        have hnone := Option.not_isSome_iff_eq_none.mp h
        simp [find?, List.lookup_append, hnone]
  | _ => cases hj

end Json

/-- The JSON library. `getJson` is the HTTP client's reading of a response
body, `none` when it throws. -/
structure JsonLib where
  parse : Str → Except Exn Json
  dump : Json → Except Exn Str
  getJson : Str → Option Json
  /-- What is serialised is a JSON text, of an equally empty value. -/
  getJson_of_dump : ∀ j t, dump j = .ok t → ∃ j', getJson t = some j' ∧ j'.empty = j.empty
  /-- A value that was read from a text can be serialised. -/
  dump_of_getJson : ∀ t j, getJson t = some j → ∃ t', dump j = .ok t'
  /-- The empty text is not a JSON text. -/
  getJson_nil : getJson [] = none

end Sepp
