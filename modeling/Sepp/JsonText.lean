import Sepp.Json

/-!
# JSON texts

A JSON reader and writer for values over printable ASCII: compact texts
without blanks, with `\"` and `\\` as the only escapes, and integers as the
only numbers. On these values it does what the JSON library does; it shows
that the laws of `JsonLib` are those of a working codec, and concrete runs
of the SEPP use it.

`parseValue_write` is the round trip, by one induction over values, item
lists and member lists; the fuel is never more than the text is long.
-/

namespace Sepp

namespace JsonText

/-! ## Writing -/

abbrev quote : UInt8 := 34

abbrev backslash : UInt8 := 92

abbrev comma : UInt8 := 44

def escape (c : UInt8) : Str := if c = quote ∨ c = backslash then [backslash, c] else [c]

def writeString (s : Str) : Str := quote :: (s.flatMap escape ++ [quote])

/-- The comma before every element but the first. -/
def separator (first : Bool) : Str := if first then [] else [comma]

mutual

def write : Json → Str
  | .null => ascii "null"
  | .bool b => if b then ascii "true" else ascii "false"
  | .num t => t
  | .str s => writeString s
  | .arr items => 91 :: writeItems true items
  | .obj members => 123 :: writeMembers true members

/-- The items up to and with the closing bracket. -/
def writeItems (first : Bool) : List Json → Str
  | [] => [93]
  | j :: js => separator first ++ (write j ++ writeItems false js)

def writeMembers (first : Bool) : List (Str × Json) → Str
  | [] => [125]
  | (k, j) :: ms =>
      separator first ++ (writeString k ++ colon :: (write j ++ writeMembers false ms))

end

/-! ## Reading -/

def isNumChar (c : UInt8) : Bool := c = 45 || decide (48 ≤ c.toNat ∧ c.toNat ≤ 57)

/-- The string up to its closing quote. -/
def parseString : Str → Option (Str × Str)
  | [] => none
  | c :: cs =>
      if c = quote then some ([], cs)
      else if c = backslash then
        match cs with
        | [] => none
        | d :: ds => (parseString ds).map fun p => (d :: p.1, p.2)
      else (parseString cs).map fun p => (c :: p.1, p.2)

def parseNumber (s : Str) : Option (Json × Str) :=
  if s.takeWhile isNumChar = [] then none
  else some (.num (s.takeWhile isNumChar), s.dropWhile isNumChar)

/-- Read one given character. -/
def expect (c : UInt8) (s : Str) : Option Str :=
  match s with
  | [] => none
  | d :: ds => if d = c then some ds else none

/-- Read the separator of the element that follows. -/
def parseSeparator (first : Bool) (s : Str) : Option Str :=
  if first then some s else expect comma s

mutual

def parseValue : Nat → Str → Option (Json × Str)
  | 0, _ => none
  | n + 1, s =>
      if ascii "null" <+: s then some (.null, s.drop 4)
      else if ascii "true" <+: s then some (.bool true, s.drop 4)
      else if ascii "false" <+: s then some (.bool false, s.drop 5)
      else if [quote] <+: s then (parseString s.tail).map fun p => (.str p.1, p.2)
      else if [91] <+: s then (parseItems n true s.tail).map fun p => (.arr p.1, p.2)
      else if [123] <+: s then (parseMembers n true s.tail).map fun p => (.obj p.1, p.2)
      else parseNumber s

def parseItems : Nat → Bool → Str → Option (List Json × Str)
  | 0, _, _ => none
  | n + 1, first, s =>
      if [93] <+: s then some ([], s.tail)
      else do
        let s ← parseSeparator first s
        let (j, s) ← parseValue n s
        let (js, s) ← parseItems n false s
        return (j :: js, s)

def parseMembers : Nat → Bool → Str → Option (List (Str × Json) × Str)
  | 0, _, _ => none
  | n + 1, first, s =>
      if [125] <+: s then some ([], s.tail)
      else do
        let s ← parseSeparator first s
        let s ← expect quote s
        let (k, s) ← parseString s
        let s ← expect colon s
        let (j, s) ← parseValue n s
        let (ms, s) ← parseMembers n false s
        return ((k, j) :: ms, s)

end

/-! ## What can be written -/

def printable (s : Str) : Bool := s.all fun c => decide (32 ≤ c.toNat ∧ c.toNat ≤ 126)

mutual

/-- Strings are printable ASCII and numbers are integers. -/
def writable : Json → Bool
  | .num t => !t.isEmpty && t.all isNumChar
  | .str s => printable s
  | .arr items => writableItems items
  | .obj members => writableMembers members
  | _ => true

def writableItems : List Json → Bool
  | [] => true
  | j :: js => writable j && writableItems js

def writableMembers : List (Str × Json) → Bool
  | [] => true
  | (k, j) :: ms => printable k && writable j && writableMembers ms

end

/-! ## The round trip -/

theorem parseString_quote (s : Str) : parseString (quote :: s) = some ([], s) := by
  rw [parseString.eq_def]
  simp

theorem parseString_escaped (c : UInt8) (s : Str) :
    parseString (backslash :: c :: s) = (parseString s).map fun p => (c :: p.1, p.2) := by
  rw [parseString.eq_def]
  simp [show backslash ≠ quote by decide]

theorem parseString_plain {c : UInt8} (hq : c ≠ quote) (hb : c ≠ backslash) (s : Str) :
    parseString (c :: s) = (parseString s).map fun p => (c :: p.1, p.2) := by
  rw [parseString.eq_def]
  simp [hq, hb]

theorem parseString_flatMap_escape (s rest : Str) :
    parseString (s.flatMap escape ++ quote :: rest) = some (s, rest) := by
  induction s with
  | nil => exact parseString_quote rest
  | cons c cs ih =>
      rw [List.flatMap_cons, List.append_assoc]
      by_cases hc : c = quote ∨ c = backslash
      · rw [show escape c = [backslash, c] from if_pos hc, List.cons_append,
          List.singleton_append, parseString_escaped, ih, Option.map_some]
      · obtain ⟨hq, hb⟩ := not_or.mp hc
        rw [show escape c = [c] from if_neg hc, List.singleton_append,
          parseString_plain hq hb, ih, Option.map_some]

theorem parseNumber_append {t rest : Str} (ht : t ≠ []) (hnum : t.all isNumChar = true)
    (hrest : ∀ c, rest.head? = some c → isNumChar c = false) :
    parseNumber (t ++ rest) = some (.num t, rest) := by
  have hall : ∀ c ∈ t, isNumChar c = true := List.all_eq_true.mp hnum
  have htake : (t ++ rest).takeWhile isNumChar = t := by
    rw [List.takeWhile_append_of_pos hall]
    cases rest with
    | nil => simp
    | cons c cs => simp [hrest c rfl]
  have hdrop : (t ++ rest).dropWhile isNumChar = rest := by
    rw [List.dropWhile_append_of_pos hall]
    cases rest with
    | nil => rfl
    | cons c cs => simp [hrest c rfl]
  rw [parseNumber, htake, hdrop, if_neg ht]

theorem parseSeparator_append (first : Bool) (s : Str) :
    parseSeparator first (separator first ++ s) = some s := by
  cases first <;> simp [parseSeparator, separator, expect]

/-- A character no text of a value starts with, nor a separator. -/
def Closing (c : UInt8) : Prop := c = 93 ∨ c = 125

instance (c : UInt8) : Decidable (Closing c) := inferInstanceAs (Decidable (_ ∨ _))

theorem not_closing_of_isNumChar {c : UInt8} (h : isNumChar c = true) : ¬ Closing c := by
  rintro (rfl | rfl) <;> revert h <;> decide

theorem head_write {j : Json} (hj : writable j = true) :
    ∃ c cs, write j = c :: cs ∧ ¬ Closing c := by
  cases j with
  | null => exact ⟨_, _, rfl, by decide⟩
  | bool b => cases b <;> exact ⟨_, _, rfl, by decide⟩
  | num t =>
      simp only [writable, Bool.and_eq_true] at hj
      cases t with
      | nil => simp at hj
      | cons c cs =>
          exact ⟨c, cs, by simp [write], not_closing_of_isNumChar (by simp_all)⟩
  | str s => exact ⟨quote, _, by rw [write, writeString], by decide⟩
  | arr items => exact ⟨91, _, by rw [write], by decide⟩
  | obj members => exact ⟨123, _, by rw [write], by decide⟩

theorem not_prefix_of_ne {c d : UInt8} (h : c ≠ d) (w cs : Str) : ¬ d :: w <+: c :: cs :=
  fun hpre => h (List.cons_prefix_cons.mp hpre).1.symm

theorem parseValue_null (n : Nat) (rest : Str) :
    parseValue (n + 1) (ascii "null" ++ rest) = some (.null, rest) := by
  rw [parseValue, if_pos (List.prefix_append ..)]
  rfl

theorem parseValue_bool (b : Bool) (n : Nat) (rest : Str) :
    parseValue (n + 1) (write (.bool b) ++ rest) = some (.bool b, rest) := by
  cases b with
  | true =>
      have hnull : ¬ ascii "null" <+: ascii "true" ++ rest :=
        not_prefix_of_ne (by decide) (ascii "ull") (ascii "rue" ++ rest)
      rw [write, if_pos rfl, parseValue, if_neg hnull, if_pos (List.prefix_append ..)]
      rfl
  | false =>
      have hnull : ¬ ascii "null" <+: ascii "false" ++ rest :=
        not_prefix_of_ne (by decide) (ascii "ull") (ascii "alse" ++ rest)
      have htrue : ¬ ascii "true" <+: ascii "false" ++ rest :=
        not_prefix_of_ne (by decide) (ascii "rue") (ascii "alse" ++ rest)
      rw [write, if_neg (by decide), parseValue, if_neg hnull, if_neg htrue,
        if_pos (List.prefix_append ..)]
      rfl

/-- The value texts that are not words are told apart by their first byte. -/
theorem parseValue_of_head {c : UInt8} {cs : Str} {n : Nat}
    (hc : c ≠ 110 ∧ c ≠ 116 ∧ c ≠ 102) :
    parseValue (n + 1) (c :: cs) =
      if c = quote then (parseString cs).map fun p => (.str p.1, p.2)
      else if c = 91 then (parseItems n true cs).map fun p => (.arr p.1, p.2)
      else if c = 123 then (parseMembers n true cs).map fun p => (.obj p.1, p.2)
      else parseNumber (c :: cs) := by
  have hnull : ¬ ascii "null" <+: c :: cs := not_prefix_of_ne hc.1 (ascii "ull") cs
  have htrue : ¬ ascii "true" <+: c :: cs := not_prefix_of_ne hc.2.1 (ascii "rue") cs
  have hfalse : ¬ ascii "false" <+: c :: cs := not_prefix_of_ne hc.2.2 (ascii "alse") cs
  have hone : ∀ d, [d] <+: (c :: cs) ↔ c = d := by
    intro d
    simp [List.cons_prefix_cons, eq_comm]
  rw [parseValue, if_neg hnull, if_neg htrue, if_neg hfalse]
  simp only [hone, List.tail_cons]

theorem parseItems_nil (n : Nat) (first : Bool) (rest : Str) :
    parseItems (n + 1) first (93 :: rest) = some ([], rest) := by
  rw [parseItems, if_pos (by simp [List.cons_prefix_cons])]
  rfl

theorem parseMembers_nil (n : Nat) (first : Bool) (rest : Str) :
    parseMembers (n + 1) first (125 :: rest) = some ([], rest) := by
  rw [parseMembers, if_pos (by simp [List.cons_prefix_cons])]
  rfl

theorem writeItems_length_pos (js : List Json) : 0 < (writeItems false js).length := by
  cases js with
  | nil => simp [writeItems]
  | cons j js => simp [writeItems, separator]

theorem head_writeItems (js : List Json) (rest : Str) :
    ∀ c, (writeItems false js ++ rest).head? = some c → isNumChar c = false := by
  intro c hc
  cases js with
  | nil => simp [writeItems] at hc; subst hc; decide
  | cons j js => simp [writeItems, separator] at hc; subst hc; decide

theorem head_writeMembers (ms : List (Str × Json)) (rest : Str) :
    ∀ c, (writeMembers false ms ++ rest).head? = some c → isNumChar c = false := by
  intro c hc
  cases ms with
  | nil => simp [writeMembers] at hc; subst hc; decide
  | cons m ms => simp [writeMembers, separator] at hc; subst hc; decide

mutual

/-- Reading undoes writing. What follows a value must not continue a
number; inside a text a value is followed by a comma or a bracket. -/
theorem parseValue_write : ∀ (j : Json) (rest : Str) (n : Nat), writable j = true →
    (write j).length ≤ n → (∀ c, rest.head? = some c → isNumChar c = false) →
      parseValue n (write j ++ rest) = some (j, rest)
  | .null, rest, n, _, hn, _ => by
      obtain ⟨n, rfl⟩ : ∃ k, n = k + 1 := ⟨n - 1, by simp [write, ascii] at hn; omega⟩
      exact parseValue_null n rest
  | .bool b, rest, n, _, hn, _ => by
      have hlen : 0 < (write (.bool b)).length := by cases b <;> decide
      obtain ⟨n, rfl⟩ : ∃ k, n = k + 1 := ⟨n - 1, by omega⟩
      exact parseValue_bool b n rest
  | .num t, rest, n, hj, hn, hrest => by
      simp only [writable, Bool.and_eq_true] at hj
      obtain ⟨c, cs, rfl⟩ : ∃ c cs, t = c :: cs := List.exists_cons_of_ne_nil (by
        rintro rfl
        simp at hj)
      obtain ⟨n, rfl⟩ : ∃ k, n = k + 1 := ⟨n - 1, by simp [write] at hn; omega⟩
      have hc : isNumChar c = true := by simp_all
      have hne : ∀ d, isNumChar d = false → c ≠ d := by
        rintro d hd rfl
        rw [hc] at hd
        cases hd
      rw [write, List.cons_append, parseValue_of_head ⟨hne _ (by decide), hne _ (by decide),
        hne _ (by decide)⟩, if_neg (hne _ (by decide)), if_neg (hne _ (by decide)),
        if_neg (hne _ (by decide)), ← List.cons_append]
      exact parseNumber_append (by simp) hj.2 hrest
  | .str s, rest, n, _, hn, _ => by
      obtain ⟨n, rfl⟩ : ∃ k, n = k + 1 := ⟨n - 1, by simp [write, writeString] at hn; omega⟩
      rw [write, writeString, List.cons_append, parseValue_of_head (by decide), if_pos rfl,
        List.append_assoc, List.singleton_append, parseString_flatMap_escape]
      rfl
  | .arr items, rest, n, hj, hn, _ => by
      simp only [write, List.length_cons] at hn
      obtain ⟨n, rfl⟩ : ∃ k, n = k + 1 := ⟨n - 1, by omega⟩
      rw [write, List.cons_append, parseValue_of_head (by decide), if_neg (by decide),
        if_pos rfl, parseItems_write items true rest n hj (by omega)]
      rfl
  | .obj members, rest, n, hj, hn, _ => by
      simp only [write, List.length_cons] at hn
      obtain ⟨n, rfl⟩ : ∃ k, n = k + 1 := ⟨n - 1, by omega⟩
      rw [write, List.cons_append, parseValue_of_head (by decide), if_neg (by decide),
        if_neg (by decide), if_pos rfl, parseMembers_write members true rest n hj (by omega)]
      rfl

theorem parseItems_write : ∀ (js : List Json) (first : Bool) (rest : Str) (n : Nat),
    writableItems js = true → (writeItems first js).length ≤ n →
      parseItems n first (writeItems first js ++ rest) = some (js, rest)
  | [], first, rest, n, _, hn => by
      obtain ⟨n, rfl⟩ : ∃ k, n = k + 1 := ⟨n - 1, by simp [writeItems] at hn; omega⟩
      exact parseItems_nil n first rest
  | j :: js, first, rest, n, hj, hn => by
      simp only [writableItems, Bool.and_eq_true] at hj
      simp only [writeItems, List.length_append] at hn
      have hlen := writeItems_length_pos js
      obtain ⟨n, rfl⟩ : ∃ k, n = k + 1 := ⟨n - 1, by omega⟩
      obtain ⟨c, cs, hw, hclose⟩ := head_write hj.1
      have hnot : ¬ [93] <+: writeItems first (j :: js) ++ rest := by
        rw [writeItems, hw]
        cases first
        · exact not_prefix_of_ne (by decide) [] _
        · simp only [separator, if_true, List.nil_append, List.cons_append,
            List.cons_prefix_cons]
          exact fun h => hclose (Or.inl h.1.symm)
      have hv := parseValue_write j (writeItems false js ++ rest) n hj.1
        (by rw [hw] at hn ⊢; simp only [List.length_cons] at hn ⊢; omega)
        (head_writeItems js rest)
      have hi := parseItems_write js false rest n hj.2
        (by rw [hw] at hn; simp only [List.length_cons] at hn; omega)
      rw [parseItems, if_neg hnot, writeItems, List.append_assoc, List.append_assoc,
        parseSeparator_append]
      simp [hv, hi]

theorem parseMembers_write : ∀ (ms : List (Str × Json)) (first : Bool) (rest : Str)
    (n : Nat), writableMembers ms = true → (writeMembers first ms).length ≤ n →
      parseMembers n first (writeMembers first ms ++ rest) = some (ms, rest)
  | [], first, rest, n, _, hn => by
      obtain ⟨n, rfl⟩ : ∃ k, n = k + 1 := ⟨n - 1, by simp [writeMembers] at hn; omega⟩
      exact parseMembers_nil n first rest
  | (k, j) :: ms, first, rest, n, hj, hn => by
      simp only [writableMembers, Bool.and_eq_true] at hj
      simp only [writeMembers, List.length_append, List.length_cons] at hn
      obtain ⟨n, rfl⟩ : ∃ i, n = i + 1 := ⟨n - 1, by omega⟩
      have hnot : ¬ [125] <+: writeMembers first ((k, j) :: ms) ++ rest := by
        rw [writeMembers, writeString]
        cases first <;> exact not_prefix_of_ne (by decide) [] _
      have hv := parseValue_write j (writeMembers false ms ++ rest) n hj.1.2 (by omega)
        (head_writeMembers ms rest)
      have hi := parseMembers_write ms false rest n hj.2 (by omega)
      have hs := parseString_flatMap_escape k
        (colon :: (write j ++ (writeMembers false ms ++ rest)))
      rw [parseMembers, if_neg hnot, writeMembers, List.append_assoc, parseSeparator_append]
      simp [writeString, expect, hs, hv, hi]

end

/-! ## The codec -/

/-- The value a whole text stands for. -/
def parse (t : Str) : Except Exn Json :=
  match parseValue t.length t with
  | some (j, []) =>
      if writable j then .ok j else .error (ascii "[json.exception.parse_error.101]")
  | _ => .error (ascii "[json.exception.parse_error.101]")

def dump (j : Json) : Except Exn Str :=
  if writable j then .ok (write j) else .error (ascii "[json.exception.type_error.316]")

theorem dump_of_writable {j : Json} (hj : writable j = true) : dump j = .ok (write j) :=
  if_pos hj

theorem parse_write {j : Json} (hj : writable j = true) : parse (write j) = .ok j := by
  have h := parseValue_write j [] (write j).length hj (Nat.le_refl _) (by simp)
  rw [List.append_nil] at h
  simp only [parse, h, hj, if_true]

theorem parse_of_dump {j : Json} {t : Str} (h : dump j = .ok t) : parse t = .ok j := by
  unfold dump at h
  split at h
  · rename_i hj
    obtain rfl := Except.ok.inj h
    exact parse_write hj
  · cases h

theorem dump_of_parse {j : Json} {t : Str} (h : parse t = .ok j) :
    dump j = .ok (write j) := by
  unfold parse at h
  split at h
  · split at h
    · rename_i hj
      obtain rfl := Except.ok.inj h
      exact dump_of_writable hj
    · cases h
  · cases h

def lib : JsonLib where
  parse := parse
  dump := dump
  getJson t := (parse t).toOption
  getJson_of_dump j t h := ⟨j, by rw [parse_of_dump h]; rfl, rfl⟩
  dump_of_getJson t j h := by
    cases ht : parse t with
    | error e => rw [ht] at h; cases h
    | ok j' =>
        rw [ht] at h
        obtain rfl := Option.some.inj h
        exact ⟨_, dump_of_parse ht⟩
  getJson_nil := rfl

end JsonText

end Sepp
