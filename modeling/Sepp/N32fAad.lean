import Sepp.N32fForward

/-!
# Reading an AAD back

What `parse_aad` makes of the text `build_reformatted_data` writes. The
text is a start line, two authority lines and one line for each response
header; `getlines_aadRaw` cuts the reading the same way, and the parts of a
request have one lemma each:

- the start line (`token_startLine`), which is a single line only when
  method and path have no line feed;
- the authority lines (`foldl_authorityLines`).

`lookup_foldl_aadHeaderLine` and its neighbours speak about arbitrary
lines, for texts that were not written by a well-behaved peer.
-/

namespace Sepp

open LineText

/-! ## The parts of the text -/

theorem getlines_startLine_append (m p rest : Str) :
    getlines lf (startLine m p ++ rest)
      = getlines lf (startLine m p) ++ getlines lf rest := by
  have h := getlines_append lf (m ++ space :: p ++ ascii " HTTP/2.0" ++ [cr]) rest
  simpa [startLine, crlf] using h

theorem getlines_headerLine_append (name value rest : Str) :
    getlines lf (headerLine name value ++ rest)
      = getlines lf (headerLine name value) ++ getlines lf rest := by
  have h := getlines_append lf (name ++ colon :: space :: value ++ [cr]) rest
  simpa [headerLine, crlf] using h

theorem getlines_aadRaw (m p a : Str) (H : HeaderMap) :
    getlines lf (aadRaw m p a H)
      = getlines lf (startLine m p) ++ (getlines lf (authorityLines a)
        ++ getlines lf (responseHeaderLines H)) := by
  rw [aadRaw, List.append_assoc, getlines_startLine_append]
  congr 1
  unfold authorityLines
  split
  · rfl
  · rw [List.append_assoc, getlines_headerLine_append, getlines_headerLine_append,
      getlines_headerLine_append, List.append_assoc]

theorem getlines_startLine {m p : Str} (hm : lf ∉ m) (hp : lf ∉ p) :
    getlines lf (startLine m p) = [m ++ space :: p ++ ascii " HTTP/2.0" ++ [cr]] := by
  have hline : lf ∉ m ++ space :: p ++ ascii " HTTP/2.0" ++ [cr] := by
    simp only [List.mem_append, List.mem_cons, not_or]
    exact ⟨⟨⟨hm, by decide, hp⟩, by decide⟩, by decide, List.not_mem_nil⟩
  have h := getlines_line lf hline []
  simpa [startLine, crlf, getlines] using h

theorem getlines_headerLine {name value : Str} (hn : lf ∉ name) (hv : lf ∉ value) :
    getlines lf (headerLine name value) = [name ++ colon :: space :: value ++ [cr]] := by
  have hline : lf ∉ name ++ colon :: space :: value ++ [cr] := by
    simp only [List.mem_append, List.mem_cons, not_or]
    exact ⟨⟨hn, by decide, by decide, hv⟩, by decide, List.not_mem_nil⟩
  have h := getlines_line lf hline []
  simpa [headerLine, crlf, getlines] using h

theorem token_method {m : Str} (hm : m ≠ []) (hms : ∀ c ∈ m, isSpace c = false) (p : Str) :
    token isSpace (m ++ space :: p ++ ascii " HTTP/2.0")
      = (m, space :: p ++ ascii " HTTP/2.0") := by
  rw [List.append_assoc]
  exact token_append_blank hm hms rfl (p ++ ascii " HTTP/2.0")

/-- The first two tokens of a start line that is a single line. -/
theorem token_startLine {m p : Str} (hm : m ≠ []) (hms : ∀ c ∈ m, isSpace c = false)
    (hp : p ≠ []) (hps : ∀ c ∈ p, isSpace c = false) :
    token isSpace (m ++ space :: p ++ ascii " HTTP/2.0")
        = (m, space :: p ++ ascii " HTTP/2.0")
      ∧ token isSpace (space :: p ++ ascii " HTTP/2.0") = (p, ascii " HTTP/2.0") := by
  refine ⟨token_method hm hms p, ?_⟩
  rw [List.cons_append, token_blank (by decide)]
  exact token_append_blank hp hps rfl (ascii "HTTP/2.0")

/-! ## One header line -/

theorem aadHeaderLine_of_colon {name rest line : Str} (acc : ParsedAad)
    (h : splitFirst colon (popBack cr line) = some (name, rest)) :
    ∃ value, value = (if rest.head? = some space then rest.tail else rest)
      ∧ aadHeaderLine acc line =
        { acc with
          authority := if name = authorityName then value else acc.authority
          headers := acc.headers.insert name value } := by
  refine ⟨_, rfl, ?_⟩
  simp only [aadHeaderLine, h]

theorem aadHeaderLine_headerLine {name value : Str} (hn : colon ∉ name)
    (acc : ParsedAad) :
    aadHeaderLine acc (name ++ colon :: space :: value ++ [cr]) =
      { acc with
        authority := if name = authorityName then value else acc.authority
        headers := acc.headers.insert name value } := by
  have hsplit : splitFirst colon (popBack cr (name ++ colon :: space :: value ++ [cr]))
      = some (name, space :: value) := by
    rw [popBack_concat, splitFirst_append hn]
  obtain ⟨v, rfl, hv⟩ := aadHeaderLine_of_colon acc hsplit
  simpa using hv

theorem aadHeaderLine_method (acc : ParsedAad) (line : Str) :
    (aadHeaderLine acc line).method = acc.method
      ∧ (aadHeaderLine acc line).path = acc.path := by
  unfold aadHeaderLine
  split <;> exact ⟨rfl, rfl⟩

/-- The authority that was read is the value of its header. -/
def AuthorityFromHeaders (t : ParsedAad) : Prop :=
  t.authority = (t.headers.lookup authorityName).getD []

theorem aadHeaderLine_authority {acc : ParsedAad} (h : AuthorityFromHeaders acc)
    (line : Str) : AuthorityFromHeaders (aadHeaderLine acc line) := by
  unfold aadHeaderLine
  split
  · exact h
  · rename_i name rest _
    by_cases hn : name = authorityName
    · simp [AuthorityFromHeaders, hn]
    · simp only [AuthorityFromHeaders, if_neg hn,
        AList.lookup_insert_ne (Ne.symm hn)]
      exact h

/-- Neither a value nor the authority read from a line without line feed
has one. -/
theorem aadHeaderLine_no_lf {acc : ParsedAad} {line : Str} (hl : lf ∉ line)
    (h : ∀ k v, acc.headers.lookup k = some v → lf ∉ v) :
    ∀ k v, (aadHeaderLine acc line).headers.lookup k = some v → lf ∉ v := by
  unfold aadHeaderLine
  split
  · exact h
  · rename_i name rest hsplit
    intro k v hkv
    by_cases hk : k = name
    · subst hk
      rw [AList.lookup_insert, Option.some.injEq] at hkv
      subst hkv
      have hsub : lf ∉ rest := fun hr => hl <| mem_of_mem_popBack <| by
        rw [eq_append_of_splitFirst hsplit]
        exact List.mem_append_right _ (List.mem_cons_of_mem _ hr)
      split
      · exact fun hr => hsub (List.mem_of_mem_tail hr)
      · exact hsub
    · rw [AList.lookup_insert_ne hk] at hkv
      exact h k v hkv

/-! ## Runs of header lines -/

theorem foldl_aadHeaderLine_method (lines : List Str) :
    ∀ acc : ParsedAad, (lines.foldl aadHeaderLine acc).method = acc.method
      ∧ (lines.foldl aadHeaderLine acc).path = acc.path := by
  induction lines with
  | nil => exact fun acc => ⟨rfl, rfl⟩
  | cons line lines ih =>
      intro acc
      obtain ⟨hm, hp⟩ := ih (aadHeaderLine acc line)
      obtain ⟨hm', hp'⟩ := aadHeaderLine_method acc line
      exact ⟨hm.trans hm', hp.trans hp'⟩

theorem foldl_aadHeaderLine_authority (lines : List Str) :
    ∀ {acc : ParsedAad}, AuthorityFromHeaders acc →
      AuthorityFromHeaders (lines.foldl aadHeaderLine acc) := by
  induction lines with
  | nil => exact fun h => h
  | cons line lines ih => exact fun h => ih (aadHeaderLine_authority h line)

theorem foldl_aadHeaderLine_no_lf {lines : List Str} (hl : ∀ l ∈ lines, lf ∉ l) :
    ∀ {acc : ParsedAad}, (∀ k v, acc.headers.lookup k = some v → lf ∉ v) →
      ∀ k v, (lines.foldl aadHeaderLine acc).headers.lookup k = some v → lf ∉ v := by
  induction lines with
  | nil => exact fun h => h
  | cons line lines ih =>
      intro acc h
      exact ih (fun l hmem => hl l (List.mem_cons_of_mem _ hmem))
        (aadHeaderLine_no_lf (hl line (List.mem_cons_self ..)) h)

/-- The name of the header a line carries. -/
def lineName (line : Str) : Option Str :=
  (splitFirst colon (popBack cr line)).map Prod.fst

theorem lookup_aadHeaderLine_of_ne {acc : ParsedAad} {line k : Str}
    (h : lineName line ≠ some k) :
    (aadHeaderLine acc line).headers.lookup k = acc.headers.lookup k := by
  unfold aadHeaderLine
  cases hs : splitFirst colon (popBack cr line) with
  | none => rfl
  | some p =>
      have hk : k ≠ p.1 := by
        rintro rfl
        exact h (by rw [lineName, hs, Option.map_some])
      exact AList.lookup_insert_ne hk

theorem isSome_lookup_aadHeaderLine {acc : ParsedAad} {line k : Str} :
    ((aadHeaderLine acc line).headers.lookup k).isSome
      ↔ (acc.headers.lookup k).isSome ∨ lineName line = some k := by
  by_cases h : lineName line = some k
  · obtain ⟨⟨name, rest⟩, hs, rfl⟩ := Option.map_eq_some_iff.mp h
    obtain ⟨v, -, hv⟩ := aadHeaderLine_of_colon acc hs
    simp [hv, h]
  · simp [lookup_aadHeaderLine_of_ne h, h]

/-- The names in the header map are the old ones and those of the lines. -/
theorem isSome_lookup_foldl_aadHeaderLine {k : Str} (lines : List Str) :
    ∀ {acc : ParsedAad},
      ((lines.foldl aadHeaderLine acc).headers.lookup k).isSome
        ↔ (acc.headers.lookup k).isSome ∨ ∃ l ∈ lines, lineName l = some k := by
  induction lines with
  | nil => simp
  | cons line lines ih =>
      intro acc
      rw [List.foldl_cons, ih, isSome_lookup_aadHeaderLine, List.exists_mem_cons_iff,
        or_assoc]

/-! ## The authority and response header lines -/

theorem lf_not_mem_forcePlainHttp {s : Str} (h : lf ∉ s) : lf ∉ forcePlainHttp s := by
  unfold forcePlainHttp
  split
  · refine fun hm => (List.mem_append.mp hm).elim (by decide) fun hm => ?_
    exact h (List.mem_of_mem_drop hm)
  · split
    · exact h
    · exact fun hm => (List.mem_append.mp hm).elim (by decide) h

theorem foldl_authorityLines {a : Str} (ha : a ≠ []) (hlf : lf ∉ a) (acc : ParsedAad) :
    (getlines lf (authorityLines a)).foldl aadHeaderLine acc =
      { acc with
        authority := a
        headers := (acc.headers.insert authorityName a).insert targetApiRoot
          (forcePlainHttp a) } := by
  rw [authorityLines, if_neg ha, getlines_headerLine_append,
    getlines_headerLine (by decide) hlf,
    getlines_headerLine (by decide) (lf_not_mem_forcePlainHttp hlf)]
  simp only [List.singleton_append, List.foldl_cons, List.foldl_nil,
    aadHeaderLine_headerLine (show colon ∉ authorityName by decide),
    aadHeaderLine_headerLine (show colon ∉ targetApiRoot by decide),
    if_neg (show targetApiRoot ≠ authorityName by decide), if_true]

/-! ## Whole texts -/

/-- What is read from the first line of a text. -/
def startOf (first : Str) (headers : HeaderMap) : ParsedAad :=
  { method := (token isSpace (popBack cr first)).1
    path := (token isSpace (token isSpace (popBack cr first)).2).1
    authority := []
    headers }

theorem parseAad_cons {s first : Str} {lines : List Str} (h : HeaderMap)
    (hs : getlines lf s = first :: lines) :
    parseAad s h = some (lines.foldl aadHeaderLine (startOf first h)) := by
  simp only [parseAad, hs, startOf]

/-- The authority that was parsed is the value of its header. -/
theorem authorityFromHeaders_parseAad {s : Str} {t : ParsedAad} (h : parseAad s ∅ = some t) :
    AuthorityFromHeaders t := by
  cases hs : getlines lf s with
  | nil => simp [parseAad, hs] at h
  | cons first lines =>
      rw [parseAad_cons ∅ hs, Option.some.injEq] at h
      subst h
      exact foldl_aadHeaderLine_authority lines rfl

/-- Anything that was parsed: the path is a token, and the authority has
no line feed. -/
theorem parseAad_clean {s : Str} {t : ParsedAad} (h : parseAad s ∅ = some t) :
    (∀ c ∈ t.path, isSpace c = false) ∧ lf ∉ t.authority := by
  have hauth := authorityFromHeaders_parseAad h
  cases hs : getlines lf s with
  | nil => simp [parseAad, hs] at h
  | cons first lines =>
      rw [parseAad_cons ∅ hs, Option.some.injEq] at h
      subst h
      have hlines : ∀ l ∈ lines, lf ∉ l := fun l hl =>
        not_mem_of_mem_getlines (hs ▸ List.mem_cons_of_mem _ hl)
      constructor
      · intro c hc
        rw [(foldl_aadHeaderLine_method lines _).2] at hc
        exact not_blank_of_mem_token hc
      · have hval : ∀ k v, (lines.foldl aadHeaderLine (startOf first ∅)).headers.lookup k
            = some v → lf ∉ v :=
          foldl_aadHeaderLine_no_lf hlines fun k v hkv => by cases hkv
        rw [hauth]
        cases hl : (lines.foldl aadHeaderLine (startOf first ∅)).headers.lookup
            authorityName with
        | none => exact List.not_mem_nil
        | some v => exact hval _ v hl

/-- A request's AAD, written for a method and a path without blanks and an
authority without line feed, is read back as it was. -/
theorem parseAad_aadRaw {m p a : Str} (hm : m ≠ []) (hms : ∀ c ∈ m, isSpace c = false)
    (hp : p ≠ []) (hps : ∀ c ∈ p, isSpace c = false) (ha : a ≠ []) (hlf : lf ∉ a) :
    parseAad (aadRaw m p a ∅) ∅ = some
      { method := m, path := p, authority := a,
        headers := ((∅ : HeaderMap).insert authorityName a).insert targetApiRoot
          (forcePlainHttp a) } := by
  have hlines := getlines_aadRaw m p a ∅
  rw [getlines_startLine (lf_not_mem_of_not_space hms) (lf_not_mem_of_not_space hps),
    List.singleton_append] at hlines
  rw [parseAad_cons ∅ hlines, List.foldl_append, foldl_authorityLines ha hlf]
  obtain ⟨htok, htok'⟩ := token_startLine hm hms hp hps
  simp only [startOf, popBack_concat, htok, htok']
  rfl

end Sepp
