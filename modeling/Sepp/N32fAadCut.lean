import Sepp.N32fAad

/-!
# Reading an AAD that was cut short

What `parse_aad` makes of the first bytes of a text `build_reformatted_data`
writes: base64url carries only a first part of a text that is too long for it.

A cut inside the start line loses everything behind the method
(`parseAad_startLine_take`), a cut inside a header line loses the end of its
value or, before the colon, the header (`foldl_headerLine_take`). For a
request `parseAad_aadRaw_take` puts both together, and for an answer with its
headers `parseAad_aadRaw_response_take`.
-/

namespace Sepp

open LineText

/-! ## The parts of the text -/

theorem getlines_startLine_append_take (m p rest : Str) (n : ℕ) :
    getlines lf ((startLine m p ++ rest).take n)
      = getlines lf ((startLine m p).take n)
        ++ getlines lf (rest.take (n - (startLine m p).length)) := by
  have h := getlines_take_append lf (m ++ space :: p ++ ascii " HTTP/2.0" ++ [cr]) rest n
  have hlength : (startLine m p).length
      = (m ++ space :: p ++ ascii " HTTP/2.0" ++ [cr]).length + 1 := by
    simp only [startLine, crlf, List.length_append, List.length_cons, List.length_nil]
  rw [hlength]
  simpa [startLine, crlf] using h

theorem getlines_headerLine_append_take (name value rest : Str) (n : ℕ) :
    getlines lf ((headerLine name value ++ rest).take n)
      = getlines lf ((headerLine name value).take n)
        ++ getlines lf (rest.take (n - (headerLine name value).length)) := by
  have h := getlines_take_append lf (name ++ colon :: space :: value ++ [cr]) rest n
  have hlength : (headerLine name value).length
      = (name ++ colon :: space :: value ++ [cr]).length + 1 := by
    simp only [headerLine, crlf, List.length_append, List.length_cons, List.length_nil]
  rw [hlength]
  simpa [headerLine, crlf] using h

theorem getlines_startLine_take {m p : Str} (hm : lf ∉ m) (hp : lf ∉ p) (n : ℕ) :
    getlines lf ((startLine m p).take n)
      = if n = 0 then [] else [(m ++ space :: p ++ ascii " HTTP/2.0" ++ [cr]).take n] := by
  have hline : lf ∉ m ++ space :: p ++ ascii " HTTP/2.0" ++ [cr] := by
    simp only [List.mem_append, List.mem_cons, not_or]
    exact ⟨⟨⟨hm, by decide, hp⟩, by decide⟩, by decide, List.not_mem_nil⟩
  rw [← getlines_take_line hline n]
  simp [startLine, crlf]

theorem getlines_headerLine_take {name value : Str} (hn : lf ∉ name) (hv : lf ∉ value)
    (n : ℕ) :
    getlines lf ((headerLine name value).take n)
      = if n = 0 then [] else [(name ++ colon :: space :: value ++ [cr]).take n] := by
  have hline : lf ∉ name ++ colon :: space :: value ++ [cr] := by
    simp only [List.mem_append, List.mem_cons, not_or]
    exact ⟨⟨hn, by decide, by decide, hv⟩, by decide, List.not_mem_nil⟩
  rw [← getlines_take_line hline n]
  simp [headerLine, crlf]

theorem length_startLine (m p : Str) :
    (startLine m p).length = m.length + p.length + 12 := by
  simp [startLine, crlf, show (ascii " HTTP/2.0").length = 9 from rfl]
  omega

theorem length_headerLine (name value : Str) :
    (headerLine name value).length = name.length + value.length + 4 := by
  simp [headerLine, crlf]
  omega

/-! ## One header line -/

/-- What a header line adds. -/
def ParsedAad.addHeader (acc : ParsedAad) (name value : Str) : ParsedAad :=
  { acc with
    authority := if name = authorityName then value else acc.authority
    headers := acc.headers.insert name value }

/-- The value of a header line of which `n` characters are left. -/
def cutValue (name value : Str) (n : ℕ) : Str := value.take (n - (name.length + 2))

/-- The value that is read of it: `getline` leaves the CR behind it, or one of
its own that comes last. -/
def readValue (name value : Str) (n : ℕ) : Str :=
  popBack cr ((value ++ [cr]).take (n - (name.length + 2)))

theorem readValue_of_not_mem {name value : Str} (h : cr ∉ value) (n : ℕ) :
    readValue name value n = cutValue name value n :=
  popBack_take_concat h _

/-- The whole value is read when all of it is left and no CR of it comes last. -/
theorem readValue_eq_iff {name value : Str} (hvalue : value ≠ []) (n : ℕ) :
    readValue name value n = value ↔ name.length + value.length + 2 < n
      ∨ n = name.length + value.length + 2 ∧ value.getLast? ≠ some cr := by
  have hpos := List.length_pos_iff.mpr hvalue
  unfold readValue
  rcases Nat.lt_trichotomy n (name.length + value.length + 2) with hlt | rfl | hgt
  · refine iff_of_false (fun h => ?_) (by omega)
    have hlength := congrArg List.length h
    have hle : (popBack cr ((value ++ [cr]).take (n - (name.length + 2)))).length
        ≤ n - (name.length + 2) := (length_popBack_le ..).trans (List.length_take_le _ _)
    omega
  · rw [show name.length + value.length + 2 - (name.length + 2) = value.length by omega,
      List.take_left' rfl, popBack_eq_self_iff hvalue]
    simp only [lt_self_iff_false, false_or, true_and]
  · rw [List.take_of_length_le (by rw [List.length_append, List.length_singleton]; omega),
      popBack_concat]
    exact iff_of_true rfl (Or.inl hgt)

theorem aadHeaderLine_take {name value : Str} (hn : colon ∉ name) (hname : cr ∉ name) (n : ℕ)
    (acc : ParsedAad) :
    aadHeaderLine acc ((name ++ colon :: space :: value ++ [cr]).take n)
      = if n ≤ name.length then acc else acc.addHeader name (readValue name value n) := by
  rw [List.append_assoc, List.cons_append, List.cons_append]
  split
  · rename_i hshort
    rw [List.take_append_of_le_length hshort, aadHeaderLine,
      popBack_of_not_mem fun hmem => hname (List.mem_of_mem_take hmem),
      splitFirst_eq_none.mpr fun hmem => hn (List.mem_of_mem_take hmem)]
  · obtain ⟨j, rfl⟩ : ∃ j, n = name.length + (j + 1) := ⟨n - (name.length + 1), by omega⟩
    rw [List.take_length_add_append, List.take_succ_cons, aadHeaderLine,
      popBack_append_cons (by decide), splitFirst_append hn]
    simp only [ParsedAad.addHeader, readValue,
      show name.length + (j + 1) - (name.length + 2) = j - 1 by omega]
    cases j with
    | zero => rfl
    | succ j =>
        have hspace := popBack_append_cons (show space ≠ cr by decide) [] ((value ++ [cr]).take j)
        rw [List.take_succ_cons, show space :: (value ++ [cr]).take j
          = [] ++ space :: (value ++ [cr]).take j from rfl, hspace]
        rfl

/-- A header line of which `n` characters are left. -/
theorem foldl_headerLine_take_read {name value : Str} (hn : colon ∉ name)
    (hname : noCrLf name = true) (hvalue : lf ∉ value) (n : ℕ) (acc : ParsedAad) :
    (getlines lf ((headerLine name value).take n)).foldl aadHeaderLine acc
      = if n ≤ name.length then acc else acc.addHeader name (readValue name value n) := by
  obtain ⟨hncr, hnlf⟩ := noCrLf_iff.mp hname
  rw [getlines_headerLine_take hnlf hvalue]
  split
  · rename_i hzero
    rw [if_pos (by omega)]
    rfl
  · exact aadHeaderLine_take hn hncr n acc

theorem foldl_headerLine_take {name value : Str} (hn : colon ∉ name)
    (hname : noCrLf name = true) (hvalue : noCrLf value = true) (n : ℕ) (acc : ParsedAad) :
    (getlines lf ((headerLine name value).take n)).foldl aadHeaderLine acc
      = if n ≤ name.length then acc else acc.addHeader name (cutValue name value n) := by
  obtain ⟨hvcr, hvlf⟩ := noCrLf_iff.mp hvalue
  rw [foldl_headerLine_take_read hn hname hvlf, readValue_of_not_mem hvcr]

theorem cutValue_of_le {name value : Str} {n : ℕ}
    (h : name.length + value.length + 2 ≤ n) : cutValue name value n = value :=
  List.take_of_length_le (by omega)

theorem cutValue_nil {name value : Str} {n : ℕ} (h : n ≤ name.length + 2) :
    cutValue name value n = [] := by
  rw [cutValue, Nat.sub_eq_zero_of_le h, List.take_zero]

/-! ## A request's text -/

/-- What is left of the authority's value, and of the target's, in the first
`n` characters of a request's AAD. -/
def cutAuthority (m p a : Str) (n : ℕ) : Str :=
  cutValue authorityName a (n - (startLine m p).length)

def cutTarget (m p a : Str) (n : ℕ) : Str :=
  cutValue targetApiRoot (forcePlainHttp a)
    (n - (startLine m p).length - (headerLine authorityName a).length)

/-- The host these `n` characters name: the target goes before the authority. -/
def cutHost (m p a : Str) (n : ℕ) : Str :=
  if cutTarget m p a n = [] then cutAuthority m p a n else cutTarget m p a n

theorem noCrLf_forcePlainHttp {s : Str} (h : noCrLf s = true) :
    noCrLf (forcePlainHttp s) = true := by
  obtain ⟨hcr, hlf⟩ := noCrLf_iff.mp h
  refine noCrLf_iff.mpr ⟨?_, lf_not_mem_forcePlainHttp hlf⟩
  unfold forcePlainHttp
  split
  · exact fun hm => (List.mem_append.mp hm).elim (by decide) fun hm =>
      hcr (List.mem_of_mem_drop hm)
  · split
    · exact hcr
    · exact fun hm => (List.mem_append.mp hm).elim (by decide) hcr

theorem foldl_authorityLines_take {a : Str} (ha : a ≠ []) (hline : noCrLf a = true) (n : ℕ)
    (acc : ParsedAad) :
    (getlines lf ((authorityLines a).take n)).foldl aadHeaderLine acc =
      let acc := if n ≤ authorityName.length then acc
        else acc.addHeader authorityName (cutValue authorityName a n)
      let n := n - (headerLine authorityName a).length
      if n ≤ targetApiRoot.length then acc
      else acc.addHeader targetApiRoot (cutValue targetApiRoot (forcePlainHttp a) n) := by
  rw [authorityLines, if_neg ha, getlines_headerLine_append_take, List.foldl_append,
    foldl_headerLine_take (by decide) (by decide) hline,
    foldl_headerLine_take (by decide) (by decide) (noCrLf_forcePlainHttp hline)]

/-- The host a request goes to is named by the header, else by the authority,
else it is the NRF's. -/
theorem targetEndpoint_eq (cfg : SeppConfig) (authority : Str) (headers : HeaderMap) :
    targetEndpoint cfg authority headers =
      let host := if (headers.lookup targetApiRoot).getD [] = [] then authority
        else (headers.lookup targetApiRoot).getD []
      forcePlainHttp (if host = [] then cfg.nrfUrl else host) := by
  unfold targetEndpoint
  cases headers.lookup targetApiRoot with
  | none => by_cases ha : authority = [] <;> simp [ha]
  | some v => by_cases hv : v = [] <;> by_cases ha : authority = [] <;> simp [hv, ha]

/-- What is read of the authority lines, starting without headers. -/
theorem authorityLines_take_read {a : Str} (ha : a ≠ []) (hline : noCrLf a = true) (n : ℕ)
    (acc : ParsedAad) (hnone : acc.headers = ∅) (hempty : acc.authority = []) :
    let t := (getlines lf ((authorityLines a).take n)).foldl aadHeaderLine acc
    t.authority = cutValue authorityName a n
      ∧ (t.headers.lookup targetApiRoot).getD []
          = cutValue targetApiRoot (forcePlainHttp a) (n - (headerLine authorityName a).length)
      ∧ ∀ k ∈ t.headers, k = authorityName ∨ k = targetApiRoot := by
  intro t
  have hname : authorityName.length = 9 := rfl
  have hroot : targetApiRoot.length = 23 := rfl
  have hlength := length_headerLine authorityName a
  have ht : t = _ := foldl_authorityLines_take ha hline n acc
  dsimp only at ht
  by_cases hfirst : n ≤ authorityName.length
  · rw [if_pos hfirst, if_pos (by omega)] at ht
    rw [ht, hnone, hempty, cutValue_nil (by omega), cutValue_nil (by omega)]
    exact ⟨rfl, rfl, fun k hk => absurd hk (AList.notMem_empty k)⟩
  · rw [if_neg hfirst] at ht
    by_cases hsecond : n - (headerLine authorityName a).length ≤ targetApiRoot.length
    · rw [if_pos hsecond] at ht
      rw [ht, cutValue_nil (n := n - _) (by omega)]
      simp only [ParsedAad.addHeader, hnone, if_true]
      refine ⟨trivial, ?_, fun k hk => ?_⟩
      · rw [AList.lookup_insert_ne (by decide)]
        rfl
      · simp only [AList.mem_insert, AList.notMem_empty, or_false] at hk
        exact Or.inl hk
    · rw [if_neg hsecond] at ht
      rw [ht]
      simp only [ParsedAad.addHeader, hnone, if_true,
        if_neg (show targetApiRoot ≠ authorityName by decide), AList.lookup_insert,
        Option.getD_some, true_and]
      intro k hk
      simp only [AList.mem_insert, AList.notMem_empty, or_false] at hk
      exact hk.symm

theorem cutHost_zero (m p a : Str) : cutHost m p a 0 = [] := by
  simp [cutHost, cutTarget, cutAuthority, cutValue]

theorem le_of_cutHost_ne_nil {m p a : Str} {n : ℕ} (h : cutHost m p a n ≠ []) :
    (startLine m p).length ≤ n := by
  by_contra hlt
  refine h ?_
  simp only [cutHost, cutTarget, cutAuthority,
    Nat.sub_eq_zero_of_le (Nat.le_of_lt (Nat.lt_of_not_le hlt)), Nat.zero_sub]
  simp [cutValue]

/-- The first characters of a request's AAD, as far as they name a host, are
read as that request. -/
theorem parseAad_aadRaw_take {m p a : Str} (hm : m ≠ []) (hms : ∀ c ∈ m, isSpace c = false)
    (hp : p ≠ []) (hps : ∀ c ∈ p, isSpace c = false) (ha : a ≠ [])
    (hline : noCrLf a = true) {n : ℕ} (hn : 0 < n) :
    ∃ t, parseAad ((aadRaw m p a ∅).take n) ∅ = some t
      ∧ (cutHost m p a n ≠ [] → t.method = m ∧ t.path = p)
      ∧ (∀ k ∈ t.headers, k = authorityName ∨ k = targetApiRoot)
      ∧ ∀ cfg, targetEndpoint cfg t.authority t.headers
          = forcePlainHttp (if cutHost m p a n = [] then cfg.nrfUrl else cutHost m p a n) := by
  have hlines : getlines lf ((aadRaw m p a ∅).take n)
      = (m ++ space :: p ++ ascii " HTTP/2.0" ++ [cr]).take n
        :: getlines lf ((authorityLines a).take (n - (startLine m p).length)) := by
    rw [aadRaw, show responseHeaderLines ∅ = [] from rfl, List.append_nil,
      getlines_startLine_append_take,
      getlines_startLine_take (lf_not_mem_of_not_space hms) (lf_not_mem_of_not_space hps),
      if_neg (by omega), List.singleton_append]
  refine ⟨_, parseAad_cons ∅ hlines, fun hhost => ?_, ?_⟩
  · have hwhole : (m ++ space :: p ++ ascii " HTTP/2.0" ++ [cr]).length ≤ n := by
      have hle := le_of_cutHost_ne_nil hhost
      rw [length_startLine] at hle
      simp [show (ascii " HTTP/2.0").length = 9 from rfl]
      omega
    obtain ⟨htok, htok'⟩ := token_startLine hm hms hp hps
    obtain ⟨hmethod, hpath⟩ := foldl_aadHeaderLine_method
      (getlines lf ((authorityLines a).take (n - (startLine m p).length)))
      (startOf ((m ++ space :: p ++ ascii " HTTP/2.0" ++ [cr]).take n) ∅)
    rw [hmethod, hpath, List.take_of_length_le hwhole]
    simp only [startOf, popBack_concat, htok, htok', and_self]
  · obtain ⟨hauthority, htarget, hnames⟩ := authorityLines_take_read ha hline
      (n - (startLine m p).length)
      (startOf ((m ++ space :: p ++ ascii " HTTP/2.0" ++ [cr]).take n) ∅) rfl rfl
    refine ⟨hnames, fun cfg => ?_⟩
    rw [targetEndpoint_eq, hauthority, htarget]
    rfl

/-! ## An answer's text -/

/-- The headers that become lines. -/
def cleanHeaders (H : HeaderMap) : List (Σ _ : Str, Str) :=
  H.entries.filter fun e => noCrLf e.1 && noCrLf e.2

/-- One line for every header of a list. -/
def headerLines (L : List (Σ _ : Str, Str)) : Str := L.flatMap fun e => headerLine e.1 e.2

theorem responseHeaderLines_eq (H : HeaderMap) :
    responseHeaderLines H = headerLines (cleanHeaders H) := by
  unfold responseHeaderLines headerLines cleanHeaders
  induction H.entries with
  | nil => rfl
  | cons e l ih =>
      rw [List.flatMap_cons, List.filter_cons, ih]
      split
      · rw [List.flatMap_cons]
      · rfl

theorem length_headerLines_cons (e : Σ _ : Str, Str) (L : List (Σ _ : Str, Str)) :
    (headerLines (e :: L)).length = (headerLine e.1 e.2).length + (headerLines L).length := by
  simp [headerLines]

/-- What can stand in a header line. -/
def Plainly (e : Σ _ : Str, Str) : Prop :=
  colon ∉ e.1 ∧ noCrLf e.1 = true ∧ noCrLf e.2 = true

/-- A header that is read or not leaves the others. -/
theorem lookup_read_ne {k name v : Str} (hne : k ≠ name) (skipped : Prop) [Decidable skipped]
    (acc : ParsedAad) :
    (if skipped then acc else acc.addHeader name v).headers.lookup k
      = acc.headers.lookup k := by
  split
  · rfl
  · exact AList.lookup_insert_ne hne

theorem foldl_headerLines_cons_take {e : Σ _ : Str, Str} (he : Plainly e)
    (L : List (Σ _ : Str, Str)) (n : ℕ) (acc : ParsedAad) :
    (getlines lf ((headerLines (e :: L)).take n)).foldl aadHeaderLine acc
      = (getlines lf ((headerLines L).take (n - (headerLine e.1 e.2).length))).foldl
          aadHeaderLine
            (if n ≤ e.1.length then acc else acc.addHeader e.1 (cutValue e.1 e.2 n)) := by
  rw [headerLines, List.flatMap_cons, getlines_headerLine_append_take, List.foldl_append,
    foldl_headerLine_take he.1 he.2.1 he.2.2]
  rfl

theorem lookup_headerLines_take_of_not_mem {L : List (Σ _ : Str, Str)}
    (hL : ∀ e ∈ L, Plainly e) {k : Str} (hk : k ∉ L.keys) :
    ∀ (n : ℕ) (acc : ParsedAad),
      ((getlines lf ((headerLines L).take n)).foldl aadHeaderLine acc).headers.lookup k
        = acc.headers.lookup k := by
  induction L with
  | nil =>
      intro n acc
      rw [headerLines, List.flatMap_nil, List.take_nil]
      rfl
  | cons e L ih =>
      intro n acc
      obtain ⟨hne, hk⟩ : k ≠ e.1 ∧ k ∉ L.keys := by simpa using hk
      rw [foldl_headerLines_cons_take (hL e (List.mem_cons_self ..)),
        ih (fun e he => hL e (List.mem_cons_of_mem _ he)) hk]
      exact lookup_read_ne hne ..

/-- The last value is empty. -/
def EndsEmpty (L : List (Σ _ : Str, Str)) : Prop := ∃ e, L.getLast? = some e ∧ e.2 = []

/-- The first header of the lines is read as it was. -/
theorem lookup_headerLines_take_head {e : Σ _ : Str, Str} {L : List (Σ _ : Str, Str)}
    (hL : ∀ e' ∈ e :: L, Plainly e') (hnd : e.1 ∉ L.keys) {acc : ParsedAad}
    (hnone : acc.headers.lookup e.1 = none) (n : ℕ) :
    ((getlines lf ((headerLines (e :: L)).take n)).foldl aadHeaderLine acc).headers.lookup e.1
        = some e.2
      ↔ e.1.length + e.2.length + 2 ≤ n ∨ e.2 = [] ∧ e.1.length + 1 ≤ n := by
  rw [foldl_headerLines_cons_take (hL e (List.mem_cons_self ..)),
    lookup_headerLines_take_of_not_mem (fun e he => hL e (List.mem_cons_of_mem _ he)) hnd]
  by_cases hshort : n ≤ e.1.length
  · rw [if_pos hshort, hnone]
    refine iff_of_false (fun h => by cases h) ?_
    rintro (h | ⟨-, h⟩) <;> omega
  · rw [if_neg hshort, ParsedAad.addHeader, AList.lookup_insert, Option.some.injEq, cutValue,
      List.take_eq_self_iff]
    constructor
    · intro h
      by_cases hempty : e.2 = []
      · exact Or.inr ⟨hempty, by omega⟩
      · have hpos := List.length_pos_iff.mpr hempty
        exact Or.inl (by omega)
    · rintro (h | ⟨hempty, -⟩)
      · omega
      · simp [hempty]

/-- Of header lines that were cut short all are read as they were when the
last one is: at most its end is missing, or the blank before an empty value. -/
theorem lookup_headerLines_take_iff {L : List (Σ _ : Str, Str)} (hL : ∀ e ∈ L, Plainly e)
    (hnd : L.NodupKeys) :
    ∀ {acc : ParsedAad} (n : ℕ), (∀ e ∈ L, acc.headers.lookup e.1 = none) →
      ((∀ e ∈ L, ((getlines lf ((headerLines L).take n)).foldl aadHeaderLine acc).headers.lookup
          e.1 = some e.2)
        ↔ L = [] ∨ (headerLines L).length ≤ n + 2
          ∨ EndsEmpty L ∧ (headerLines L).length ≤ n + 3) := by
  induction L with
  | nil => exact fun n _ => iff_of_true (fun e he => by cases he) (Or.inl rfl)
  | cons e L ih =>
      intro acc n hnone
      obtain ⟨he, hnd'⟩ := List.nodupKeys_cons.mp hnd
      have hplain := hL e (List.mem_cons_self ..)
      have hhead := lookup_headerLines_take_head hL he (hnone e (List.mem_cons_self ..)) n
      have hlength := length_headerLine e.1 e.2
      rw [List.forall_mem_cons, hhead, foldl_headerLines_cons_take hplain,
        ih (fun e he => hL e (List.mem_cons_of_mem _ he)) hnd' _ ?_,
        length_headerLines_cons, or_iff_right (List.cons_ne_nil e L)]
      · cases L with
        | nil =>
            simp only [EndsEmpty, List.getLast?_singleton, Option.some.injEq, exists_eq_left',
              headerLines, List.flatMap_nil, List.length_nil, true_or, and_true]
            constructor
            · rintro (h | ⟨hempty, h⟩)
              · exact Or.inl (by omega)
              · have hzero := List.length_eq_zero_iff.mpr hempty
                exact Or.inr ⟨hempty, by omega⟩
            · rintro (h | ⟨hempty, h⟩)
              · exact Or.inl (by omega)
              · have hzero := List.length_eq_zero_iff.mpr hempty
                exact Or.inr ⟨hempty, by omega⟩
        | cons e' L =>
            have hlength' := length_headerLine e'.1 e'.2
            have hrest := length_headerLines_cons e' L
            simp only [EndsEmpty, List.getLast?_cons_cons, or_iff_right (List.cons_ne_nil e' L)]
            constructor
            · rintro ⟨-, h | ⟨hempty, h⟩⟩
              · exact Or.inl (by omega)
              · exact Or.inr ⟨hempty, by omega⟩
            · rintro (h | ⟨hempty, h⟩)
              · exact ⟨Or.inl (by omega), Or.inl (by omega)⟩
              · exact ⟨Or.inl (by omega), Or.inr ⟨hempty, by omega⟩⟩
      · intro e'' he''
        have hne : e''.1 ≠ e.1 := fun hsame => he (hsame ▸ List.mem_keys_of_mem he'')
        rw [lookup_read_ne hne]
        exact hnone e'' (List.mem_cons_of_mem _ he'')

theorem mem_cleanHeaders {H : HeaderMap} {k v : Str} :
    ⟨k, v⟩ ∈ cleanHeaders H ↔ (H.lookup k).filter (fun v => noCrLf k && noCrLf v) = some v := by
  rw [cleanHeaders, List.mem_filter, ← AList.mem_lookup_iff, Option.filter_eq_some_iff,
    Option.mem_def]

/-- A line that was cut short carries the header of the line or none. -/
theorem lineName_of_prefix {name rest l k : Str} (hn : colon ∉ name)
    (hl : l <+: name ++ colon :: rest) (h : lineName l = some k) : k = name := by
  obtain ⟨⟨k, r⟩, hs, rfl⟩ := Option.map_eq_some_iff.mp h
  have hpop : popBack cr l <+: l := by
    unfold popBack
    split
    · exact List.dropLast_prefix l
    · exact List.prefix_rfl
  obtain ⟨tail, htail⟩ := hpop.trans hl
  have hread := splitFirst_append (not_mem_of_splitFirst hs) (r ++ tail)
  rw [show k ++ colon :: (r ++ tail) = popBack cr l ++ tail by
    rw [eq_append_of_splitFirst hs]; simp, htail, splitFirst_append hn] at hread
  exact (Prod.mk.inj (Option.some.inj hread)).1.symm

theorem lineName_headerLine_take {name value l k : Str} (hn : colon ∉ name) (hnlf : lf ∉ name)
    (hvlf : lf ∉ value) {n : ℕ} (hl : l ∈ getlines lf ((headerLine name value).take n))
    (h : lineName l = some k) : k = name := by
  rw [getlines_headerLine_take hnlf hvlf] at hl
  split at hl
  · cases hl
  · obtain rfl := List.mem_singleton.mp hl
    have hline : name ++ colon :: space :: value ++ [cr]
        = name ++ colon :: (space :: value ++ [cr]) := by
      rw [List.append_assoc, List.cons_append]
    rw [hline] at h
    exact lineName_of_prefix hn (List.take_prefix _ _) h

theorem getlines_authorityLines_append_take (a rest : Str) (n : ℕ) :
    getlines lf ((authorityLines a ++ rest).take n)
      = getlines lf ((authorityLines a).take n)
        ++ getlines lf (rest.take (n - (authorityLines a).length)) := by
  unfold authorityLines
  split
  · rw [List.take_nil]
    rfl
  · rw [List.append_assoc, getlines_headerLine_append_take, getlines_headerLine_append_take,
      getlines_headerLine_append_take, List.append_assoc, List.length_append, Nat.sub_add_eq]

/-- Authority lines bring no other headers, however short they were cut. -/
theorem lineName_authorityLines_take {a l k : Str} (hlf : lf ∉ a) {n : ℕ}
    (hl : l ∈ getlines lf ((authorityLines a).take n)) (h : lineName l = some k) :
    k = authorityName ∨ k = targetApiRoot := by
  unfold authorityLines at hl
  split at hl
  · rw [List.take_nil] at hl
    cases hl
  · rw [getlines_headerLine_append_take] at hl
    rcases List.mem_append.mp hl with hl | hl
    · exact Or.inl (lineName_headerLine_take (by decide) (by decide) hlf hl h)
    · exact Or.inr (lineName_headerLine_take (by decide) (by decide)
        (lf_not_mem_forcePlainHttp hlf) hl h)

theorem lookup_foldl_aadHeaderLine_of_ne {k : Str} {lines : List Str}
    (h : ∀ l ∈ lines, lineName l ≠ some k) :
    ∀ acc : ParsedAad, (lines.foldl aadHeaderLine acc).headers.lookup k = acc.headers.lookup k := by
  induction lines with
  | nil => exact fun _ => rfl
  | cons line lines ih =>
      intro acc
      rw [List.foldl_cons, ih (fun l hl => h l (List.mem_cons_of_mem _ hl)),
        lookup_aadHeaderLine_of_ne (h line (List.mem_cons_self ..))]

/-- The first word of a start line that was cut short. -/
theorem token_startLine_take {st p : Str} (hst : st ≠ []) (hsts : ∀ c ∈ st, isSpace c = false)
    (n : ℕ) :
    (token isSpace (popBack cr ((st ++ space :: p ++ ascii " HTTP/2.0" ++ [cr]).take n))).1
      = st.take n := by
  have hcr : cr ∉ st := fun h => absurd (hsts cr h) (by decide)
  rw [show st ++ space :: p ++ ascii " HTTP/2.0" ++ [cr]
    = st ++ (space :: (p ++ ascii " HTTP/2.0" ++ [cr])) by simp]
  by_cases hshort : n ≤ st.length
  · rw [List.take_append_of_le_length hshort,
      popBack_of_not_mem fun h => hcr (List.mem_of_mem_take h)]
    exact token_word fun c hc => hsts c (List.mem_of_mem_take hc)
  · rw [List.take_append, List.take_of_length_le (by omega),
      show n - st.length = n - (st.length + 1) + 1 by omega, List.take_succ_cons,
      popBack_append_cons (by decide), token_append_blank hst hsts rfl]

/-- Whether the headers of an answer arrive in the first `n` characters of its
AAD: all but the end of the last line, or but the blank before an empty
value. -/
def HeadersIn (st p a : Str) (H : HeaderMap) (n : ℕ) : Prop :=
  cleanHeaders H = [] ∨ (aadRaw st p a H).length ≤ n + 2
    ∨ EndsEmpty (cleanHeaders H) ∧ (aadRaw st p a H).length ≤ n + 3

theorem headersIn_iff {st p a : Str} {H : HeaderMap} {n : ℕ} :
    HeadersIn st p a H n ↔ cleanHeaders H = []
      ∨ (headerLines (cleanHeaders H)).length
          ≤ n - (startLine st p).length - (authorityLines a).length + 2
      ∨ EndsEmpty (cleanHeaders H)
        ∧ (headerLines (cleanHeaders H)).length
            ≤ n - (startLine st p).length - (authorityLines a).length + 3 := by
  have hlength : (aadRaw st p a H).length = (startLine st p).length
      + (authorityLines a).length + (headerLines (cleanHeaders H)).length := by
    rw [aadRaw, responseHeaderLines_eq, List.length_append, List.length_append]
  unfold HeadersIn
  rw [hlength]
  cases hL : cleanHeaders H with
  | nil => exact iff_of_true (Or.inl rfl) (Or.inl rfl)
  | cons e L =>
      have hline := length_headerLine e.1 e.2
      have hlines := length_headerLines_cons e L
      rw [or_iff_right (List.cons_ne_nil e L), or_iff_right (List.cons_ne_nil e L)]
      refine or_congr (by omega) (and_congr_right fun _ => ?_)
      omega

/-- The first characters of an answer's AAD: as much of the status as they
hold, and the headers, if they hold them. -/
theorem parseAad_aadRaw_response_take {st p a : Str} {H : HeaderMap} (hst : st ≠ [])
    (hsts : ∀ c ∈ st, isSpace c = false) (hps : ∀ c ∈ p, isSpace c = false) (hlf : lf ∉ a)
    (hcolon : ∀ e ∈ H.entries, colon ∉ e.1)
    (hnames : ∀ e ∈ H.entries, e.1 ≠ authorityName ∧ e.1 ≠ targetApiRoot) {n : ℕ} (hn : 0 < n) :
    ∃ t, parseAad ((aadRaw st p a H).take n) ∅ = some t ∧ t.method = st.take n
      ∧ (∀ k ∉ (cleanHeaders H).keys, k ≠ authorityName → k ≠ targetApiRoot →
          t.headers.lookup k = none)
      ∧ ((∀ e ∈ cleanHeaders H, t.headers.lookup e.1 = some e.2) ↔ HeadersIn st p a H n) := by
  have hlines : getlines lf ((aadRaw st p a H).take n)
      = (st ++ space :: p ++ ascii " HTTP/2.0" ++ [cr]).take n
        :: (getlines lf ((authorityLines a).take (n - (startLine st p).length))
          ++ getlines lf ((headerLines (cleanHeaders H)).take
            (n - (startLine st p).length - (authorityLines a).length))) := by
    rw [aadRaw, responseHeaderLines_eq, List.append_assoc, getlines_startLine_append_take,
      getlines_authorityLines_append_take,
      getlines_startLine_take (lf_not_mem_of_not_space hsts) (lf_not_mem_of_not_space hps),
      if_neg (by omega), List.singleton_append]
  have hnodup : (cleanHeaders H).NodupKeys := H.nodupKeys.sublist List.filter_sublist
  have hplain : ∀ e ∈ cleanHeaders H, Plainly e := fun e he => by
    obtain ⟨hin, hclean⟩ := List.mem_filter.mp he
    exact ⟨hcolon e hin, Bool.and_eq_true_iff.mp hclean⟩
  set first := (st ++ space :: p ++ ascii " HTTP/2.0" ++ [cr]).take n with hfirst
  set acc := (getlines lf ((authorityLines a).take (n - (startLine st p).length))).foldl
    aadHeaderLine (startOf first ∅) with hacc
  have hnone : ∀ k, k ≠ authorityName → k ≠ targetApiRoot → acc.headers.lookup k = none := by
    intro k hka hkr
    rw [hacc, lookup_foldl_aadHeaderLine_of_ne]
    · rfl
    · intro l hl hname
      rcases lineName_authorityLines_take hlf hl hname with h | h
      · exact hka h
      · exact hkr h
  refine ⟨_, parseAad_cons ∅ hlines, ?_, fun k hk hka hkr => ?_, ?_⟩
  · rw [(foldl_aadHeaderLine_method _ _).1]
    exact token_startLine_take hst hsts n
  · rw [List.foldl_append, ← hacc, lookup_headerLines_take_of_not_mem hplain hk,
      hnone k hka hkr]
  · rw [List.foldl_append, ← hacc, headersIn_iff]
    exact lookup_headerLines_take_iff hplain hnodup
      (n - (startLine st p).length - (authorityLines a).length) fun e he =>
        hnone e.1 (hnames e (List.mem_filter.mp he).1).1 (hnames e (List.mem_filter.mp he).1).2

end Sepp
