import Sepp.PrinsTransport

/-!
# Header injection through the AAD

Response headers are checked for CR and LF before they become lines of an
AAD; the method, the path and the authority are not. This file says which
strings can therefore bring headers of their own into the text, and proves
that these are the only ones: `recoversHeaders_iff`.

The bridge is `spells_iff`: a line after the first carries a header of
that name just when the text has a line feed, the name and a colon in a
row. It holds of a text that was cut short as well, and so the headers that
are recovered are known however much base64url carries of an AAD.
-/

namespace Sepp

open LineText

/-- Behind a line feed of the text stands a header name and a colon. -/
def Spells (text name : Str) : Prop :=
  lf ∉ name ∧ colon ∉ name ∧ lf :: (name ++ [colon]) <:+: text

/-- Behind a line feed of the method or the path does. -/
def Injects (m p name : Str) : Prop := Spells (m ++ space :: p) name

/-- The peer recovers from an AAD the headers of the authority `a`, no
others, and sends to the host `a` alone determines. -/
def RecoversHeaders (E : Platform) (a : Str) (data : FlatJweJson) : Prop :=
  ∃ t, parseAad (base64urlDecode E.toOpenSsl data.aad) ∅ = some t
    ∧ (∀ k ∈ t.headers, k = authorityName ∨ k = targetApiRoot)
    ∧ t.headers.lookup authorityName = (if a = [] then none else some a)
    ∧ t.headers.lookup targetApiRoot = (if a = [] then none else some (forcePlainHttp a))
    ∧ ∀ cfg, targetEndpoint cfg t.authority t.headers
        = forcePlainHttp (if a = [] then cfg.nrfUrl else a)

/-! ## Lines that carry a header -/

theorem lineName_eq_some {l name : Str} :
    lineName l = some name ↔ colon ∉ name ∧ name ++ [colon] <+: l := by
  constructor
  · intro h
    obtain ⟨⟨n, rest⟩, hs, rfl⟩ := Option.map_eq_some_iff.mp h
    refine ⟨not_mem_of_splitFirst hs, ?_⟩
    have hpre : n ++ [colon] <+: popBack cr l := by
      rw [eq_append_of_splitFirst hs]
      exact ⟨rest, by simp⟩
    refine hpre.trans ?_
    unfold popBack
    split
    · exact List.dropLast_prefix l
    · exact List.prefix_rfl
  · rintro ⟨hname, rest, rfl⟩
    rw [List.append_assoc, List.singleton_append, lineName,
      popBack_append_cons (by decide), splitFirst_append hname]
    rfl

theorem spells_iff {text name : Str} :
    Spells text name ↔ ∃ l ∈ (getlines lf text).tail, lineName l = some name := by
  constructor
  · rintro ⟨hlf, hname, hinfix⟩
    have hline : lf ∉ name ++ [colon] := by
      simp only [List.mem_append, List.mem_singleton, not_or]
      exact ⟨hlf, by decide⟩
    obtain ⟨l, hl, hpre⟩ := (infix_iff_mem_tail_getlines hline (by simp) text).mp hinfix
    exact ⟨l, hl, lineName_eq_some.mpr ⟨hname, hpre⟩⟩
  · rintro ⟨l, hl, hn⟩
    obtain ⟨hname, hpre⟩ := lineName_eq_some.mp hn
    have hlf : lf ∉ name ++ [colon] := fun h =>
      not_mem_of_mem_getlines (List.mem_of_mem_tail hl) (hpre.subset h)
    exact ⟨fun h => hlf (List.mem_append_left _ h), hname,
      (infix_iff_mem_tail_getlines hlf (by simp) text).mpr ⟨l, hl, hpre⟩⟩

theorem injects_iff {m p name : Str} : Injects m p name ↔ Spells (startLine m p) name := by
  have htext : startLine m p = (m ++ space :: p) ++ (ascii " HTTP/2.0" ++ crlf) := by
    simp [startLine]
  unfold Injects Spells
  rw [htext, ← List.cons_append,
    infix_append_iff (show colon ∉ ascii " HTTP/2.0" ++ crlf by decide)]

/-! ## What is recovered -/

/-- What is recovered of a text before the authority lines. -/
def startLines (text : Str) : ParsedAad :=
  (getlines lf text).tail.foldl aadHeaderLine (startOf ((getlines lf text).headD []) ∅)

theorem isSome_lookup_startLines {text k : Str} :
    ((startLines text).headers.lookup k).isSome ↔ Spells text k := by
  rw [startLines, isSome_lookup_foldl_aadHeaderLine, spells_iff]
  simp [startOf]

theorem mem_startLines {text k : Str} : k ∈ (startLines text).headers ↔ Spells text k := by
  rw [← AList.lookup_isSome, isSome_lookup_startLines]

theorem parseAad_take (m p a : Str) {n : ℕ} (hn : 0 < n) :
    parseAad ((aadRaw m p a ∅).take n) ∅
      = some ((getlines lf ((authorityLines a).take (n - (startLine m p).length))).foldl
          aadHeaderLine (startLines ((startLine m p).take n))) := by
  have htext : aadRaw m p a ∅ = startLine m p ++ authorityLines a := List.append_nil _
  have hlines := getlines_startLine_append_take m p (authorityLines a) n
  cases hs : getlines lf ((startLine m p).take n) with
  | nil =>
      refine absurd hs (getlines_ne_nil lf fun hnil => ?_)
      have hlength := congrArg List.length hnil
      have hpos := length_startLine m p
      rw [List.length_take, List.length_nil] at hlength
      omega
  | cons first rest =>
      rw [hs, List.cons_append] at hlines
      rw [htext, parseAad_cons ∅ hlines, List.foldl_append, startLines, hs]
      rfl

/-- The value is recovered from `n` characters of the header line: either it is
left of the line, or of the line no header is left and the value was spelled
before it. -/
def Arrives (spelled : Option Str) (name value : Str) (n : ℕ) : Prop :=
  if n ≤ name.length then spelled = some value
  else name.length + value.length + 2 < n
    ∨ n = name.length + value.length + 2 ∧ value.getLast? ≠ some cr

theorem arrives_iff {acc : ParsedAad} {name value : Str} (hvalue : value ≠ []) (n : ℕ) :
    (if n ≤ name.length then acc
      else acc.addHeader name (readValue name value n)).headers.lookup name = some value
      ↔ Arrives (acc.headers.lookup name) name value n := by
  unfold Arrives
  split
  · exact Iff.rfl
  · rw [← readValue_eq_iff hvalue]
    simp only [ParsedAad.addHeader, AList.lookup_insert, Option.some.injEq]

/-- What must be left of an AAD of which the first `n` characters are: method
and path spell no other header in them, and both headers of the authority
arrive. -/
def CutRecovers (m p a : Str) (n : ℕ) : Prop :=
  let text := (startLine m p).take n
  let spelled := (startLines text).headers
  let n₁ := n - (startLine m p).length
  0 < n ∧ lf ∉ a
    ∧ (∀ name, Spells text name → a ≠ [] ∧ (name = authorityName ∨ name = targetApiRoot))
    ∧ (a ≠ [] → Arrives (spelled.lookup authorityName) authorityName a n₁
        ∧ Arrives (spelled.lookup targetApiRoot) targetApiRoot (forcePlainHttp a)
            (n₁ - (headerLine authorityName a).length))

/-- A name that is allowed changes nothing in whether all names are. -/
theorem forall_mem_read {Q : Str → Prop} {name v : Str} (hname : Q name) (skipped : Prop)
    [Decidable skipped] (acc : ParsedAad) :
    (∀ k ∈ (if skipped then acc else acc.addHeader name v).headers, Q k)
      ↔ ∀ k ∈ acc.headers, Q k := by
  split
  · rfl
  · constructor
    · intro h k hk
      exact h k ((AList.mem_insert _).mpr (Or.inr hk))
    · intro h k hk
      rcases (AList.mem_insert _).mp hk with rfl | hk
      · exact hname
      · exact h k hk

/-- The two headers of an authority behind a text. -/
theorem authorityLines_recovers_iff {a : Str} (ha : a ≠ []) (hlf : lf ∉ a) (n : ℕ)
    (acc : ParsedAad) :
    let t := (getlines lf ((authorityLines a).take n)).foldl aadHeaderLine acc
    (∀ k ∈ t.headers, k = authorityName ∨ k = targetApiRoot)
        ∧ t.headers.lookup authorityName = some a
        ∧ t.headers.lookup targetApiRoot = some (forcePlainHttp a)
      ↔ (∀ k ∈ acc.headers, k = authorityName ∨ k = targetApiRoot)
        ∧ Arrives (acc.headers.lookup authorityName) authorityName a n
        ∧ Arrives (acc.headers.lookup targetApiRoot) targetApiRoot (forcePlainHttp a)
            (n - (headerLine authorityName a).length) := by
  intro t
  let first := if n ≤ authorityName.length then acc
    else acc.addHeader authorityName (readValue authorityName a n)
  have ht : t = if n - (headerLine authorityName a).length ≤ targetApiRoot.length then first
      else first.addHeader targetApiRoot (readValue targetApiRoot (forcePlainHttp a)
        (n - (headerLine authorityName a).length)) := by
    simp only [t, first]
    rw [authorityLines, if_neg ha, getlines_headerLine_append_take, List.foldl_append,
      foldl_headerLine_take_read (by decide) (by decide) hlf,
      foldl_headerLine_take_read (by decide) (by decide) (lf_not_mem_forcePlainHttp hlf)]
  have hauthority : t.headers.lookup authorityName = first.headers.lookup authorityName := by
    rw [ht]
    exact lookup_read_ne (by decide) ..
  have htarget : first.headers.lookup targetApiRoot = acc.headers.lookup targetApiRoot :=
    lookup_read_ne (by decide) ..
  have hnames : (∀ k ∈ t.headers, k = authorityName ∨ k = targetApiRoot)
      ↔ ∀ k ∈ acc.headers, k = authorityName ∨ k = targetApiRoot := by
    rw [ht]
    exact (forall_mem_read (Or.inr rfl) ..).trans (forall_mem_read (Or.inl rfl) ..)
  rw [hnames, hauthority, arrives_iff ha, ht, arrives_iff (forcePlainHttp_ne_nil a), htarget]

/-- Of how much of an AAD the header map of a request is recovered. -/
theorem recoversHeaders_cut_iff {E : Platform} {σ : N32fForward} {rand : Option (Bytes 12)}
    {m p a body ctx : Str} {data : FlatJweJson}
    (h : buildReformattedData E σ rand m p a body ctx ∅ = some data) :
    RecoversHeaders E a data ↔ CutRecovers m p a (E.carried (aadRaw m p a ∅).length) := by
  unfold RecoversHeaders CutRecovers
  rw [decodedAad_of_build h]
  generalize E.carried (aadRaw m p a ∅).length = n
  rcases Nat.eq_zero_or_pos n with rfl | hn
  · refine iff_of_false ?_ fun h => absurd h.1 (Nat.lt_irrefl 0)
    rintro ⟨t, ht, -⟩
    rw [List.take_zero] at ht
    cases ht
  have hparsed := parseAad_take m p a hn
  have hclean := fun t (ht : parseAad ((aadRaw m p a ∅).take n) ∅ = some t) =>
    (parseAad_clean ht).2
  have hheaders := fun t (ht : parseAad ((aadRaw m p a ∅).take n) ∅ = some t) =>
    authorityFromHeaders_parseAad ht
  rw [hparsed] at hclean hheaders ⊢
  simp only [Option.some.injEq, exists_eq_left', forall_eq'] at hclean hheaders ⊢
  by_cases ha : a = []
  · subst ha
    simp only [authorityLines, if_true, List.take_nil, getlines, List.foldl_nil, ne_eq,
      not_true_eq_false, false_and, false_imp_iff, and_true, List.not_mem_nil, not_false_eq_true,
      true_and, hn] at hheaders ⊢
    constructor
    · rintro ⟨hnames, hauthority, htarget, -⟩ name hspells
      have hsome := isSome_lookup_startLines.mpr hspells
      rcases hnames name (mem_startLines.mpr hspells) with rfl | rfl
      · rw [hauthority] at hsome
        cases hsome
      · rw [htarget] at hsome
        cases hsome
    · intro hno
      have hnone : ∀ k, (startLines ((startLine m p).take n)).headers.lookup k = none :=
        fun k => Option.not_isSome_iff_eq_none.mp fun hk => hno k (isSome_lookup_startLines.mp hk)
      refine ⟨fun k hk => (hno k (mem_startLines.mp hk)).elim, hnone _, hnone _, fun cfg => ?_⟩
      rw [targetEndpoint_eq, hheaders, hnone, hnone]
      rfl
  · simp only [if_neg ha]
    constructor
    · rintro ⟨hnames, hauthority, htarget, -⟩
      have hlf : lf ∉ a := by rwa [hheaders, hauthority, Option.getD_some] at hclean
      obtain ⟨hspells, harrives⟩ :=
        (authorityLines_recovers_iff ha hlf _ _).mp ⟨hnames, hauthority, htarget⟩
      exact ⟨hn, hlf, fun name hname => ⟨ha, hspells name (mem_startLines.mpr hname)⟩,
        fun _ => harrives⟩
    · rintro ⟨-, hlf, hspells, harrives⟩
      obtain ⟨hnames, hauthority, htarget⟩ := (authorityLines_recovers_iff ha hlf _ _).mpr
        ⟨fun k hk => (hspells k (mem_startLines.mp hk)).2, harrives ha⟩
      refine ⟨hnames, hauthority, htarget, fun cfg => ?_⟩
      rw [targetEndpoint_eq, htarget]
      simp only [Option.getD_some, if_neg (forcePlainHttp_ne_nil a), forcePlainHttp_idem]

/-- Nothing is missing. -/
theorem cutRecovers_whole_iff (m p a : Str) :
    CutRecovers m p a (aadRaw m p a ∅).length ↔
      lf ∉ a ∧ ∀ name, Injects m p name →
        a ≠ [] ∧ (name = authorityName ∨ name = targetApiRoot) := by
  have htext : aadRaw m p a ∅ = startLine m p ++ authorityLines a := List.append_nil _
  have hstart := length_startLine m p
  have hlength : (aadRaw m p a ∅).length = (startLine m p).length + (authorityLines a).length := by
    rw [htext, List.length_append]
  unfold CutRecovers
  simp only [injects_iff, List.take_of_length_le (show (startLine m p).length
    ≤ (aadRaw m p a ∅).length by omega), show 0 < (aadRaw m p a ∅).length by omega, true_and]
  refine and_congr_right fun hlf => and_iff_left fun ha => ?_
  have hlines : (authorityLines a).length = (headerLine authorityName a).length
      + (headerLine targetApiRoot (forcePlainHttp a)).length := by
    rw [authorityLines, if_neg ha, List.length_append]
  have hauthority := length_headerLine authorityName a
  have htarget := length_headerLine targetApiRoot (forcePlainHttp a)
  unfold Arrives
  rw [if_neg (by omega), if_neg (by omega)]
  exact ⟨Or.inl (by omega), Or.inl (by omega)⟩

/-- Of an AAD that base64url carries whole, the header map of a request is
recovered just when the authority has no line feed and the method and path
bring no header of another name, and none at all without an authority. Of
less it is just when what is missing is not missed. -/
theorem recoversHeaders_iff {E : Platform} {σ : N32fForward} {rand : Option (Bytes 12)}
    {m p a body ctx : Str} {data : FlatJweJson}
    (h : buildReformattedData E σ rand m p a body ctx ∅ = some data) :
    (E.Carries (aadRaw m p a ∅) →
      (RecoversHeaders E a data ↔
        lf ∉ a ∧ ∀ name, Injects m p name →
          a ≠ [] ∧ (name = authorityName ∨ name = targetApiRoot)))
    ∧ (¬ E.Carries (aadRaw m p a ∅) →
      (RecoversHeaders E a data ↔ CutRecovers m p a (E.carried (aadRaw m p a ∅).length))) := by
  refine ⟨fun hcarries => ?_, fun _ => recoversHeaders_cut_iff h⟩
  rw [recoversHeaders_cut_iff h, show E.carried (aadRaw m p a ∅).length = _ from hcarries,
    cutRecovers_whole_iff]

theorem recoversHeaders_iff_plain :
    ∃ data, buildReformattedData Reference.platform {} none (ascii "GET") (ascii "/x")
        (ascii "udm:80") [] (ascii "ctx") ∅ = some data
      ∧ RecoversHeaders Reference.platform (ascii "udm:80") data := by
  have hbuilt : buildReformattedData Reference.platform {} none (ascii "GET") (ascii "/x")
      (ascii "udm:80") [] (ascii "ctx") ∅ = some _ := rfl
  refine ⟨_, hbuilt, ((recoversHeaders_iff hbuilt).1 (carries_of_le (by decide))).mpr
    ⟨by decide, fun name hinj => ?_⟩⟩
  have hlf : lf ∈ ascii "GET" ++ space :: ascii "/x" :=
    hinj.2.2.subset (List.mem_cons_self ..)
  exact absurd hlf (by decide)

/-- A path with a header line in it. -/
def injectingPath : Str := ascii "/x" ++ crlf ++ ascii "x-evil: 1"

/-- The header of the path is among those the peer recovers. -/
theorem not_recoversHeaders_injecting :
    ∃ data, buildReformattedData Reference.platform {} none (ascii "GET") injectingPath
        (ascii "udm:80") [] (ascii "ctx") ∅ = some data
      ∧ ¬ RecoversHeaders Reference.platform (ascii "udm:80") data := by
  refine ⟨_, rfl, ?_⟩
  rintro ⟨t, ht, hnames, -⟩
  rw [base64urlDecode_encode] at ht
  have hmem : ascii "x-evil" ∈ t.headers := by
    obtain rfl := Option.some.inj ht
    decide
  rcases hnames _ hmem with h | h <;> exact absurd h (by decide)

end Sepp
