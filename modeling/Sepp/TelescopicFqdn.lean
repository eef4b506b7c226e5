import Sepp.Decimal
import Sepp.Json
import Sepp.Models
import Sepp.TextSearch

/-!
# Telescopic FQDN mapping

`sepp_telescopic_fqdn_mapping.cpp`: the host name of a network function in
a roaming partner's network is flattened to one label, and a label is
resolved to a host name again. Both directions are allowed for a fixed set
of NF types and for the configured partners only.

The `TelescopicMapping` a caller passes is an argument; what is returned is
that mapping with the fields set, or `none` where the source returns false
(it has set nothing then). `substr` throws past the end of a text, so that
a function says whether it can.
-/

namespace Sepp

/-- A PLMN of the roaming configuration. -/
structure RoamingPartner where
  mcc : Str
  mnc : Str
  mcc_length : mcc.length = 3
  mcc_digits : ∀ c ∈ mcc, Decimal.isDigit c = true
  mnc_length : mnc.length = 2 ∨ mnc.length = 3
  mnc_digits : ∀ c ∈ mnc, Decimal.isDigit c = true

structure TelescopicMapping where
  telescopicLabel : Str := []
  foreignFqdn : Str := []
  seppDomain : Str := []

/-- `m_sepp_domain`. -/
def seppDomainName : Str := ascii "sepp.5gc.mnc001.mcc001.3gppnetwork.org"

/-- `m_allowed_nfs`. -/
def allowedNfs : List Str :=
  [ascii "nrf", ascii "ausf", ascii "smf", ascii "amf", ascii "udm", ascii "pcf", ascii "nssf"]

def isAllowedNf (nfType : Str) : Bool := allowedNfs.any fun nf => decide (nf = nfType)

/-! ## Text positions -/

/-- `substr(pos, n)`. -/
def substr (s : Str) (pos n : Nat) : Except Exn Str :=
  if s.length < pos then .error (ascii "basic_string::substr") else .ok ((s.drop pos).take n)

/-- `substr(pos)`. -/
def substrFrom (s : Str) (pos : Nat) : Except Exn Str :=
  if s.length < pos then .error (ascii "basic_string::substr") else .ok (s.drop pos)

/-- The difference of two `size_t`. -/
def sizeSub (a b : Nat) : Nat := if b ≤ a then a - b else 18446744073709551616 + a - b

/-! ## Partners -/

/-- An MNC of two digits with a zero in front. -/
def padMnc (mnc : Str) : Str := if mnc.length = 2 then ascii "0" ++ mnc else mnc

def isRoamingPartner (partners : List RoamingPartner) (plmnId : Str) : Bool :=
  partners.any fun partner =>
    decide (partner.mcc ++ partner.mnc = plmnId)
      || decide (partner.mcc ++ padMnc partner.mnc = plmnId)

/-! ## From a host name to a label -/

def mccPrefix : Str := ascii ".mcc"

def mccSuffix : Str := ascii ".3gppnetwork.org"

/-- The NF type and the PLMN id of a host name. The three characters before
the MNC are skipped, whatever they are. -/
def parseFqdn (fqdn : Str) : Except Exn (Option (Str × Str)) :=
  match TextSearch.find (ascii ".5gc.") fqdn with
  | none => .ok none
  | some pos => do
      let nfType ← substr fqdn 0 pos
      let remaining ← substrFrom fqdn (pos + 5)
      match TextSearch.find mccPrefix remaining with
      | none => return none
      | some mccPos =>
          let mnc ← substr remaining 3 (sizeSub mccPos 3)
          let mccStart ← substrFrom remaining (mccPos + mccPrefix.length)
          if mccStart.length ≤ mccSuffix.length
              ∨ mccStart.drop (mccStart.length - mccSuffix.length) ≠ mccSuffix then
            return none
          else
            let mcc ← substr mccStart 0 (mccStart.length - mccSuffix.length)
            return some (nfType, mcc ++ mnc)

def generateTelescopicLabel (nfType plmnId : Str) : Str := nfType ++ ascii "plmn" ++ plmnId

def fqdnToMapping (partners : List RoamingPartner) (foreignFqdn : Str)
    (mapping : TelescopicMapping) : Except Exn (Option TelescopicMapping) := do
  match ← parseFqdn foreignFqdn with
  | none => return none
  | some (nfType, plmnId) =>
      if !isAllowedNf nfType then return none
      else if !isRoamingPartner partners plmnId then return none
      else
        return some { mapping with
          telescopicLabel := generateTelescopicLabel nfType plmnId
          seppDomain := seppDomainName }

/-! ## From a label to a host name -/

/-- The host name of an NF in a PLMN. -/
def foreignFqdnOf (nfType mnc mcc : Str) : Str :=
  nfType ++ ascii ".5gc.mnc" ++ mnc ++ mccPrefix ++ mcc ++ mccSuffix

def mappingToFqdn (partners : List RoamingPartner) (telescopicLabel : Str)
    (mapping : TelescopicMapping) : Except Exn (Option TelescopicMapping) :=
  match TextSearch.find (ascii "plmn") telescopicLabel with
  | none => .ok none
  | some pos => do
      let nfType ← substr telescopicLabel 0 pos
      let plmnId ← substrFrom telescopicLabel (pos + 4)
      if isAllowedNf nfType && isRoamingPartner partners plmnId then
        let mcc ← substr plmnId 0 3
        let mnc ← substrFrom plmnId 3
        return some { mapping with
          foreignFqdn := foreignFqdnOf nfType (padMnc mnc) mcc
          telescopicLabel
          seppDomain := seppDomainName }
      else return none

/-! ## Queries -/

/-- `get_telescopic_mapping` on a model: exactly one of the two arguments
must be there. -/
def getTelescopicMapping (partners : List RoamingPartner) (foreignFqdn telescopicLabel : Str)
    (mapping : TelescopicMapping) : Except Exn (Option TelescopicMapping) :=
  if foreignFqdn ≠ [] ∧ telescopicLabel = [] then
    fqdnToMapping partners foreignFqdn mapping
  else if foreignFqdn = [] ∧ telescopicLabel ≠ [] then
    mappingToFqdn partners telescopicLabel mapping
  else .ok none

/-! ## Facts about texts and partners -/

theorem substr_append (s rest : Str) : substr (s ++ rest) 0 s.length = .ok s := by
  simp [substr]

/-- What follows a marker that starts at the end of `s`. -/
theorem substrFrom_marker (s marker rest : Str) :
    substrFrom (s ++ (marker ++ rest)) (s.length + marker.length) = .ok rest := by
  rw [← List.append_assoc, ← List.length_append]
  simp [substrFrom]

theorem isRoamingPartner_iff {partners : List RoamingPartner} {plmnId : Str} :
    isRoamingPartner partners plmnId = true ↔
      ∃ partner ∈ partners, partner.mcc ++ partner.mnc = plmnId
        ∨ partner.mcc ++ padMnc partner.mnc = plmnId := by
  simp [isRoamingPartner]

/-- With the MCC cut off where it ends, the digits name a partner. -/
theorem isRoamingPartner_append_iff {partners : List RoamingPartner} {mcc mnc : Str}
    (hmcc : mcc.length = 3) :
    isRoamingPartner partners (mcc ++ mnc) = true ↔
      ∃ partner ∈ partners, partner.mcc = mcc ∧ (partner.mnc = mnc ∨ padMnc partner.mnc = mnc) := by
  rw [isRoamingPartner_iff]
  refine exists_congr fun partner => and_congr_right fun _ => ?_
  have hlength : partner.mcc.length = mcc.length := partner.mcc_length.trans hmcc.symm
  have hsplit : ∀ s, partner.mcc ++ s = mcc ++ mnc ↔ partner.mcc = mcc ∧ s = mnc :=
    fun s => ⟨fun h => List.append_inj h hlength, fun h => by rw [h.1, h.2]⟩
  rw [hsplit, hsplit, and_or_left]

theorem padMnc_digits {mnc : Str} (h : ∀ c ∈ mnc, Decimal.isDigit c = true) :
    ∀ c ∈ padMnc mnc, Decimal.isDigit c = true := by
  intro c hc
  unfold padMnc at hc
  split at hc
  · rcases List.mem_append.mp hc with hzero | hc
    · obtain rfl := List.mem_singleton.mp hzero
      rfl
    · exact h c hc
  · exact h c hc

theorem padMnc_length {mnc : Str} (h : mnc.length = 2 ∨ mnc.length = 3) :
    (padMnc mnc).length = 3 := by
  unfold padMnc
  split
  · rename_i h2
    simp [h2, ascii]
  · rename_i h2
    exact h.resolve_left h2

/-- Padding is done once. -/
theorem padMnc_padMnc (mnc : Str) : padMnc (padMnc mnc) = padMnc mnc := by
  by_cases h : mnc.length = 2
  · have hpadded := padMnc_length (Or.inl h)
    rw [padMnc, if_neg (by omega)]
  · rw [show padMnc mnc = mnc from if_neg h, show padMnc mnc = mnc from if_neg h]

theorem digits_of_isRoamingPartner {partners : List RoamingPartner} {plmnId : Str}
    (h : isRoamingPartner partners plmnId = true) :
    ∀ c ∈ plmnId, Decimal.isDigit c = true := by
  obtain ⟨partner, -, rfl | rfl⟩ := isRoamingPartner_iff.mp h
  · exact List.forall_mem_append.mpr ⟨partner.mcc_digits, partner.mnc_digits⟩
  · exact List.forall_mem_append.mpr ⟨partner.mcc_digits, padMnc_digits partner.mnc_digits⟩

theorem length_of_isRoamingPartner {partners : List RoamingPartner} {plmnId : Str}
    (h : isRoamingPartner partners plmnId = true) : 3 ≤ plmnId.length := by
  obtain ⟨partner, -, rfl | rfl⟩ := isRoamingPartner_iff.mp h
  · rw [List.length_append, partner.mcc_length]
    omega
  · rw [List.length_append, partner.mcc_length]
    omega

theorem isAllowedNf_iff {nfType : Str} : isAllowedNf nfType = true ↔ nfType ∈ allowedNfs := by
  simp [isAllowedNf]

/-- An allowed NF type has no dot, and no `plmn` in it. -/
theorem of_mem_allowedNfs {nf : Str} (h : nf ∈ allowedNfs) :
    46 ∉ nf ∧ ¬ ascii "plmn" <:+: nf := by
  have hall : (allowedNfs.all fun nf =>
      decide (46 ∉ nf) && decide (¬ ascii "plmn" <:+: nf)) = true := by decide
  simpa using List.all_eq_true.mp hall nf h

/-! ## What is read of a host name -/

/-- The text between `.5gc.` and `.mcc` without its first three characters;
where it is shorter the length wraps around, and the text runs on. -/
def mncText (x y : Str) : Str := ((x ++ (mccPrefix ++ y)).drop 3).take (sizeSub x.length 3)

theorem mncText_of_le {t m : Str} (ht : t.length = 3) (y : Str) : mncText (t ++ m) y = m := by
  have hsize : sizeSub (t ++ m).length 3 = m.length := by
    rw [sizeSub, List.length_append, ht, if_pos (by omega)]
    omega
  rw [mncText, hsize, List.append_assoc, ← ht, List.drop_left, List.take_left]

/-- What runs on begins inside `.mcc`, and so with no digit. -/
theorem mncText_of_lt {x : Str} (hx : x.length < 3) (y : Str) :
    ∃ c ∈ mncText x y, Decimal.isDigit c = false := by
  have hsize : 0 < sizeSub x.length 3 := by
    unfold sizeSub
    split
    · omega
    · omega
  have hletters : mccPrefix = [46, 109, 99, 99] := rfl
  unfold mncText
  obtain ⟨n, hn⟩ := Nat.exists_eq_succ_of_ne_zero hsize.ne'
  rw [hn, hletters]
  match x, hx with
  | [], _ => exact ⟨99, List.mem_cons_self .., rfl⟩
  | [_], _ => exact ⟨99, List.mem_cons_self .., rfl⟩
  | [_, _], _ => exact ⟨109, List.mem_cons_self .., rfl⟩

/-- The test of the source for a suffix after something. -/
theorem mccStart_iff (y : Str) :
    ¬ (y.length ≤ mccSuffix.length ∨ y.drop (y.length - mccSuffix.length) ≠ mccSuffix)
      ↔ ∃ c, c ≠ [] ∧ y = c ++ mccSuffix := by
  constructor
  · intro h
    obtain ⟨hlength, hsuffix⟩ := not_or.mp h
    refine ⟨y.take (y.length - mccSuffix.length), fun hnil => ?_, ?_⟩
    · rcases List.take_eq_nil_iff.mp hnil with hzero | rfl
      · omega
      · simp at hlength
    · calc y = y.take (y.length - mccSuffix.length) ++ y.drop (y.length - mccSuffix.length) :=
            (List.take_append_drop ..).symm
        _ = y.take (y.length - mccSuffix.length) ++ mccSuffix := by rw [not_not.mp hsuffix]
  · rintro ⟨c, hc, rfl⟩
    have hpos := List.length_pos_iff.mpr hc
    rintro (hlength | hsuffix)
    · rw [List.length_append] at hlength
      omega
    · refine hsuffix ?_
      rw [List.length_append, Nat.add_sub_cancel, List.drop_left]

/-- No marker begins in the three characters before the digits. -/
theorem mccPrefix_not_within {t m : Str} (ht : t.length = 3)
    (hm : ∀ d ∈ m, Decimal.isDigit d = true) : ¬ mccPrefix <:+: t ++ m := by
  rintro ⟨pre, post, h⟩
  have hletters : mccPrefix = ascii ".mc" ++ [99] := rfl
  have hlast : 99 ∈ m := by
    have hsplit : t ++ m = (pre ++ ascii ".mc") ++ (99 :: post) := by
      rw [← h, hletters]
      simp only [List.append_assoc, List.singleton_append]
    rcases List.append_eq_append_iff.mp hsplit with ⟨mid, -, rfl⟩ | ⟨mid, rfl, hmid⟩
    · exact List.mem_append_right mid (List.mem_cons_self ..)
    · have hmc : (ascii ".mc").length = 3 := rfl
      rw [List.length_append, List.length_append, hmc] at ht
      obtain rfl : mid = [] := List.eq_nil_of_length_eq_zero (by omega)
      rw [List.nil_append] at hmid
      exact hmid ▸ List.mem_cons_self ..
  exact Bool.false_ne_true (hm 99 hlast)

theorem find_mccPrefix {t m : Str} (ht : t.length = 3)
    (hm : ∀ d ∈ m, Decimal.isDigit d = true) (y : Str) :
    TextSearch.find mccPrefix (t ++ m ++ (mccPrefix ++ y)) = some (t ++ m).length :=
  TextSearch.find_append (by decide) (mccPrefix_not_within ht hm) y

section Reading

variable {nf x y : Str}

/-- The parser once both markers are found. -/
theorem parseFqdn_of_find
    (hnf : TextSearch.find (ascii ".5gc.") (nf ++ (ascii ".5gc." ++ (x ++ (mccPrefix ++ y))))
      = some nf.length)
    (hx : TextSearch.find mccPrefix (x ++ (mccPrefix ++ y)) = some x.length) :
    parseFqdn (nf ++ (ascii ".5gc." ++ (x ++ (mccPrefix ++ y)))) =
      if y.length ≤ mccSuffix.length ∨ y.drop (y.length - mccSuffix.length) ≠ mccSuffix then
        .ok none
      else .ok (some (nf, y.take (y.length - mccSuffix.length) ++ mncText x y)) := by
  have hremaining : substrFrom (nf ++ (ascii ".5gc." ++ (x ++ (mccPrefix ++ y))))
      (nf.length + 5) = .ok (x ++ (mccPrefix ++ y)) :=
    substrFrom_marker nf (ascii ".5gc.") (x ++ (mccPrefix ++ y))
  have hmnc : substr (x ++ (mccPrefix ++ y)) 3 (sizeSub x.length 3) = .ok (mncText x y) := by
    refine if_neg ?_
    simp [mccPrefix, ascii]
    omega
  have hmcc : substr y 0 (y.length - mccSuffix.length)
      = .ok (y.take (y.length - mccSuffix.length)) := by
    simp [substr]
  simp only [parseFqdn, hnf, substr_append, hremaining, hx, hmnc,
    substrFrom_marker, hmcc, bind,
    Except.bind, pure, Except.pure]

/-- The parser throws on no text. What it reads ends with the MCC and its
suffix. -/
theorem parseFqdn_cases (fqdn : Str) :
    parseFqdn fqdn = .ok none ∨
      ∃ nf x c, fqdn = nf ++ (ascii ".5gc." ++ (x ++ (mccPrefix ++ (c ++ mccSuffix))))
        ∧ c ≠ [] ∧ parseFqdn fqdn = .ok (some (nf, c ++ mncText x (c ++ mccSuffix))) := by
  cases hfind : TextSearch.find (ascii ".5gc.") fqdn with
  | none => exact Or.inl (by simp only [parseFqdn, hfind])
  | some pos =>
      obtain ⟨nf, rest, rfl, rfl⟩ := TextSearch.eq_append_of_find hfind
      cases hmcc : TextSearch.find mccPrefix rest with
      | none =>
          have hremaining : substrFrom (nf ++ (ascii ".5gc." ++ rest)) (nf.length + 5) = .ok rest :=
            substrFrom_marker nf (ascii ".5gc.") rest
          refine Or.inl ?_
          simp only [parseFqdn, hfind, substr_append, hremaining, hmcc, bind, Except.bind, pure,
            Except.pure]
      | some mccPos =>
          obtain ⟨x, y, rfl, rfl⟩ := TextSearch.eq_append_of_find hmcc
          rw [parseFqdn_of_find hfind hmcc]
          split
          · exact Or.inl rfl
          · rename_i hgood
            obtain ⟨c, hc, rfl⟩ := (mccStart_iff y).mp hgood
            refine Or.inr ⟨nf, x, c, rfl, hc, ?_⟩
            rw [List.length_append, Nat.add_sub_cancel, List.take_left]

/-- A host name of an allowed NF, with digits for the MNC, is read as it was
written; the three characters before the MNC are not. -/
theorem parseFqdn_eq {t m c : Str} (hnf : nf ∈ allowedNfs) (ht : t.length = 3)
    (hm : ∀ d ∈ m, Decimal.isDigit d = true) (hc : c ≠ []) :
    parseFqdn (nf ++ (ascii ".5gc." ++ (t ++ m ++ (mccPrefix ++ (c ++ mccSuffix)))))
      = .ok (some (nf, c ++ m)) := by
  have hfind : TextSearch.find (ascii ".5gc.")
      (nf ++ (ascii ".5gc." ++ (t ++ m ++ (mccPrefix ++ (c ++ mccSuffix))))) = some nf.length :=
    TextSearch.find_append_of_not_mem (of_mem_allowedNfs hnf).1 _
  rw [parseFqdn_of_find hfind (find_mccPrefix ht hm _), if_neg ((mccStart_iff _).mpr ⟨c, hc, rfl⟩),
    mncText_of_le ht, List.length_append, Nat.add_sub_cancel, List.take_left]

end Reading

/-! ## What the operations return -/

/-- The parts a host name is read in: `t` is skipped, then MNC and MCC. -/
def ReadAs (fqdn nf t m c : Str) : Prop :=
  fqdn = nf ++ (ascii ".5gc." ++ (t ++ m ++ (mccPrefix ++ (c ++ mccSuffix))))
    ∧ t.length = 3 ∧ c ≠ []

section Operations

variable {partners : List RoamingPartner} {mapping : TelescopicMapping}

theorem parseFqdn_of_readAs {fqdn nf t m c : Str} (h : ReadAs fqdn nf t m c)
    (hnf : nf ∈ allowedNfs) (hid : isRoamingPartner partners (c ++ m) = true) :
    parseFqdn fqdn = .ok (some (nf, c ++ m)) := by
  obtain ⟨rfl, ht, hc⟩ := h
  have hdigits := digits_of_isRoamingPartner hid
  exact parseFqdn_eq hnf ht (fun d hd => hdigits d (List.mem_append_right c hd)) hc

/-- The digits of a partner and an allowed NF are only read in one way. -/
theorem readAs_unique {fqdn nf t m c nf' t' m' c' : Str} (h : ReadAs fqdn nf t m c)
    (h' : ReadAs fqdn nf' t' m' c') (hnf : nf ∈ allowedNfs) (hnf' : nf' ∈ allowedNfs)
    (hid : isRoamingPartner partners (c ++ m) = true)
    (hid' : isRoamingPartner partners (c' ++ m') = true) :
    nf = nf' ∧ t = t' ∧ m = m' ∧ c = c' := by
  have hparse := (parseFqdn_of_readAs h hnf hid).symm.trans (parseFqdn_of_readAs h' hnf' hid')
  obtain ⟨rfl, hsame⟩ := Prod.mk.inj (Option.some.inj (Except.ok.inj hparse))
  obtain ⟨rfl, ht, -⟩ := h
  obtain ⟨hsplit, ht', -⟩ := h'
  have htail := List.append_cancel_left (List.append_cancel_left hsplit)
  have hm := digits_of_isRoamingPartner hid
  have hm' := digits_of_isRoamingPartner hid'
  have hfind := find_mccPrefix ht (fun d hd => hm d (List.mem_append_right c hd))
    (c ++ mccSuffix)
  have hfind' := find_mccPrefix ht' (fun d hd => hm' d (List.mem_append_right c' hd))
    (c' ++ mccSuffix)
  have hlength : (t ++ m).length = (t' ++ m').length :=
    Option.some.inj (hfind.symm.trans
      ((congrArg (TextSearch.find mccPrefix) htail).trans hfind'))
  obtain ⟨hhead, hmcc⟩ := List.append_inj htail hlength
  obtain ⟨rfl, rfl⟩ := List.append_inj hhead (ht.trans ht'.symm)
  exact ⟨rfl, rfl, rfl, List.append_cancel_right (List.append_cancel_left hmcc)⟩

theorem fqdnToMapping_of_parse {fqdn nf id : Str} (h : parseFqdn fqdn = .ok (some (nf, id))) :
    fqdnToMapping partners fqdn mapping =
      if nf ∈ allowedNfs ∧ isRoamingPartner partners id = true then
        .ok (some { mapping with
          telescopicLabel := generateTelescopicLabel nf id
          seppDomain := seppDomainName })
      else .ok none := by
  simp only [fqdnToMapping, h, bind, Except.bind, pure, Except.pure, ← isAllowedNf_iff]
  cases isAllowedNf nf with
  | false => rfl
  | true => cases isRoamingPartner partners id <;> rfl

theorem fqdnToMapping_iff {fqdn : Str} {r : TelescopicMapping} :
    fqdnToMapping partners fqdn mapping = .ok (some r) ↔
      ∃ nf t m c, ReadAs fqdn nf t m c ∧ nf ∈ allowedNfs
        ∧ isRoamingPartner partners (c ++ m) = true
        ∧ r = { mapping with
            telescopicLabel := generateTelescopicLabel nf (c ++ m)
            seppDomain := seppDomainName } := by
  constructor
  · intro h
    rcases parseFqdn_cases fqdn with hparse | ⟨nf, x, c, hfqdn, hc, hparse⟩
    · simp only [fqdnToMapping, hparse, bind, Except.bind, pure, Except.pure] at h
      cases h
    · rw [fqdnToMapping_of_parse hparse] at h
      split at h
      · rename_i hallowed
        obtain ⟨hnf, hid⟩ := hallowed
        have hx : ¬ x.length < 3 := fun hlt => by
          obtain ⟨d, hd, hletter⟩ := mncText_of_lt hlt (c ++ mccSuffix)
          have hdigit := digits_of_isRoamingPartner hid d (List.mem_append_right c hd)
          exact Bool.false_ne_true (hletter.symm.trans hdigit)
        have ht : (x.take 3).length = 3 := by
          rw [List.length_take]
          omega
        have hm := mncText_of_le (m := x.drop 3) ht (c ++ mccSuffix)
        rw [List.take_append_drop] at hm
        rw [hm] at h hid
        refine ⟨nf, x.take 3, x.drop 3, c, ⟨?_, ht, hc⟩, hnf, hid,
          (Option.some.inj (Except.ok.inj h)).symm⟩
        rw [List.take_append_drop]
        exact hfqdn
      · cases h
  · rintro ⟨nf, t, m, c, hread, hnf, hid, rfl⟩
    rw [fqdnToMapping_of_parse (parseFqdn_of_readAs hread hnf hid), if_pos ⟨hnf, hid⟩]

/-- Neither direction throws. -/
theorem fqdnToMapping_ok (fqdn : Str) : ∃ r, fqdnToMapping partners fqdn mapping = .ok r := by
  rcases parseFqdn_cases fqdn with hparse | ⟨nf, x, c, -, -, hparse⟩
  · refine ⟨none, ?_⟩
    simp only [fqdnToMapping, hparse, bind, Except.bind, pure, Except.pure]
  · rw [fqdnToMapping_of_parse hparse]
    split
    · exact ⟨_, rfl⟩
    · exact ⟨_, rfl⟩

/-- The parts of a label that is resolved. -/
def LabelOf (partners : List RoamingPartner) (label nf c m : Str) : Prop :=
  label = generateTelescopicLabel nf (c ++ m) ∧ nf ∈ allowedNfs ∧ c.length = 3
    ∧ isRoamingPartner partners (c ++ m) = true

/-- The second `substr(3)` does not throw: a partner's digits are at least
three. -/
theorem mappingToFqdn_of_find {nf id : Str}
    (h : TextSearch.find (ascii "plmn") (nf ++ (ascii "plmn" ++ id)) = some nf.length) :
    mappingToFqdn partners (nf ++ (ascii "plmn" ++ id)) mapping =
      if nf ∈ allowedNfs ∧ isRoamingPartner partners id = true then
        .ok (some { mapping with
          foreignFqdn := foreignFqdnOf nf (padMnc (id.drop 3)) (id.take 3)
          telescopicLabel := nf ++ (ascii "plmn" ++ id)
          seppDomain := seppDomainName })
      else .ok none := by
  have hid : substrFrom (nf ++ (ascii "plmn" ++ id)) (nf.length + 4) = .ok id :=
    substrFrom_marker nf (ascii "plmn") id
  simp only [mappingToFqdn, h, substr_append, hid, bind, Except.bind, pure, Except.pure,
    Bool.and_eq_true, isAllowedNf_iff]
  split
  · rename_i hallowed
    have hlength := length_of_isRoamingPartner hallowed.2
    have hmcc : substr id 0 3 = .ok (id.take 3) := by
      simp [substr]
    have hmnc : substrFrom id 3 = .ok (id.drop 3) := if_neg (by omega)
    simp only [hmcc, hmnc]
  · rfl

theorem mappingToFqdn_iff {label : Str} {r : TelescopicMapping} :
    mappingToFqdn partners label mapping = .ok (some r) ↔
      ∃ nf c m, LabelOf partners label nf c m
        ∧ r = { mapping with
            foreignFqdn := foreignFqdnOf nf (padMnc m) c
            telescopicLabel := label
            seppDomain := seppDomainName } := by
  constructor
  · intro h
    cases hfind : TextSearch.find (ascii "plmn") label with
    | none =>
        simp only [mappingToFqdn, hfind] at h
        cases h
    | some pos =>
        obtain ⟨nf, id, rfl, rfl⟩ := TextSearch.eq_append_of_find hfind
        rw [mappingToFqdn_of_find hfind] at h
        split at h
        · rename_i hallowed
          obtain ⟨hnf, hid⟩ := hallowed
          have hlength := length_of_isRoamingPartner hid
          have hc : (id.take 3).length = 3 := by
            rw [List.length_take]
            omega
          have hsplit := List.take_append_drop 3 id
          refine ⟨nf, id.take 3, id.drop 3, ⟨?_, hnf, hc, ?_⟩,
            (Option.some.inj (Except.ok.inj h)).symm⟩
          · rw [hsplit, generateTelescopicLabel, List.append_assoc]
          · rw [hsplit]
            exact hid
        · cases h
  · rintro ⟨nf, c, m, ⟨rfl, hnf, hc, hid⟩, rfl⟩
    have hfind : TextSearch.find (ascii "plmn") (nf ++ (ascii "plmn" ++ (c ++ m)))
        = some nf.length :=
      TextSearch.find_append (by decide) (of_mem_allowedNfs hnf).2 (c ++ m)
    have hlabel : generateTelescopicLabel nf (c ++ m) = nf ++ (ascii "plmn" ++ (c ++ m)) :=
      List.append_assoc ..
    rw [hlabel, mappingToFqdn_of_find hfind, if_pos ⟨hnf, hid⟩, ← hc, List.take_left,
      List.drop_left]

theorem mappingToFqdn_ok (label : Str) : ∃ r, mappingToFqdn partners label mapping = .ok r := by
  cases hfind : TextSearch.find (ascii "plmn") label with
  | none => exact ⟨none, by simp only [mappingToFqdn, hfind]⟩
  | some pos =>
      obtain ⟨nf, id, rfl, rfl⟩ := TextSearch.eq_append_of_find hfind
      rw [mappingToFqdn_of_find hfind]
      split
      · exact ⟨_, rfl⟩
      · exact ⟨_, rfl⟩

end Operations

end Sepp
