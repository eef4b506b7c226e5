import Sepp.TelescopicFqdn

/-!
# Which names are flattened, and what they resolve to

The two directions of the telescopic mapping against the grammar of 3GPP
host names, for any list of partners:

- `accepts_exactly_iff`: the parser takes the grammar's names and, besides,
  those of `Misread`;
- `resolves_canonical`: a flattened name of the grammar resolves to itself
  with the MNC padded to three digits;
- `label_canonical`: what a label resolves to is in that form, is flattened
  and resolved to itself, and tells labels apart up to the padding.
-/

namespace Sepp

/-- A host name of the grammar: an allowed NF in the network of a partner. -/
def Denotes (partners : List RoamingPartner) (fqdn nf mnc mcc : Str) : Prop :=
  fqdn = foreignFqdnOf nf mnc mcc ∧ nf ∈ allowedNfs
    ∧ ∃ partner ∈ partners, partner.mcc = mcc ∧ (partner.mnc = mnc ∨ padMnc partner.mnc = mnc)

section Facts

variable {partners : List RoamingPartner}

/-- A host name is read as it was written. -/
theorem readAs_foreignFqdnOf {nf mnc mcc : Str} (hmcc : mcc ≠ []) :
    ReadAs (foreignFqdnOf nf mnc mcc) nf (ascii "mnc") mnc mcc := by
  have hmark : ascii ".5gc.mnc" = ascii ".5gc." ++ ascii "mnc" := rfl
  refine ⟨?_, rfl, hmcc⟩
  rw [foreignFqdnOf, hmark]
  simp only [List.append_assoc]

theorem ne_nil_of_length {c : Str} (h : c.length = 3) : c ≠ [] := by
  rintro rfl
  cases h

/-- The MNC of the partner the digits name, with either spelling of it. -/
theorem padMnc_of_isRoamingPartner {c m : Str} (hc : c.length = 3)
    (hid : isRoamingPartner partners (c ++ m) = true) :
    ∃ partner ∈ partners, partner.mcc = c ∧ padMnc partner.mnc = padMnc m := by
  obtain ⟨partner, hpartner, hmcc, hmnc | hmnc⟩ := (isRoamingPartner_append_iff hc).mp hid
  · exact ⟨partner, hpartner, hmcc, by rw [hmnc]⟩
  · exact ⟨partner, hpartner, hmcc, by rw [← hmnc, padMnc_padMnc]⟩

/-- The padded spelling names the same partner. -/
theorem isRoamingPartner_padMnc {c m : Str} (hc : c.length = 3)
    (hid : isRoamingPartner partners (c ++ m) = true) :
    isRoamingPartner partners (c ++ padMnc m) = true := by
  obtain ⟨partner, hpartner, hmcc, hmnc⟩ := padMnc_of_isRoamingPartner hc hid
  exact (isRoamingPartner_append_iff hc).mpr ⟨partner, hpartner, hmcc, Or.inr hmnc⟩

theorem mnc_length_of_isRoamingPartner {c m : Str} (hc : c.length = 3)
    (hid : isRoamingPartner partners (c ++ m) = true) : m.length = 2 ∨ m.length = 3 := by
  obtain ⟨partner, -, -, rfl | rfl⟩ := (isRoamingPartner_append_iff hc).mp hid
  · exact partner.mnc_length
  · exact Or.inr (padMnc_length partner.mnc_length)

end Facts

/-! ## The grammar -/

/-- The mapping of a host name succeeds just for the names of the grammar,
with the label of its parts, and it never throws. -/
def AcceptsExactly (partners : List RoamingPartner) (fqdn : Str) : Prop :=
  (∃ r, fqdnToMapping partners fqdn {} = .ok r)
    ∧ ((∃ mapping, fqdnToMapping partners fqdn {} = .ok (some mapping))
        ↔ ∃ nf mnc mcc, Denotes partners fqdn nf mnc mcc)
    ∧ ∀ mapping nf mnc mcc, fqdnToMapping partners fqdn {} = .ok (some mapping) →
        Denotes partners fqdn nf mnc mcc →
        mapping.telescopicLabel = nf ++ ascii "plmn" ++ (mcc ++ mnc)

/-- A name with the digits of a partner, but with other characters where
`mnc` should stand, or cut into MCC and MNC at another place. -/
def Misread (partners : List RoamingPartner) (fqdn : Str) : Prop :=
  ∃ nf t m c, ReadAs fqdn nf t m c ∧ nf ∈ allowedNfs
    ∧ isRoamingPartner partners (c ++ m) = true ∧ (t ≠ ascii "mnc" ∨ c.length ≠ 3)

section Grammar

variable {partners : List RoamingPartner} {fqdn : Str}

theorem readAs_of_denotes {nf mnc mcc : Str} (h : Denotes partners fqdn nf mnc mcc) :
    ReadAs fqdn nf (ascii "mnc") mnc mcc ∧ mcc.length = 3
      ∧ isRoamingPartner partners (mcc ++ mnc) = true := by
  obtain ⟨rfl, -, partner, hpartner, rfl, hmnc⟩ := h
  have hmcc := partner.mcc_length
  exact ⟨readAs_foreignFqdnOf (ne_nil_of_length hmcc), hmcc,
    (isRoamingPartner_append_iff hmcc).mpr ⟨partner, hpartner, rfl, hmnc⟩⟩

theorem denotes_of_readAs {nf m c : Str} (h : ReadAs fqdn nf (ascii "mnc") m c)
    (hnf : nf ∈ allowedNfs) (hc : c.length = 3)
    (hid : isRoamingPartner partners (c ++ m) = true) : Denotes partners fqdn nf m c := by
  refine ⟨?_, hnf, (isRoamingPartner_append_iff hc).mp hid⟩
  have hmark : ascii ".5gc.mnc" = ascii ".5gc." ++ ascii "mnc" := rfl
  rw [h.1, foreignFqdnOf, hmark]
  simp only [List.append_assoc]

/-- The parser accepts exactly its grammar on the names it does not
misread. -/
theorem accepts_exactly_iff (partners : List RoamingPartner) (fqdn : Str) :
    AcceptsExactly partners fqdn ↔ ¬ Misread partners fqdn := by
  constructor
  · rintro ⟨-, haccept, -⟩ ⟨nf, t, m, c, hread, hnf, hid, hbad⟩
    obtain ⟨nf', mnc, mcc, hdenotes⟩ := haccept.mp
      ⟨_, fqdnToMapping_iff.mpr ⟨nf, t, m, c, hread, hnf, hid, rfl⟩⟩
    obtain ⟨hread', hmcc, hid'⟩ := readAs_of_denotes hdenotes
    obtain ⟨-, rfl, -, rfl⟩ := readAs_unique hread hread' hnf hdenotes.2.1 hid hid'
    rcases hbad with ht | hc
    · exact ht rfl
    · exact hc hmcc
  · intro hmisread
    refine ⟨fqdnToMapping_ok fqdn, ⟨?_, ?_⟩, ?_⟩
    · rintro ⟨mapping, hmapping⟩
      obtain ⟨nf, t, m, c, hread, hnf, hid, -⟩ := fqdnToMapping_iff.mp hmapping
      have hgood : t = ascii "mnc" ∧ c.length = 3 := by
        by_contra hbad
        exact hmisread ⟨nf, t, m, c, hread, hnf, hid, not_and_or.mp hbad⟩
      obtain ⟨rfl, hc⟩ := hgood
      exact ⟨nf, m, c, denotes_of_readAs hread hnf hc hid⟩
    · rintro ⟨nf, mnc, mcc, hdenotes⟩
      obtain ⟨hread, -, hid⟩ := readAs_of_denotes hdenotes
      exact ⟨_, fqdnToMapping_iff.mpr ⟨nf, _, mnc, mcc, hread, hdenotes.2.1, hid, rfl⟩⟩
    · intro mapping nf mnc mcc hmapping hdenotes
      obtain ⟨hread, -, hid⟩ := readAs_of_denotes hdenotes
      obtain ⟨nf', t, m, c, hread', hnf', hid', rfl⟩ := fqdnToMapping_iff.mp hmapping
      obtain ⟨rfl, -, rfl, rfl⟩ := readAs_unique hread hread' hdenotes.2.1 hnf' hid hid'
      rfl

end Grammar

/-! ### A partner with an MNC of two digits -/

/-- The PLMN 208/93. -/
def samplePartner : RoamingPartner where
  mcc := ascii "208"
  mnc := ascii "93"
  mcc_length := rfl
  mcc_digits := List.all_eq_true.mp rfl
  mnc_length := Or.inl rfl
  mnc_digits := List.all_eq_true.mp rfl

/-- `xyz` stands where the grammar has `mnc`. -/
theorem not_acceptsExactly_misplaced :
    ¬ AcceptsExactly [samplePartner] (ascii "amf.5gc.xyz093.mcc208.3gppnetwork.org") := by
  rintro ⟨-, haccept, -⟩
  have hread : ReadAs (ascii "amf.5gc.xyz093.mcc208.3gppnetwork.org") (ascii "amf")
      (ascii "xyz") (ascii "093") (ascii "208") := ⟨rfl, rfl, List.cons_ne_nil _ _⟩
  have hnf : ascii "amf" ∈ allowedNfs := by decide
  have hid : isRoamingPartner [samplePartner] (ascii "208" ++ ascii "093") = true := rfl
  obtain ⟨nf, mnc, mcc, hdenotes⟩ := haccept.mp
    ⟨_, fqdnToMapping_iff.mpr ⟨_, _, _, _, hread, hnf, hid, rfl⟩⟩
  obtain ⟨hread', -, hid'⟩ := readAs_of_denotes hdenotes
  have hmark := (readAs_unique hread hread' hnf hdenotes.2.1 hid hid').2.1
  revert hmark
  decide

/-! ## From a host name and back -/

section RoundTrip

variable {partners : List RoamingPartner}

/-- The digits of a partner after an allowed NF are a label. -/
theorem labelOf_generate {nf id : Str} (hnf : nf ∈ allowedNfs)
    (hid : isRoamingPartner partners id = true) :
    LabelOf partners (generateTelescopicLabel nf id) nf (id.take 3) (id.drop 3) := by
  have hlength := length_of_isRoamingPartner hid
  have hsplit := List.take_append_drop 3 id
  refine ⟨by rw [hsplit], hnf, ?_, ?_⟩
  · rw [List.length_take]
    omega
  · rw [hsplit]
    exact hid

/-- The name is as it was exactly when the MNC is already padded. -/
theorem foreignFqdnOf_padMnc_iff {nf mnc mcc : Str} (h : mnc.length = 2 ∨ mnc.length = 3) :
    foreignFqdnOf nf (padMnc mnc) mcc = foreignFqdnOf nf mnc mcc ↔ mnc.length = 3 := by
  constructor
  · intro hsame
    have hlength := congrArg List.length hsame
    have hpadded := padMnc_length h
    simp only [foreignFqdnOf, List.length_append, hpadded] at hlength
    omega
  · intro h3
    rw [padMnc, if_neg (by omega)]

/-- A flattened name is resolved, and one of the grammar resolves to itself
with the MNC padded to three digits. -/
theorem resolves_canonical {fqdn : Str} {mapping : TelescopicMapping}
    (h : fqdnToMapping partners fqdn {} = .ok (some mapping)) :
    ∃ back, mappingToFqdn partners mapping.telescopicLabel {} = .ok (some back)
      ∧ ∀ nf mnc mcc, Denotes partners fqdn nf mnc mcc →
          back.foreignFqdn = foreignFqdnOf nf (padMnc mnc) mcc
            ∧ (back.foreignFqdn = fqdn ↔ mnc.length = 3) := by
  obtain ⟨nf, t, m, c, hread, hnf, hid, rfl⟩ := fqdnToMapping_iff.mp h
  refine ⟨_, mappingToFqdn_iff.mpr ⟨nf, _, _, labelOf_generate hnf hid, rfl⟩, ?_⟩
  intro nf' mnc mcc hdenotes
  obtain ⟨hread', hmcc, hid'⟩ := readAs_of_denotes hdenotes
  obtain ⟨rfl, -, rfl, rfl⟩ := readAs_unique hread hread' hnf hdenotes.2.1 hid hid'
  have hlength := mnc_length_of_isRoamingPartner hmcc hid
  have hdigits : (c ++ m).take 3 = c ∧ (c ++ m).drop 3 = m := by
    rw [← hmcc]
    exact ⟨List.take_left, List.drop_left⟩
  rw [hdigits.1, hdigits.2]
  refine ⟨rfl, ?_⟩
  have hpad : foreignFqdnOf nf (padMnc m) c = foreignFqdnOf nf m c ↔ m.length = 3 :=
    foreignFqdnOf_padMnc_iff hlength
  rwa [← hdenotes.1] at hpad

/-- A label is cut at its one `plmn`: there is none in the NF type, and none
begins in the digits. -/
theorem label_unique {nf nf' id id' : Str} (hnf : nf ∈ allowedNfs)
    (hid : ∀ d ∈ id, Decimal.isDigit d = true)
    (h : generateTelescopicLabel nf id = generateTelescopicLabel nf' id') :
    nf = nf' ∧ id = id' := by
  have hsplit : nf ++ (ascii "plmn" ++ id) = nf' ++ (ascii "plmn" ++ id') := by
    simpa only [generateTelescopicLabel, List.append_assoc] using h
  rcases List.append_eq_append_iff.mp hsplit with ⟨mid, rfl, hmid⟩ | ⟨mid, rfl, -⟩
  · cases mid with
    | nil => exact ⟨(List.append_nil nf).symm, List.append_cancel_left hmid⟩
    | cons p mid =>
        obtain ⟨rfl, htail⟩ : 112 = p ∧ ascii "lmn" ++ id = mid ++ (ascii "plmn" ++ id') :=
          List.cons.inj hmid
        have hmem : 112 ∈ ascii "lmn" ++ id := by
          rw [htail]
          exact List.mem_append_right mid (List.mem_cons_self ..)
        rcases List.mem_append.mp hmem with hletter | hdigit
        · exact absurd hletter (by decide)
        · exact absurd (hid 112 hdigit) Bool.false_ne_true
  · cases mid with
    | nil =>
        rw [List.append_nil] at hsplit
        exact ⟨List.append_nil nf', List.append_cancel_left (List.append_cancel_left hsplit)⟩
    | cons d mid =>
        refine absurd (TextSearch.infix_of_append_eq (by decide) hsplit ?_)
          (of_mem_allowedNfs hnf).2
        rw [List.length_append, List.length_cons]
        omega

/-- The two labels name the same NF type and MCC, and the same MNC up to the
zero in front of two digits. -/
def SameUpToPadding (label label' : Str) : Prop :=
  ∃ nf mcc mnc mnc', label = generateTelescopicLabel nf (mcc ++ mnc)
    ∧ label' = generateTelescopicLabel nf (mcc ++ mnc')
    ∧ mcc.length = 3 ∧ padMnc mnc = padMnc mnc'

/-- Labels that resolve have the same host name exactly when they are the
same up to padding. -/
theorem foreignFqdnOf_eq_iff {label label' nf nf' c c' m m' : Str}
    (h : LabelOf partners label nf c m) (h' : LabelOf partners label' nf' c' m') :
    foreignFqdnOf nf' (padMnc m') c' = foreignFqdnOf nf (padMnc m) c
      ↔ SameUpToPadding label label' := by
  obtain ⟨rfl, hnf, hc, hid⟩ := h
  obtain ⟨rfl, hnf', hc', hid'⟩ := h'
  constructor
  · intro hsame
    have hread : ReadAs (foreignFqdnOf nf (padMnc m) c) nf (ascii "mnc") (padMnc m) c :=
      readAs_foreignFqdnOf (ne_nil_of_length hc)
    have hread' : ReadAs (foreignFqdnOf nf' (padMnc m') c') nf' (ascii "mnc") (padMnc m') c' :=
      readAs_foreignFqdnOf (ne_nil_of_length hc')
    rw [hsame] at hread'
    obtain ⟨rfl, -, hm, rfl⟩ := readAs_unique hread hread' hnf hnf'
      (isRoamingPartner_padMnc hc hid) (isRoamingPartner_padMnc hc' hid')
    exact ⟨nf, c, m, m', rfl, rfl, hc, hm⟩
  · rintro ⟨nf₁, c₁, m₁, m₁', hlabel, hlabel', hc₁, hpad⟩
    obtain ⟨rfl, hdigits⟩ := label_unique hnf (digits_of_isRoamingPartner hid) hlabel
    obtain ⟨rfl, hdigits'⟩ := label_unique hnf' (digits_of_isRoamingPartner hid') hlabel'
    obtain ⟨rfl, rfl⟩ := List.append_inj hdigits (hc.trans hc₁.symm)
    obtain ⟨rfl, rfl⟩ := List.append_inj hdigits' (hc'.trans hc₁.symm)
    rw [hpad]

/-- What a label resolves to names an allowed NF of a partner, is flattened,
and the flattened name resolves to it again. Labels that resolve are told
apart up to the padding of the MNC. -/
theorem label_canonical {label : Str} {mapping : TelescopicMapping}
    (h : mappingToFqdn partners label {} = .ok (some mapping)) :
    (∃ nf, nf ∈ allowedNfs ∧ ∃ partner ∈ partners,
        mapping.foreignFqdn = foreignFqdnOf nf (padMnc partner.mnc) partner.mcc)
      ∧ (∃ flat back, fqdnToMapping partners mapping.foreignFqdn {} = .ok (some flat)
          ∧ mappingToFqdn partners flat.telescopicLabel {} = .ok (some back)
          ∧ back.foreignFqdn = mapping.foreignFqdn)
      ∧ ∀ label' mapping', mappingToFqdn partners label' {} = .ok (some mapping') →
          (mapping'.foreignFqdn = mapping.foreignFqdn ↔ SameUpToPadding label label') := by
  obtain ⟨nf, c, m, hlabel, rfl⟩ := mappingToFqdn_iff.mp h
  have ⟨_, hnf, hc, hid⟩ := hlabel
  have hpadded := isRoamingPartner_padMnc hc hid
  refine ⟨⟨nf, hnf, ?_⟩, ?_, ?_⟩
  · obtain ⟨partner, hpartner, rfl, hmnc⟩ := padMnc_of_isRoamingPartner hc hid
    exact ⟨partner, hpartner, by rw [hmnc]⟩
  · have hflat := labelOf_generate hnf hpadded
    have hparts : (c ++ padMnc m).take 3 = c ∧ (c ++ padMnc m).drop 3 = padMnc m := by
      rw [← hc]
      exact ⟨List.take_left, List.drop_left⟩
    rw [hparts.1, hparts.2] at hflat
    refine ⟨_, _, fqdnToMapping_iff.mpr ⟨nf, _, _, c,
      readAs_foreignFqdnOf (ne_nil_of_length hc), hnf, hpadded, rfl⟩,
      mappingToFqdn_iff.mpr ⟨nf, c, padMnc m, hflat, rfl⟩, ?_⟩
    show foreignFqdnOf nf (padMnc (padMnc m)) c = foreignFqdnOf nf (padMnc m) c
    rw [padMnc_padMnc]
  · intro label' mapping' h'
    obtain ⟨nf', c', m', hlabel', rfl⟩ := mappingToFqdn_iff.mp h'
    exact foreignFqdnOf_eq_iff hlabel hlabel'

end RoundTrip

/-! ### Padded and unpadded names -/

def paddedFqdn : Str := ascii "amf.5gc.mnc093.mcc208.3gppnetwork.org"

def unpaddedFqdn : Str := ascii "amf.5gc.mnc93.mcc208.3gppnetwork.org"

def sampleMapping (label : Str) : TelescopicMapping :=
  { telescopicLabel := label, seppDomain := seppDomainName }

theorem resolves_canonical_padded :
    ∃ back, mappingToFqdn [samplePartner] (ascii "amfplmn208093") {} = .ok (some back)
      ∧ back.foreignFqdn = paddedFqdn := by
  have hflat : fqdnToMapping [samplePartner] paddedFqdn {}
      = .ok (some (sampleMapping (ascii "amfplmn208093"))) := rfl
  have hdenotes : Denotes [samplePartner] paddedFqdn (ascii "amf") (ascii "093") (ascii "208") :=
    ⟨rfl, by decide, samplePartner, List.mem_singleton_self _, rfl, Or.inr rfl⟩
  obtain ⟨back, hback, hcanonical⟩ := resolves_canonical hflat
  exact ⟨back, hback, (hcanonical _ _ _ hdenotes).2.mpr rfl⟩

/-- A flattened name resolves to the name it was made from. -/
def RoundTrips (partners : List RoamingPartner) (fqdn : Str) : Prop :=
  ∀ mapping, fqdnToMapping partners fqdn {} = .ok (some mapping) →
    ∃ back, mappingToFqdn partners mapping.telescopicLabel {} = .ok (some back)
      ∧ back.foreignFqdn = fqdn

/-- The MNC of two digits comes back with a zero in front. -/
theorem not_roundTrips_unpadded : ¬ RoundTrips [samplePartner] unpaddedFqdn := by
  intro h
  have hflat : fqdnToMapping [samplePartner] unpaddedFqdn {}
      = .ok (some (sampleMapping (ascii "amfplmn20893"))) := rfl
  have hresolved : mappingToFqdn [samplePartner] (ascii "amfplmn20893") {}
      = .ok (some { sampleMapping (ascii "amfplmn20893") with foreignFqdn := paddedFqdn }) := rfl
  obtain ⟨back, hback, hsame⟩ := h _ hflat
  obtain rfl := Option.some.inj (Except.ok.inj (hresolved.symm.trans hback))
  have hlength := congrArg List.length hsame
  revert hlength
  decide

/-- The two spellings of a label resolve to one name. -/
theorem label_canonical_spellings :
    SameUpToPadding (ascii "amfplmn20893") (ascii "amfplmn208093") := by
  have h : mappingToFqdn [samplePartner] (ascii "amfplmn20893") {}
      = .ok (some { sampleMapping (ascii "amfplmn20893") with foreignFqdn := paddedFqdn }) := rfl
  have h' : mappingToFqdn [samplePartner] (ascii "amfplmn208093") {}
      = .ok (some { sampleMapping (ascii "amfplmn208093") with foreignFqdn := paddedFqdn }) := rfl
  exact ((label_canonical h).2.2 _ _ h').mp rfl

end Sepp
