import Sepp.JsonText
import Sepp.LineText
import Sepp.N32fForward
import Sepp.TelescopicFqdn
import Sepp.UrlDecode

/-!
# The PLMN of a request path

`extract_plmn_from_path` of `sepp_n32f_forward.cpp`: the query of a path is
scanned parameter by parameter for a PLMN id, and the first one that is
found is read as JSON, or searched as a text where it is none.

The scan cuts its view at positions (`substr`, `remove_prefix`), and every
cut is one that can fail. `plmnLoop_eq` says that none does: the loop picks
the first parameter that `plmnValue` accepts, of the query split at `&`. So
the forwarding handler, which calls the function and reads nothing of what it
writes, is not ended by it.
-/

namespace Sepp

abbrev ampersand : UInt8 := 38

abbrev equalsSign : UInt8 := 61

abbrev quotationMark : UInt8 := 34

/-! ## The value of a parameter -/

/-- `value(key, "")`, which throws unless it is called on an object. -/
def stringMember (j : Json) (key : Str) : Except Exn Str :=
  if j.isObject then j.value key []
  else .error (ascii "[json.exception.type_error.306] cannot use value() with " ++ j.typeName)

/-- `find(c, pos)`. -/
def findFrom (c : UInt8) (s : Str) (pos : Nat) : Option Nat :=
  ((s.drop pos).idxOf? c).map fun i => pos + i

/-- The text search in the `catch`, for the MCC: three characters. -/
def searchMcc (decodedVal mcc : Str) : Except Exn Str :=
  match TextSearch.find (ascii "\"mcc\":\"") decodedVal with
  | none => .ok mcc
  | some mccPos => substr decodedVal (mccPos + 7) 3

/-- For the MNC: the text up to the next quotation mark. -/
def searchMnc (decodedVal mnc : Str) : Except Exn Str :=
  match TextSearch.find (ascii "\"mnc\":\"") decodedVal with
  | none => .ok mnc
  | some mncPos =>
      match findFrom quotationMark decodedVal (mncPos + 7) with
      | none => .ok mnc
      | some endPos => substr decodedVal (mncPos + 7) (sizeSub endPos (mncPos + 7))

def searchPlmn (decodedVal mcc mnc : Str) : Except Exn (Str × Str) := do
  let mcc ← searchMcc decodedVal mcc
  let mnc ← searchMnc decodedVal mnc
  return (mcc, mnc)

/-- The `try` and its `catch`: an MCC that was read stays written when the
MNC throws. -/
def readPlmn (E : JsonLib) (decodedVal mcc mnc : Str) : Except Exn (Str × Str) :=
  match E.parse decodedVal with
  | .error _ => searchPlmn decodedVal mcc mnc
  | .ok plmnJson =>
      match stringMember plmnJson (ascii "mcc") with
      | .error _ => searchPlmn decodedVal mcc mnc
      | .ok mcc =>
          match stringMember plmnJson (ascii "mnc") with
          | .error _ => searchPlmn decodedVal mcc mnc
          | .ok mnc => .ok (mcc, mnc)

def decodePlmn (E : JsonLib) (val mcc mnc : Str) : Except Exn (Str × Str) :=
  match urlDecode val with
  | none => .error (ascii "read past the end")
  | some decodedVal => readPlmn E decodedVal mcc mnc

/-! ## The scan -/

/-- The text of a PLMN id parameter after its `=`. -/
def plmnParam (param : Str) : Except Exn (Option Str) :=
  match param.idxOf? equalsSign with
  | none => .ok none
  | some eqPos => do
      let key ← substr param 0 eqPos
      let val ← substrFrom param (eqPos + 1)
      if key = ascii "plmn-id" ∨ key = ascii "target-plmn-id" then return some val
      else return none

/-- What one iteration finds: a PLMN id, the query that is left, or the end. -/
inductive QueryStep where
  | value (val : Str)
  | rest (queryStr : Str)
  | last

def queryStep (queryStr : Str) : Except Exn QueryStep :=
  match queryStr.idxOf? ampersand with
  | none => do
      match ← plmnParam queryStr with
      | some val => return .value val
      | none => return .last
  | some ampPos => do
      let param ← substr queryStr 0 ampPos
      match ← plmnParam param with
      | some val => return .value val
      | none => return .rest (← substrFrom queryStr (ampPos + 1))

/-! ## What a scan step finds -/

/-- The value of a parameter whose name is that of a PLMN id. -/
def plmnValue (param : Str) : Option Str :=
  match LineText.splitFirst equalsSign param with
  | none => none
  | some (key, val) =>
      if key = ascii "plmn-id" ∨ key = ascii "target-plmn-id" then some val else none

theorem substrFrom_succ (s : Str) (c : UInt8) (rest : Str) :
    substrFrom (s ++ c :: rest) (s.length + 1) = .ok rest :=
  substrFrom_marker s [c] rest

theorem plmnParam_eq (param : Str) : plmnParam param = .ok (plmnValue param) := by
  unfold plmnParam plmnValue
  rw [LineText.idxOf?_eq_splitFirst]
  cases hsplit : LineText.splitFirst equalsSign param with
  | none => rfl
  | some parts =>
      obtain ⟨key, val⟩ := parts
      obtain rfl := LineText.eq_append_of_splitFirst hsplit
      simp only [Option.map_some, substr_append, substrFrom_succ, bind, Except.bind, pure,
        Except.pure]
      split <;> rfl

theorem queryStep_eq (queryStr : Str) : queryStep queryStr = .ok
    (match LineText.splitFirst ampersand queryStr with
    | none =>
        match plmnValue queryStr with
        | some val => .value val
        | none => .last
    | some (param, rest) =>
        match plmnValue param with
        | some val => .value val
        | none => .rest rest) := by
  unfold queryStep
  rw [LineText.idxOf?_eq_splitFirst]
  cases hsplit : LineText.splitFirst ampersand queryStr with
  | none =>
      simp only [Option.map_none, plmnParam_eq, bind, Except.bind, pure, Except.pure]
      split <;> rfl
  | some parts =>
      obtain ⟨param, rest⟩ := parts
      obtain rfl := LineText.eq_append_of_splitFirst hsplit
      simp only [Option.map_some, substr_append, plmnParam_eq, substrFrom_succ, bind,
        Except.bind, pure, Except.pure]
      split <;> rfl

theorem queryStep_rest_lt {queryStr rest : Str} (h : queryStep queryStr = .ok (.rest rest)) :
    rest.length < queryStr.length := by
  rw [queryStep_eq] at h
  split at h
  · split at h <;> cases h
  · rename_i param rest' hsplit
    obtain rfl := LineText.eq_append_of_splitFirst hsplit
    split at h
    · cases h
    · cases h
      simp only [List.length_append, List.length_cons]
      omega

/-! ## The loop -/

def plmnLoop (E : JsonLib) (queryStr mcc mnc : Str) : Except Exn (Str × Str) :=
  if queryStr = [] then .ok (mcc, mnc)
  else
    match _h : queryStep queryStr with
    | .error e => .error e
    | .ok (.value val) => decodePlmn E val mcc mnc
    | .ok (.rest rest) => plmnLoop E rest mcc mnc
    | .ok .last => .ok (mcc, mnc)
termination_by queryStr.length
decreasing_by exact queryStep_rest_lt ‹_›

/-- The MCC and the MNC afterwards. -/
def extractPlmnFromPath (E : JsonLib) (path mcc mnc : Str) : Except Exn (Str × Str) :=
  match path.idxOf? questionMark with
  | none => .ok (mcc, mnc)
  | some pos => do plmnLoop E (← substrFrom path (pos + 1)) mcc mnc

/-- The first parameter that is a PLMN id, of a query split at `&`. -/
def firstPlmn (queryStr : Str) : Option Str :=
  (queryStr.splitOn ampersand).findSome? plmnValue

theorem firstPlmn_last {queryStr : Str} (h : LineText.splitFirst ampersand queryStr = none) :
    firstPlmn queryStr = plmnValue queryStr := by
  rw [firstPlmn, List.splitOn_eq_singleton (LineText.splitFirst_eq_none.mp h),
    List.findSome?_cons]
  split
  · rename_i hvalue
    exact hvalue.symm
  · rename_i hvalue
    exact hvalue.symm

theorem firstPlmn_rest {queryStr param rest : Str}
    (h : LineText.splitFirst ampersand queryStr = some (param, rest)) :
    firstPlmn queryStr = (plmnValue param).or (firstPlmn rest) := by
  have hparam := LineText.not_mem_of_splitFirst h
  obtain rfl := LineText.eq_append_of_splitFirst h
  rw [firstPlmn, List.splitOn_append_cons_self_of_not_mem hparam, List.findSome?_cons]
  cases plmnValue param <;> rfl

/-- A scan step finds the first PLMN id, or drops a parameter that is none. -/
theorem firstPlmn_step {queryStr : Str} {step : QueryStep} :
    queryStep queryStr = .ok step →
      firstPlmn queryStr =
        match step with
        | .value val => some val
        | .rest rest => firstPlmn rest
        | .last => none := by
  intro h
  rw [queryStep_eq] at h
  obtain rfl := Except.ok.inj h
  cases hsplit : LineText.splitFirst ampersand queryStr with
  | none =>
      rw [firstPlmn_last hsplit]
      cases plmnValue queryStr <;> rfl
  | some parts =>
      obtain ⟨param, rest⟩ := parts
      rw [firstPlmn_rest hsplit]
      cases hvalue : plmnValue param <;> simp only [hvalue, Option.none_or, Option.some_or]

/-- The loop reads that parameter, and changes nothing without one. -/
theorem plmnLoop_eq (E : JsonLib) (queryStr mcc mnc : Str) :
    plmnLoop E queryStr mcc mnc =
      match firstPlmn queryStr with
      | none => .ok (mcc, mnc)
      | some val => decodePlmn E val mcc mnc := by
  fun_induction plmnLoop E queryStr mcc mnc with
  | case1 => rfl
  | case2 queryStr _ e hstep =>
      rw [queryStep_eq] at hstep
      cases hstep
  | case3 queryStr _ val hstep => rw [firstPlmn_step hstep]
  | case4 queryStr _ rest hstep ih =>
      rw [firstPlmn_step hstep]
      exact ih
  | case5 queryStr _ hstep => rw [firstPlmn_step hstep]

/-! ## Reading the value -/

section Value

variable {E : JsonLib} {decodedVal mcc mnc : Str}

/-- What follows a pattern that was found can be cut off. -/
theorem substr_of_find {pat s : Str} {pos : Nat} (h : TextSearch.find pat s = some pos)
    (n : Nat) : ∃ t, substr s (pos + pat.length) n = .ok t := by
  obtain ⟨pre, post, rfl, rfl⟩ := TextSearch.eq_append_of_find h
  refine ⟨_, if_neg ?_⟩
  simp only [List.length_append]
  omega

theorem searchMcc_ok (decodedVal mcc : Str) : ∃ mcc', searchMcc decodedVal mcc = .ok mcc' := by
  unfold searchMcc
  split
  · exact ⟨mcc, rfl⟩
  · rename_i hfind
    exact substr_of_find hfind 3

theorem searchMnc_ok (decodedVal mnc : Str) : ∃ mnc', searchMnc decodedVal mnc = .ok mnc' := by
  unfold searchMnc
  split
  · exact ⟨mnc, rfl⟩
  · rename_i hfind
    split
    · exact ⟨mnc, rfl⟩
    · exact substr_of_find hfind _

theorem searchPlmn_ok (decodedVal mcc mnc : Str) :
    ∃ r, searchPlmn decodedVal mcc mnc = .ok r := by
  obtain ⟨mcc', hmcc⟩ := searchMcc_ok decodedVal mcc
  obtain ⟨mnc', hmnc⟩ := searchMnc_ok decodedVal mnc
  refine ⟨(mcc', mnc'), ?_⟩
  simp only [searchPlmn, hmcc, hmnc, bind, Except.bind, pure, Except.pure]

theorem readPlmn_ok (E : JsonLib) (decodedVal mcc mnc : Str) :
    ∃ r, readPlmn E decodedVal mcc mnc = .ok r := by
  unfold readPlmn
  split
  · exact searchPlmn_ok ..
  · split
    · exact searchPlmn_ok ..
    · split
      · exact searchPlmn_ok ..
      · exact ⟨_, rfl⟩

/-- Two string members are read as they are. -/
theorem readPlmn_of_members {plmnJson : Json} {jsonMcc jsonMnc : Str}
    (hparse : E.parse decodedVal = .ok plmnJson)
    (hmcc : plmnJson.find? (ascii "mcc") = some (.str jsonMcc))
    (hmnc : plmnJson.find? (ascii "mnc") = some (.str jsonMnc)) :
    readPlmn E decodedVal mcc mnc = .ok (jsonMcc, jsonMnc) := by
  have hobj : plmnJson.isObject = true := by
    cases plmnJson with
    | obj members => rfl
    | _ => cases hmcc
  simp only [readPlmn, hparse, stringMember, hobj, if_true, Json.value, hmcc, hmnc,
    Json.getString]

theorem decodePlmn_eq (E : JsonLib) (val mcc mnc : Str) :
    decodePlmn E val mcc mnc = readPlmn E (unescaped val) mcc mnc := by
  rw [decodePlmn, urlDecode_eq]

end Value

/-! ## The function -/

/-- The value of the first PLMN id in the query of a path. -/
def pathPlmn (path : Str) : Option Str :=
  (LineText.splitFirst questionMark path).bind fun p => firstPlmn p.2

theorem extractPlmnFromPath_eq (E : JsonLib) (path mcc mnc : Str) :
    extractPlmnFromPath E path mcc mnc =
      match pathPlmn path with
      | none => .ok (mcc, mnc)
      | some val => readPlmn E (unescaped val) mcc mnc := by
  unfold extractPlmnFromPath pathPlmn
  rw [LineText.idxOf?_eq_splitFirst]
  cases hsplit : LineText.splitFirst questionMark path with
  | none => rfl
  | some parts =>
      obtain ⟨pre, queryStr⟩ := parts
      obtain rfl := LineText.eq_append_of_splitFirst hsplit
      simp only [Option.map_some, substrFrom_succ, Option.bind_some, bind, Except.bind,
        plmnLoop_eq, decodePlmn_eq]

/-- No path makes the function throw. Without a PLMN id nothing is changed;
otherwise the first one alone decides, and an object with two strings is read
as it is. -/
theorem extracts_first_plmn (E : JsonLib) (path mcc mnc : Str) :
    (∃ r, extractPlmnFromPath E path mcc mnc = .ok r)
      ∧ (pathPlmn path = none → extractPlmnFromPath E path mcc mnc = .ok (mcc, mnc))
      ∧ ∀ val, pathPlmn path = some val →
          (∀ path', pathPlmn path' = some val →
            extractPlmnFromPath E path' mcc mnc = extractPlmnFromPath E path mcc mnc)
          ∧ ∀ decodedVal plmnJson jsonMcc jsonMnc, urlDecode val = some decodedVal →
              E.parse decodedVal = .ok plmnJson → plmnJson.isObject = true →
              plmnJson.find? (ascii "mcc") = some (.str jsonMcc) →
              plmnJson.find? (ascii "mnc") = some (.str jsonMnc) →
              extractPlmnFromPath E path mcc mnc = .ok (jsonMcc, jsonMnc) := by
  refine ⟨?_, fun hnone => ?_, fun val hval => ⟨fun path' hval' => ?_, ?_⟩⟩
  · rw [extractPlmnFromPath_eq]
    split
    · exact ⟨_, rfl⟩
    · exact readPlmn_ok ..
  · rw [extractPlmnFromPath_eq, hnone]
  · rw [extractPlmnFromPath_eq, extractPlmnFromPath_eq, hval, hval']
  · intro decodedVal plmnJson jsonMcc jsonMnc hdecoded hparse _ hmcc hmnc
    obtain rfl := Option.some.inj ((urlDecode_eq val).symm.trans hdecoded)
    rw [extractPlmnFromPath_eq, hval]
    exact readPlmn_of_members hparse hmcc hmnc

def samplePlmn : Json :=
  .obj [(ascii "mcc", .str (ascii "208")), (ascii "mnc", .str (ascii "93"))]

def samplePlmnVal : Str := ascii "%7b\"mcc\":\"208\",\"mnc\":\"93\"%7D"

/-- The second of three parameters, before another one of its kind. -/
def samplePlmnPath : Str := ascii "/nf?a&plmn-id=" ++ samplePlmnVal ++ ascii "&plmn-id=0"

theorem extracts_first_plmn_sample :
    extractPlmnFromPath JsonText.lib samplePlmnPath [] [] = .ok (ascii "208", ascii "93") := by
  have hval : pathPlmn samplePlmnPath = some samplePlmnVal := by decide +kernel
  have hdecoded : urlDecode samplePlmnVal = some (JsonText.write samplePlmn) := by
    rw [urlDecode_eq]
    decide +kernel
  have hwritable : JsonText.writable samplePlmn = true := by decide +kernel
  have hparse := JsonText.parse_write hwritable
  have hread := (extracts_first_plmn JsonText.lib samplePlmnPath [] []).2.2 samplePlmnVal hval
  exact hread.2 _ _ _ _ hdecoded hparse rfl rfl rfl

/-! ## In the handler -/

/-- `handle_n32f_process_post` with the scan it makes of the path before it
looks at the body. -/
def handleN32fProcessPostScanning (E : Platform) (cfg : SeppConfig) (σ : N32fForward)
    (rand : Option (Bytes 12)) (nf : HttpRequest → HttpResponse)
    (reqData respData : Json) (respHeaders : HeaderMap) : Handled :=
  if !validateN32fMessage reqData then
    { ret := .ok false, respData, respHeaders, sent := [] }
  else if σ.securityCapability ≠ ascii "PRINS" then
    { ret := .ok false
      respData := invalidCapability
        (ascii "Endpoint /n32f-process requires PRINS capability")
      respHeaders := respHeaders.insert (ascii "content-type") (ascii "application/problem+json")
      sent := [] }
  else
    match readEnvelope E reqData with
    | .error e => { ret := .error e, respData, respHeaders, sent := [] }
    | .ok none => { ret := .ok false, respData, respHeaders, sent := [] }
    | .ok (some env) =>
        match extractPlmnFromPath E.toJsonLib env.target.path [] [] with
        | .error e => { ret := .error e, respData, respHeaders, sent := [] }
        | .ok _ =>
            match receivedBody E σ.encKey env.data with
            | none => { ret := .ok false, respData, respHeaders, sent := [] }
            | some body => relayToTarget E cfg σ rand nf env body respData respHeaders

theorem extractPlmnFromPath_ok (E : JsonLib) (path mcc mnc : Str) :
    ∃ r, extractPlmnFromPath E path mcc mnc = .ok r := by
  rw [extractPlmnFromPath_eq]
  split
  · exact ⟨_, rfl⟩
  · exact readPlmn_ok ..

/-- The scan changes nothing, whatever path a peer sends. -/
theorem handleN32fProcessPostScanning_eq :
    handleN32fProcessPostScanning = handleN32fProcessPost := by
  funext E cfg σ rand nf reqData respData respHeaders
  unfold handleN32fProcessPostScanning handleN32fProcessPost
  split
  · rfl
  · split
    · rfl
    · cases readEnvelope E reqData with
      | error e => rfl
      | ok envelope =>
          cases envelope with
          | none => rfl
          | some env =>
              obtain ⟨r, hr⟩ := extractPlmnFromPath_ok E.toJsonLib env.target.path [] []
              cases hbody : receivedBody E σ.encKey env.data with
              | none => simp only [hr, hbody]
              | some body => simp only [hr, hbody]

end Sepp
