import Sepp.NbiServer
import Sepp.Reference
import Sepp.TelescopicMapping

/-!
# The telescopic mapping resource

`sepp-http2-sbi-server.cpp`, for `/nsepp-telescopic/v1/mapping`: a query
with a foreign FQDN or a telescopic label, passed through the application
to the mapping object. The generated `TelescopicMapping` model is a
parameter like the other models.

What is resolved comes back to the server as a text, which nothing reads:
`returns_resolved_iff` says that the server is right just about the
queries that are not resolved.
-/

namespace Sepp

/-- `sepp_app`, as far as the resource uses it. Without NRF registration
there is no mapping object. -/
structure SbiApp where
  telescopic : Option (List RoamingPartner)

/-- The overload of `get_telescopic_mapping` that serialises the model. -/
def getTelescopicMappingText (E : Platform) (model : JsonModel TelescopicMapping)
    (partners : List RoamingPartner) (foreignFqdn telescopicLabel : Str) :
    Except Exn (Option Str) := do
  match ← getTelescopicMapping partners foreignFqdn telescopicLabel {} with
  | none => return none
  | some mapping => return some (← E.dump (model.toJson mapping))

def SbiApp.getTelescopicMappingText (E : Platform) (model : JsonModel TelescopicMapping)
    (s : SbiApp) (foreignFqdn telescopicLabel : Str) : Except Exn (Option Str) :=
  match s.telescopic with
  | none => .ok none
  | some partners => Sepp.getTelescopicMappingText E model partners foreignFqdn telescopicLabel

namespace SbiServer

section Resource

variable (E : Platform) (model : JsonModel TelescopicMapping)

/-- `handle_telescopic_mapping`: the mapping with its fields set, `none`
where it returns false. -/
def handleTelescopicMapping (inst : Option SbiApp) (foreignFqdn telescopicLabel : Str)
    (mapping : TelescopicMapping) : Except Exn (Option TelescopicMapping) :=
  match inst with
  | none => .ok none
  | some s => do
      match ← s.getTelescopicMappingText E model foreignFqdn telescopicLabel with
      | none => return none
      | some _ => return some { mapping with telescopicLabel, foreignFqdn }

/-- A reply with the mapping. When it cannot be serialised the problem
report goes out under the head already written. -/
def sendMapping (mapping : TelescopicMapping) : Except Exn NbiResponse :=
  match E.dump (model.toJson mapping) with
  | .ok body => .ok { statusCode := 200, headers := NbiServer.jsonHeaders, body }
  | .error what =>
      (NbiServer.sendProblemDetails E 500 (ascii "500: Internal Server Error")
        (ascii "UNEXPECTED_SYSTEM_ERROR") what).map fun r =>
          { r with statusCode := 200, headers := NbiServer.jsonHeaders }

/-- The resource, once the query parameters are read. -/
def mappingResource (inst : Option SbiApp) (method foreignFqdn telescopicLabel : Str) :
    Except Exn NbiResponse :=
  if method ≠ ascii "GET" then
    NbiServer.sendProblemDetails E 405 (ascii "Method Not Allowed") (ascii "ONLY_GET_SUPPORTED")
      (ascii "Only HTTP GET method is supported for this endpoint")
  else if foreignFqdn ≠ [] ∧ telescopicLabel ≠ [] then
    NbiServer.sendProblemDetails E 400 (ascii "400: Bad Request") (ascii "INVALID_QUERY_PARAM")
      (ascii "foreign-fqdn and telescopic-label shall not be supplied together")
  else if foreignFqdn = [] ∧ telescopicLabel = [] then
    NbiServer.sendProblemDetails E 400 (ascii "400: Bad Request") (ascii "MISSING_QUERY_PARAM")
      (ascii "Either foreign-fqdn or telescopic-label shall be supplied")
  else
    match inst with
    | none =>
        NbiServer.sendProblemDetails E 503 (ascii "503: Service Unavailable")
          (ascii "SYSTEM_UNAVAILABLE") (ascii "SEPP Application instance is not available")
    | some s =>
        match handleTelescopicMapping E model (some s) foreignFqdn telescopicLabel {} with
        | .error what =>
            NbiServer.sendProblemDetails E 500 (ascii "500: Internal Server Error")
              (ascii "UNEXPECTED_SYSTEM_ERROR") what
        | .ok none =>
            NbiServer.sendProblemDetails E 404 (ascii "404: Not Found")
              (ascii "MAPPING_NOT_FOUND") (ascii "Telescopic Mapping NOT found")
        | .ok (some mapping) => sendMapping E model mapping

end Resource

end SbiServer

/-! ## Which queries are resolved -/

/-- The query is a host name that is flattened, or a label that is
resolved. -/
def Resolves (partners : List RoamingPartner) (foreignFqdn telescopicLabel : Str) : Prop :=
  (telescopicLabel = [] ∧ ∃ nf t m c, ReadAs foreignFqdn nf t m c ∧ nf ∈ allowedNfs
      ∧ isRoamingPartner partners (c ++ m) = true)
    ∨ (foreignFqdn = [] ∧ ∃ nf c m, LabelOf partners telescopicLabel nf c m)

theorem ReadAs.ne_nil {fqdn nf t m c : Str} (h : ReadAs fqdn nf t m c) : fqdn ≠ [] := by
  rintro rfl
  have hlength := congrArg List.length h.1
  simp only [List.length_append, h.2.1, List.length_nil] at hlength
  omega

theorem LabelOf.ne_nil {partners : List RoamingPartner} {label nf c m : Str}
    (h : LabelOf partners label nf c m) : label ≠ [] := by
  rintro rfl
  have hlength := congrArg List.length h.1
  simp only [generateTelescopicLabel, List.length_append, h.2.2.1, List.length_nil] at hlength
  omega

section Queries

variable {partners : List RoamingPartner} {foreignFqdn telescopicLabel : Str}

theorem fqdnToMapping_ne_nil {mapping resolved : TelescopicMapping}
    (h : fqdnToMapping partners foreignFqdn mapping = .ok (some resolved)) :
    foreignFqdn ≠ [] := by
  obtain ⟨nf, t, m, c, hread, -⟩ := fqdnToMapping_iff.mp h
  exact hread.ne_nil

theorem mappingToFqdn_ne_nil {mapping resolved : TelescopicMapping}
    (h : mappingToFqdn partners telescopicLabel mapping = .ok (some resolved)) :
    telescopicLabel ≠ [] := by
  obtain ⟨nf, c, m, hlabel, -⟩ := mappingToFqdn_iff.mp h
  exact hlabel.ne_nil

theorem getTelescopicMapping_iff {mapping resolved : TelescopicMapping} :
    getTelescopicMapping partners foreignFqdn telescopicLabel mapping = .ok (some resolved) ↔
      (telescopicLabel = [] ∧
          fqdnToMapping partners foreignFqdn mapping = .ok (some resolved))
        ∨ (foreignFqdn = [] ∧
          mappingToFqdn partners telescopicLabel mapping = .ok (some resolved)) := by
  unfold getTelescopicMapping
  constructor
  · intro h
    split at h
    · rename_i hquery
      exact Or.inl ⟨hquery.2, h⟩
    · split at h
      · rename_i hquery
        exact Or.inr ⟨hquery.1, h⟩
      · cases h
  · rintro (⟨hlabel, h⟩ | ⟨hfqdn, h⟩)
    · rw [if_pos ⟨fqdnToMapping_ne_nil h, hlabel⟩]
      exact h
    · rw [if_neg (fun hquery => hquery.1 hfqdn), if_pos ⟨hfqdn, mappingToFqdn_ne_nil h⟩]
      exact h

/-- Whether a query is resolved does not depend on the mapping passed. -/
theorem resolves_iff (mapping : TelescopicMapping) :
    (∃ resolved, getTelescopicMapping partners foreignFqdn telescopicLabel mapping
        = .ok (some resolved))
      ↔ Resolves partners foreignFqdn telescopicLabel := by
  constructor
  · rintro ⟨resolved, h⟩
    rcases getTelescopicMapping_iff.mp h with ⟨hlabel, h⟩ | ⟨hfqdn, h⟩
    · obtain ⟨nf, t, m, c, hread, hnf, hid, -⟩ := fqdnToMapping_iff.mp h
      exact Or.inl ⟨hlabel, nf, t, m, c, hread, hnf, hid⟩
    · obtain ⟨nf, c, m, hparts, -⟩ := mappingToFqdn_iff.mp h
      exact Or.inr ⟨hfqdn, nf, c, m, hparts⟩
  · rintro (⟨hlabel, nf, t, m, c, hread, hnf, hid⟩ | ⟨hfqdn, nf, c, m, hparts⟩)
    · exact ⟨_, getTelescopicMapping_iff.mpr
        (Or.inl ⟨hlabel, fqdnToMapping_iff.mpr ⟨nf, t, m, c, hread, hnf, hid, rfl⟩⟩)⟩
    · exact ⟨_, getTelescopicMapping_iff.mpr
        (Or.inr ⟨hfqdn, mappingToFqdn_iff.mpr ⟨nf, c, m, hparts, rfl⟩⟩)⟩

theorem getTelescopicMapping_ok (mapping : TelescopicMapping) :
    ∃ r, getTelescopicMapping partners foreignFqdn telescopicLabel mapping = .ok r := by
  unfold getTelescopicMapping
  split
  · exact fqdnToMapping_ok foreignFqdn
  · split
    · exact mappingToFqdn_ok telescopicLabel
    · exact ⟨none, rfl⟩

theorem getTelescopicMapping_none (mapping : TelescopicMapping)
    (h : ¬ Resolves partners foreignFqdn telescopicLabel) :
    getTelescopicMapping partners foreignFqdn telescopicLabel mapping = .ok none := by
  obtain ⟨r, hr⟩ :
      ∃ r, getTelescopicMapping partners foreignFqdn telescopicLabel mapping = .ok r :=
    getTelescopicMapping_ok mapping
  cases r with
  | none => exact hr
  | some resolved => exact absurd ((resolves_iff mapping).mp ⟨resolved, hr⟩) h

end Queries

/-! ## What the server returns -/

/-- The server succeeds just when the query is resolved, and returns what
was resolved. -/
def ReturnsResolved (E : Platform) (model : JsonModel TelescopicMapping)
    (partners : List RoamingPartner) (foreignFqdn telescopicLabel : Str)
    (mapping : TelescopicMapping) : Prop :=
  let served := SbiServer.handleTelescopicMapping E model
    (some { telescopic := some partners }) foreignFqdn telescopicLabel mapping
  let resolved := getTelescopicMapping partners foreignFqdn telescopicLabel mapping
  ((∃ m, served = .ok (some m)) ↔ ∃ m, resolved = .ok (some m))
    ∧ ∀ m m', served = .ok (some m) → resolved = .ok (some m') →
        m.telescopicLabel = m'.telescopicLabel ∧ m.foreignFqdn = m'.foreignFqdn
          ∧ m.seppDomain = m'.seppDomain

section Served

variable {E : Platform} {model : JsonModel TelescopicMapping} {partners : List RoamingPartner}
  {foreignFqdn telescopicLabel : Str}

theorem handleTelescopicMapping_of_not_resolves (mapping : TelescopicMapping)
    (h : ¬ Resolves partners foreignFqdn telescopicLabel) :
    SbiServer.handleTelescopicMapping E model (some { telescopic := some partners })
      foreignFqdn telescopicLabel mapping = .ok none := by
  simp only [SbiServer.handleTelescopicMapping, SbiApp.getTelescopicMappingText,
    getTelescopicMappingText, getTelescopicMapping_none {} h, bind, Except.bind, pure,
    Except.pure]

/-- Whatever was resolved, the label and the host name are those of the
query. -/
theorem handleTelescopicMapping_echoes {mapping served : TelescopicMapping}
    {inst : Option SbiApp}
    (h : SbiServer.handleTelescopicMapping E model inst foreignFqdn telescopicLabel mapping
      = .ok (some served)) :
    served = { mapping with telescopicLabel, foreignFqdn } := by
  unfold SbiServer.handleTelescopicMapping at h
  split at h
  · cases h
  · rename_i s
    cases htext : s.getTelescopicMappingText E model foreignFqdn telescopicLabel with
    | error e =>
        rw [htext] at h
        cases h
    | ok r =>
        rw [htext] at h
        cases r with
        | none => cases h
        | some text => exact (Option.some.inj (Except.ok.inj h)).symm

/-- The server returns the resolved mapping exactly for the queries that are
not resolved. -/
theorem returns_resolved_iff (E : Platform) (model : JsonModel TelescopicMapping)
    (partners : List RoamingPartner) (foreignFqdn telescopicLabel : Str)
    (mapping : TelescopicMapping) :
    ReturnsResolved E model partners foreignFqdn telescopicLabel mapping
      ↔ ¬ Resolves partners foreignFqdn telescopicLabel := by
  constructor
  · rintro ⟨hsucceeds, hsame⟩ hresolves
    obtain ⟨resolved, hresolved⟩ := (resolves_iff mapping).mpr hresolves
    obtain ⟨served, hserved⟩ := hsucceeds.mpr ⟨resolved, hresolved⟩
    obtain ⟨hlabel, hfqdn, -⟩ := hsame served resolved hserved hresolved
    obtain rfl := handleTelescopicMapping_echoes hserved
    rcases getTelescopicMapping_iff.mp hresolved with ⟨hnil, h⟩ | ⟨hnil, h⟩
    · obtain ⟨nf, t, m, c, -, -, -, rfl⟩ := fqdnToMapping_iff.mp h
      have hempty : generateTelescopicLabel nf (c ++ m) = [] := hlabel.symm.trans hnil
      simp [generateTelescopicLabel, ascii] at hempty
    · obtain ⟨nf, c, m, -, rfl⟩ := mappingToFqdn_iff.mp h
      have hempty : foreignFqdnOf nf (padMnc m) c = [] := hfqdn.symm.trans hnil
      simp [foreignFqdnOf, mccPrefix, mccSuffix, ascii] at hempty
  · intro hno
    have hserved : SbiServer.handleTelescopicMapping E model
        (some { telescopic := some partners }) foreignFqdn telescopicLabel mapping = .ok none :=
      handleTelescopicMapping_of_not_resolves mapping hno
    have hresolved := getTelescopicMapping_none mapping hno
    refine ⟨iff_of_false ?_ ?_, ?_⟩
    · rintro ⟨m, hm⟩
      cases hserved.symm.trans hm
    · rintro ⟨m, hm⟩
      cases hresolved.symm.trans hm
    · intro m m' hm
      cases hserved.symm.trans hm

/-- The reply to a query that is resolved holds the query's own values. -/
theorem mappingResource_echoes (hresolves : Resolves partners foreignFqdn telescopicLabel)
    (hdump : ∀ resolved, getTelescopicMapping partners foreignFqdn telescopicLabel {}
      = .ok (some resolved) → ∃ text, E.dump (model.toJson resolved) = .ok text) :
    SbiServer.mappingResource E model (some { telescopic := some partners }) (ascii "GET")
        foreignFqdn telescopicLabel
      = SbiServer.sendMapping E model { telescopicLabel, foreignFqdn } := by
  obtain ⟨resolved, hresolved⟩ := (resolves_iff {}).mpr hresolves
  obtain ⟨text, htext⟩ := hdump resolved hresolved
  have hserved : SbiServer.handleTelescopicMapping E model
      (some { telescopic := some partners }) foreignFqdn telescopicLabel {}
        = .ok (some { telescopicLabel, foreignFqdn }) := by
    simp only [SbiServer.handleTelescopicMapping, SbiApp.getTelescopicMappingText,
      getTelescopicMappingText, hresolved, htext, bind, Except.bind, pure, Except.pure]
  have hquery : ¬ (foreignFqdn ≠ [] ∧ telescopicLabel ≠ [])
      ∧ ¬ (foreignFqdn = [] ∧ telescopicLabel = []) := by
    rcases hresolves with ⟨rfl, nf, t, m, c, hread, -⟩ | ⟨rfl, nf, c, m, hparts⟩
    · exact ⟨fun h => h.2 rfl, fun h => hread.ne_nil h.1⟩
    · exact ⟨fun h => h.1 rfl, fun h => hparts.ne_nil h.2⟩
  simp only [SbiServer.mappingResource, ne_eq, not_true_eq_false, if_false, if_neg hquery.1,
    if_neg hquery.2, hserved]

end Served

/-! ### A query for a host name -/

def telescopicToJson (m : TelescopicMapping) : Json :=
  .obj (Reference.optional (ascii "foreignFqdn") .str (Reference.unlessEmpty m.foreignFqdn)
    ++ Reference.optional (ascii "seppDomain") .str (Reference.unlessEmpty m.seppDomain)
    ++ Reference.optional (ascii "telescopicLabel") .str
      (Reference.unlessEmpty m.telescopicLabel))

def telescopicFromJson (j : Json) : Option TelescopicMapping :=
  some
    { telescopicLabel := (Reference.strMember j (ascii "telescopicLabel")).getD []
      foreignFqdn := (Reference.strMember j (ascii "foreignFqdn")).getD []
      seppDomain := (Reference.strMember j (ascii "seppDomain")).getD [] }

theorem telescopicFromJson_toJson (m : TelescopicMapping) :
    telescopicFromJson (telescopicToJson m) = some m := by
  have hread : telescopicFromJson (telescopicToJson m) = some
      { telescopicLabel := (Reference.unlessEmpty m.telescopicLabel).getD []
        foreignFqdn := (Reference.unlessEmpty m.foreignFqdn).getD []
        seppDomain := (Reference.unlessEmpty m.seppDomain).getD [] } := by
    unfold telescopicToJson
    cases Reference.unlessEmpty m.foreignFqdn <;> cases Reference.unlessEmpty m.seppDomain <;>
      cases Reference.unlessEmpty m.telescopicLabel <;> rfl
  rw [hread, Reference.unlessEmpty_getD, Reference.unlessEmpty_getD, Reference.unlessEmpty_getD]

/-- The generated model, with the member names of its OpenAPI document. -/
def telescopicModel : JsonModel TelescopicMapping where
  toJson := telescopicToJson
  fromJson := telescopicFromJson
  fromJson_toJson := telescopicFromJson_toJson
  isObject_toJson _ := rfl

def servedForFqdn : Except Exn (Option TelescopicMapping) :=
  SbiServer.handleTelescopicMapping Reference.platform telescopicModel
    (some { telescopic := some [samplePartner] }) paddedFqdn [] {}

/-- The label that was resolved is not in what the server returns. -/
theorem not_returnsResolved_fqdn :
    servedForFqdn = .ok (some { foreignFqdn := paddedFqdn })
      ∧ ¬ ReturnsResolved Reference.platform telescopicModel [samplePartner] paddedFqdn [] {} := by
  have hresolved : getTelescopicMapping [samplePartner] paddedFqdn [] {}
      = .ok (some (sampleMapping (ascii "amfplmn208093"))) := rfl
  have hdump := Reference.dump_of_writable (j := telescopicModel.toJson
    (sampleMapping (ascii "amfplmn208093"))) (by decide +kernel)
  have hserved : servedForFqdn = .ok (some { foreignFqdn := paddedFqdn }) := by
    simp only [servedForFqdn, SbiServer.handleTelescopicMapping, SbiApp.getTelescopicMappingText,
      getTelescopicMappingText, hresolved, hdump, bind, Except.bind, pure, Except.pure]
  refine ⟨hserved, ?_⟩
  rintro ⟨-, hsame⟩
  have hlabel := (hsame _ _ hserved hresolved).1
  exact List.cons_ne_nil _ _ hlabel.symm

end Sepp
