import Sepp.Reference

/-!
# The NF profile of a SEPP

`sepp_profile.cpp`: the profile a SEPP registers with, as a base class and a
derived one that each write and read their part of its JSON. The derived
`from_json` calls the base one and then reads most of its members a second
time; `fromJson_of_hasMembers` says what comes of that.

`ProfileLib` is what the code uses of libraries for it. Writing ends with a
log line that serialises the whole value, so a profile with a text that is
not UTF-8 cannot be written: `serialises_json_iff`.
-/

namespace Sepp

/-- The value can be serialised. -/
def JsonLib.Serialises (L : JsonLib) (j : Json) : Prop := ∃ t, L.dump j = .ok t

structure ProfileLib extends JsonLib where
  /-- `get<int>()`. -/
  getInt : Json → Except Exn Int32
  inetNtoa : UInt32 → Str
  inetPton : Str → Option UInt32
  trim : Str → Str
  Snssai : Type
  /-- The members of an S-NSSAI as JSON, and the constructor that takes them. -/
  sst : Snssai → Json
  sd : Snssai → Json
  snssai : Int32 → Str → Snssai
  getInt_num : ∀ n : Int32, getInt (.num (Decimal.toText n.toInt)) = .ok n
  trim_inetNtoa : ∀ a, trim (inetNtoa a) = inetNtoa a
  inetPton_inetNtoa : ∀ a, inetPton (inetNtoa a) = some a
  snssai_read : ∀ s, ∃ n text,
    getInt (sst s) = .ok n ∧ (sd s).getString = .ok text ∧ snssai n text = s
  serialises_arr : ∀ items, toJsonLib.Serialises (.arr items)
    ↔ ∀ j ∈ items, toJsonLib.Serialises j
  serialises_obj : ∀ members, toJsonLib.Serialises (.obj members)
    ↔ ∀ m ∈ members, toJsonLib.Serialises (.str m.1) ∧ toJsonLib.Serialises m.2
  serialises_num : ∀ n, toJsonLib.Serialises (.num (Decimal.toText n))
  serialises_printable : ∀ s, JsonText.printable s = true → toJsonLib.Serialises (.str s)
  serialises_inetNtoa : ∀ a, toJsonLib.Serialises (.str (inetNtoa a))

/-! ## Profiles -/

/-- The members that `to_json` writes; IPv6 addresses are not among them. -/
structure NfProfile (L : ProfileLib) where
  nfInstanceId : Str := []
  nfInstanceName : Str := []
  nfType : Str := ascii "NF_TYPE_UNKNOWN"
  nfStatus : Str := []
  heartBeatTimer : Int32 := 0
  snssais : List L.Snssai := []
  fqdn : Str := []
  ipv4Addresses : List UInt32 := []
  priority : UInt16 := 0
  capacity : UInt16 := 0

structure NfServiceVersion where
  apiVersionInUri : Str
  apiFullVersion : Str

structure IpEndpoint where
  ipv4Address : UInt32
  transport : Str
  port : Int

structure NfService where
  serviceInstanceId : Str
  serviceName : Str
  versions : List NfServiceVersion
  scheme : Str
  nfServiceStatus : Str
  ipEndPoints : List IpEndpoint

structure SeppInfo where
  seppPrefix : Str := []
  /-- The entries of a map, a port for each interface. -/
  seppPorts : List (Str × Int) := []
  /-- MCC and MNC. -/
  remotePlmnList : List (Str × Str) := []
  n32Purposes : List Str := []

structure SeppProfile (L : ProfileLib) extends NfProfile L where
  nfServices : List NfService := []
  customInfo : Json := .null
  seppInfo : SeppInfo := {}

variable {L : ProfileLib}

/-! ## Writing -/

def strJsons (l : List Str) : Json := .arr (l.map .str)

def intJson (n : Int) : Json := .num (Decimal.toText n)

def snssaiJson (s : L.Snssai) : Json := .obj [(ascii "sst", L.sst s), (ascii "sd", L.sd s)]

/-- The members `nf_profile::to_json` gives an empty value. -/
def NfProfile.members (p : NfProfile L) : List (Str × Json) :=
  [(ascii "nfInstanceId", .str p.nfInstanceId),
    (ascii "nfInstanceName", .str p.nfInstanceName),
    (ascii "nfType", .str p.nfType),
    (ascii "nfStatus", .str p.nfStatus),
    (ascii "heartBeatTimer", intJson p.heartBeatTimer.toInt),
    (ascii "sNssais", .arr (p.snssais.map snssaiJson))]
    ++ (if p.fqdn = [] then [] else [(ascii "fqdn", .str p.fqdn)])
    ++ [(ascii "ipv4Addresses", strJsons (p.ipv4Addresses.map L.inetNtoa)),
      (ascii "priority", intJson p.priority.toNat),
      (ascii "capacity", intJson p.capacity.toNat)]

def versionJson (v : NfServiceVersion) : Json :=
  .obj [(ascii "apiVersionInUri", .str v.apiVersionInUri),
    (ascii "apiFullVersion", .str v.apiFullVersion)]

def endpointJson (L : ProfileLib) (e : IpEndpoint) : Json :=
  .obj [(ascii "ipv4Address", .str (L.inetNtoa e.ipv4Address)),
    (ascii "transport", .str e.transport),
    (ascii "port", intJson e.port)]

def serviceJson (L : ProfileLib) (s : NfService) : Json :=
  .obj [(ascii "serviceInstanceId", .str s.serviceInstanceId),
    (ascii "serviceName", .str s.serviceName),
    (ascii "versions", .arr (s.versions.map versionJson)),
    (ascii "scheme", .str s.scheme),
    (ascii "nfServiceStatus", .str s.nfServiceStatus),
    (ascii "ipEndPoints", .arr (s.ipEndPoints.map (endpointJson L)))]

def plmnJson (plmn : Str × Str) : Json :=
  .obj [(ascii "mcc", .str plmn.1), (ascii "mnc", .str plmn.2)]

def seppInfoJson (info : SeppInfo) : Json :=
  .obj [(ascii "seppPrefix", .str info.seppPrefix),
    (ascii "seppPorts", .obj (info.seppPorts.map fun m => (m.1, intJson m.2))),
    (ascii "remotePlmnList", .arr (info.remotePlmnList.map plmnJson)),
    (ascii "n32Purposes", strJsons info.n32Purposes)]

namespace SeppProfile

def json (p : SeppProfile L) : Json :=
  .obj (p.members
    ++ [(ascii "nfServices", .arr (p.nfServices.map (serviceJson L))),
      (ascii "custom_info", p.customInfo),
      (ascii "seppInfo", seppInfoJson p.seppInfo)])

/-- `sepp_profile::to_json`; the value is serialised for the log. -/
def toJson (p : SeppProfile L) : Except Exn Json :=
  match L.dump p.json with
  | .error e => .error e
  | .ok _ => .ok p.json

end SeppProfile

/-! ## Reading -/

/-- Read a member into the profile if it is there. -/
def readMember {α σ : Type} (data : Json) (key : Str) (read : Json → Except Exn α)
    (write : σ → α → σ) (p : σ) : Except Exn σ :=
  match data.find? key with
  | none => .ok p
  | some v => (read v).map (write p)

def readSnssai (L : ProfileLib) (it : Json) : Except Exn L.Snssai := do
  let sst ← it.member (ascii "sst") >>= L.getInt
  let sd ← it.member (ascii "sd") >>= Json.getString
  return L.snssai sst sd

/-- A text that is no address is read as 0.0.0.0. -/
def readIpv4 (L : ProfileLib) (it : Json) : Except Exn UInt32 :=
  it.getString.map fun address => (L.inetPton (L.trim address)).getD 0

namespace NfProfile

variable (L) in
/-- The instance and its heartbeat timer. -/
def readInstance (data : Json) (p : NfProfile L) : Except Exn (NfProfile L) := do
  let p ← readMember data (ascii "nfInstanceId") Json.getString
    (fun p v => { p with nfInstanceId := v }) p
  let p ← readMember data (ascii "nfInstanceName") Json.getString
    (fun p v => { p with nfInstanceName := v }) p
  let p ← readMember data (ascii "nfType") Json.getString (fun p v => { p with nfType := v }) p
  let p ← readMember data (ascii "nfStatus") Json.getString
    (fun p v => { p with nfStatus := v }) p
  readMember data (ascii "heartBeatTimer") L.getInt (fun p v => { p with heartBeatTimer := v }) p

/-- S-NSSAIs are appended to those the profile has. -/
def readSnssais (data : Json) (p : NfProfile L) : Except Exn (NfProfile L) :=
  readMember data (ascii "sNssais") (fun v => v.elements.mapM (readSnssai L))
    (fun p v => { p with snssais := p.snssais ++ v }) p

/-- And so are addresses. -/
def readIpv4Addresses (data : Json) (p : NfProfile L) : Except Exn (NfProfile L) :=
  readMember data (ascii "ipv4Addresses") (fun v => v.elements.mapM (readIpv4 L))
    (fun p v => { p with ipv4Addresses := p.ipv4Addresses ++ v }) p

def readLoad (data : Json) (p : NfProfile L) : Except Exn (NfProfile L) := do
  let p ← readMember data (ascii "priority") L.getInt
    (fun p v => { p with priority := v.toUInt32.toUInt16 }) p
  readMember data (ascii "capacity") L.getInt
    (fun p v => { p with capacity := v.toUInt32.toUInt16 }) p

/-- `nf_profile::from_json`. -/
def fromJson (data : Json) (p : NfProfile L) : Except Exn (NfProfile L) := do
  let p ← readInstance L data p
  let p ← readSnssais data p
  let p ← readMember data (ascii "fqdn") Json.getString (fun p v => { p with fqdn := v }) p
  let p ← readIpv4Addresses data p
  readLoad data p

end NfProfile

/-- `sepp_profile::from_json`: the base class, most of it again, and the
prefix. -/
def SeppProfile.fromJson (data : Json) (p : SeppProfile L) : Except Exn (SeppProfile L) := do
  let base ← NfProfile.fromJson data p.toNfProfile
  let base ← NfProfile.readInstance L data base
  let base ← NfProfile.readSnssais data base
  let base ← NfProfile.readIpv4Addresses data base
  let base ← NfProfile.readLoad data base
  let p := { p with toNfProfile := base }
  readMember data (ascii "seppInfo")
    (fun info => match info.find? (ascii "seppPrefix") with
      | none => .ok p.seppInfo
      | some v => v.getString.map fun s => { p.seppInfo with seppPrefix := s })
    (fun p info => { p with seppInfo := info }) p

/-! ## What is read of what was written -/

/-- A list is read back by the reader of its items. -/
theorem mapM_read_map {α β : Type} {read : β → Except Exn α} {write : α → β}
    (h : ∀ a, read (write a) = .ok a) (l : List α) : (l.map write).mapM read = .ok l := by
  induction l with
  | nil => rfl
  | cons a l ih =>
      rw [List.map_cons, List.mapM_cons, h, ih]
      rfl

theorem readSnssai_snssaiJson (s : L.Snssai) : readSnssai L (snssaiJson s) = .ok s := by
  obtain ⟨n, text, hsst, hsd, hsnssai⟩ := L.snssai_read s
  have hread : readSnssai L (snssaiJson s) = (do
      let sst ← L.getInt (L.sst s)
      let sd ← (L.sd s).getString
      return L.snssai sst sd) := rfl
  rw [hread, hsst, hsd, ← hsnssai]
  rfl

theorem readIpv4_inetNtoa (a : UInt32) : readIpv4 L (.str (L.inetNtoa a)) = .ok a := by
  rw [readIpv4, Json.getString, Except.map, L.trim_inetNtoa, L.inetPton_inetNtoa,
    Option.getD_some]

/-- A 16-bit number survives the `int` it is read as. -/
theorem getInt_uint16 (n : UInt16) :
    ∃ i, L.getInt (intJson n.toNat) = .ok i ∧ i.toUInt32.toUInt16 = n := by
  have hlt := n.toNat_lt
  have hi : (Int32.ofNat n.toNat).toInt = n.toNat := Int32.toInt_ofNat_of_lt (by omega)
  refine ⟨Int32.ofNat n.toNat, ?_, ?_⟩
  · rw [intJson, ← hi, L.getInt_num]
  · rw [Int32.toUInt32_ofNat', UInt32.toUInt16_ofNat', UInt16.ofNat_toNat]

/-- A value has the members of the profile. -/
structure HasMembers (p : SeppProfile L) (data : Json) : Prop where
  nfInstanceId : data.find? (ascii "nfInstanceId") = some (.str p.nfInstanceId)
  nfInstanceName : data.find? (ascii "nfInstanceName") = some (.str p.nfInstanceName)
  nfType : data.find? (ascii "nfType") = some (.str p.nfType)
  nfStatus : data.find? (ascii "nfStatus") = some (.str p.nfStatus)
  heartBeatTimer : data.find? (ascii "heartBeatTimer") = some (intJson p.heartBeatTimer.toInt)
  snssais : data.find? (ascii "sNssais") = some (.arr (p.snssais.map snssaiJson))
  fqdn : data.find? (ascii "fqdn") = if p.fqdn = [] then none else some (.str p.fqdn)
  ipv4Addresses : data.find? (ascii "ipv4Addresses")
    = some (strJsons (p.ipv4Addresses.map L.inetNtoa))
  priority : data.find? (ascii "priority") = some (intJson p.priority.toNat)
  capacity : data.find? (ascii "capacity") = some (intJson p.capacity.toNat)
  seppInfo : data.find? (ascii "seppInfo") = some (seppInfoJson p.seppInfo)

theorem hasMembers_json (p : SeppProfile L) : HasMembers p p.json := by
  unfold SeppProfile.json NfProfile.members
  cases hfqdn : p.fqdn with
  | nil =>
      refine ⟨rfl, rfl, rfl, rfl, rfl, rfl, ?_, rfl, rfl, rfl, rfl⟩
      rw [hfqdn]
      rfl
  | cons c fqdn =>
      refine ⟨rfl, rfl, rfl, rfl, rfl, rfl, ?_, rfl, rfl, rfl, rfl⟩
      rw [hfqdn]
      rfl

theorem readMember_of_find? {α σ : Type} {data : Json} {key : Str} {read : Json → Except Exn α}
    {write : σ → α → σ} {v : Json} {a : α} (hfind : data.find? key = some v)
    (hread : read v = .ok a) (q : σ) : readMember data key read write q = .ok (write q a) := by
  rw [readMember, hfind]
  dsimp only
  rw [hread]
  rfl

section Members

variable {p : SeppProfile L} {data : Json}

theorem readInstance_of_hasMembers (h : HasMembers p data) (q : NfProfile L) :
    NfProfile.readInstance L data q = .ok { q with
      nfInstanceId := p.nfInstanceId
      nfInstanceName := p.nfInstanceName
      nfType := p.nfType
      nfStatus := p.nfStatus
      heartBeatTimer := p.heartBeatTimer } := by
  have hread : ∀ s, Json.getString (.str s) = .ok s := fun _ => rfl
  have hint : L.getInt (intJson p.heartBeatTimer.toInt) = .ok p.heartBeatTimer :=
    L.getInt_num p.heartBeatTimer
  rw [NfProfile.readInstance, readMember_of_find? h.nfInstanceId (hread _)]
  simp only [bind, Except.bind]
  rw [readMember_of_find? h.nfInstanceName (hread _)]
  dsimp only
  rw [readMember_of_find? h.nfType (hread _)]
  dsimp only
  rw [readMember_of_find? h.nfStatus (hread _)]
  dsimp only
  rw [readMember_of_find? h.heartBeatTimer hint]

theorem readSnssais_of_hasMembers (h : HasMembers p data) (q : NfProfile L) :
    NfProfile.readSnssais data q = .ok { q with snssais := q.snssais ++ p.snssais } :=
  readMember_of_find? h.snssais (mapM_read_map readSnssai_snssaiJson p.snssais) q

theorem readIpv4Addresses_of_hasMembers (h : HasMembers p data) (q : NfProfile L) :
    NfProfile.readIpv4Addresses data q
      = .ok { q with ipv4Addresses := q.ipv4Addresses ++ p.ipv4Addresses } := by
  refine readMember_of_find? h.ipv4Addresses ?_ q
  rw [strJsons, Json.elements, List.map_map]
  exact mapM_read_map readIpv4_inetNtoa p.ipv4Addresses

/-- An empty FQDN is not written, and a new profile has one. -/
theorem readFqdn_of_hasMembers (h : HasMembers p data) {q : NfProfile L} (hq : q.fqdn = []) :
    readMember data (ascii "fqdn") Json.getString (fun p v => { p with fqdn := v }) q
      = .ok { q with fqdn := p.fqdn } := by
  have hfqdn := h.fqdn
  by_cases hnil : p.fqdn = []
  · rw [if_pos hnil] at hfqdn
    rw [readMember, hfqdn, hnil, ← hq]
  · rw [if_neg hnil] at hfqdn
    have hread : Json.getString (.str p.fqdn) = .ok p.fqdn := rfl
    exact readMember_of_find? hfqdn hread q

theorem readLoad_of_hasMembers (h : HasMembers p data) (q : NfProfile L) :
    NfProfile.readLoad data q
      = .ok { q with priority := p.priority, capacity := p.capacity } := by
  obtain ⟨i, hi, hpri⟩ := getInt_uint16 (L := L) p.priority
  obtain ⟨k, hk, hcap⟩ := getInt_uint16 (L := L) p.capacity
  rw [NfProfile.readLoad, readMember_of_find? h.priority hi]
  simp only [bind, Except.bind]
  rw [readMember_of_find? h.capacity hk, hpri, hcap]

/-- What is read into a new profile: every list member twice. -/
theorem fromJson_of_hasMembers (h : HasMembers p data) :
    SeppProfile.fromJson data {} = .ok
      { p.toNfProfile with
        snssais := p.snssais ++ p.snssais
        ipv4Addresses := p.ipv4Addresses ++ p.ipv4Addresses
        seppInfo := { seppPrefix := p.seppInfo.seppPrefix } } := by
  simp only [SeppProfile.fromJson, NfProfile.fromJson, readInstance_of_hasMembers h,
    readSnssais_of_hasMembers h, readIpv4Addresses_of_hasMembers h, readLoad_of_hasMembers h,
    readFqdn_of_hasMembers h, bind, Except.bind, List.nil_append]
  rw [readMember, h.seppInfo]
  rfl

end Members

/-! ## What can be written -/

/-- The texts of a profile without S-NSSAIs. -/
def NfService.texts (s : NfService) : List Str :=
  [s.serviceInstanceId, s.serviceName]
    ++ s.versions.flatMap (fun v => [v.apiVersionInUri, v.apiFullVersion])
    ++ [s.scheme, s.nfServiceStatus] ++ s.ipEndPoints.map (·.transport)

def SeppInfo.texts (info : SeppInfo) : List Str :=
  [info.seppPrefix] ++ info.seppPorts.map (·.1)
    ++ info.remotePlmnList.flatMap (fun m => [m.1, m.2]) ++ info.n32Purposes

def SeppProfile.texts (p : SeppProfile L) : List Str :=
  [p.nfInstanceId, p.nfInstanceName, p.nfType, p.nfStatus, p.fqdn]
    ++ p.nfServices.flatMap NfService.texts ++ p.seppInfo.texts

/-- The texts and the extra data of the profile can be serialised. -/
def SeppProfile.Serialisable (p : SeppProfile L) : Prop :=
  (∀ s ∈ p.texts, L.Serialises (.str s)) ∧ L.Serialises p.customInfo

section Serialises

theorem serialises_arr_map {α : Type} {write : α → Json} {l : List α} :
    L.Serialises (.arr (l.map write)) ↔ ∀ a ∈ l, L.Serialises (write a) := by
  rw [L.serialises_arr, List.forall_mem_map]

theorem serialises_obj_nil : L.Serialises (.obj []) :=
  (L.serialises_obj []).mpr fun _ hm => absurd hm List.not_mem_nil

theorem serialises_obj_cons {key : Str} {v : Json} {members : List (Str × Json)} :
    L.Serialises (.obj ((key, v) :: members))
      ↔ L.Serialises (.str key) ∧ L.Serialises v ∧ L.Serialises (.obj members) := by
  rw [L.serialises_obj, L.serialises_obj, List.forall_mem_cons, and_assoc]

theorem serialises_obj_append {a b : List (Str × Json)} :
    L.Serialises (.obj (a ++ b)) ↔ L.Serialises (.obj a) ∧ L.Serialises (.obj b) := by
  rw [L.serialises_obj, L.serialises_obj, L.serialises_obj, List.forall_mem_append]

/-- A member with a name of the code's own. -/
theorem serialises_member {key : Str} {v : Json} {members : List (Str × Json)}
    (hkey : JsonText.printable key = true) :
    L.Serialises (.obj ((key, v) :: members))
      ↔ L.Serialises v ∧ L.Serialises (.obj members) := by
  rw [serialises_obj_cons]
  exact and_iff_right (L.serialises_printable key hkey)

theorem serialises_versionJson (v : NfServiceVersion) :
    L.Serialises (versionJson v)
      ↔ L.Serialises (.str v.apiVersionInUri) ∧ L.Serialises (.str v.apiFullVersion) := by
  unfold versionJson
  simp (disch := decide) only [serialises_member]
  simp only [serialises_obj_nil, and_true]

theorem serialises_endpointJson (e : IpEndpoint) :
    L.Serialises (endpointJson L e) ↔ L.Serialises (.str e.transport) := by
  unfold endpointJson
  simp (disch := decide) only [serialises_member]
  simp only [intJson, L.serialises_inetNtoa, L.serialises_num, serialises_obj_nil, true_and,
    and_true]

theorem serialises_serviceJson (s : NfService) :
    L.Serialises (serviceJson L s) ↔ ∀ t ∈ s.texts, L.Serialises (.str t) := by
  unfold serviceJson NfService.texts
  simp (disch := decide) only [serialises_member]
  simp only [serialises_arr_map, serialises_versionJson, serialises_endpointJson,
    serialises_obj_nil, and_true, List.forall_mem_append, List.forall_mem_cons,
    List.not_mem_nil, false_implies, implies_true, List.forall_mem_flatMap, List.forall_mem_map, and_assoc]

theorem serialises_plmnJson (plmn : Str × Str) :
    L.Serialises (plmnJson plmn) ↔ L.Serialises (.str plmn.1) ∧ L.Serialises (.str plmn.2) := by
  unfold plmnJson
  simp (disch := decide) only [serialises_member]
  simp only [serialises_obj_nil, and_true]

theorem serialises_portsJson (ports : List (Str × Int)) :
    L.Serialises (.obj (ports.map fun m => (m.1, intJson m.2)))
      ↔ ∀ m ∈ ports, L.Serialises (.str m.1) := by
  rw [L.serialises_obj, List.forall_mem_map]
  simp only [intJson, L.serialises_num, and_true]

theorem serialises_seppInfoJson (info : SeppInfo) :
    L.Serialises (seppInfoJson info) ↔ ∀ t ∈ info.texts, L.Serialises (.str t) := by
  unfold seppInfoJson SeppInfo.texts
  simp (disch := decide) only [serialises_member]
  simp only [strJsons, serialises_arr_map, serialises_plmnJson, serialises_portsJson,
    serialises_obj_nil, and_true, List.forall_mem_append, List.forall_mem_cons,
    List.not_mem_nil, false_implies, implies_true, List.forall_mem_flatMap, List.forall_mem_map, and_assoc]

/-- The members of a profile without lists. -/
theorem serialises_members {p : NfProfile L} (hsnssais : p.snssais = [])
    (hipv4 : p.ipv4Addresses = []) :
    L.Serialises (.obj p.members)
      ↔ ∀ t ∈ [p.nfInstanceId, p.nfInstanceName, p.nfType, p.nfStatus, p.fqdn],
          L.Serialises (.str t) := by
  have hempty : L.Serialises (.arr []) :=
    (L.serialises_arr []).mpr fun _ hj => absurd hj List.not_mem_nil
  have hfqdn : L.Serialises (.obj (if p.fqdn = [] then [] else [(ascii "fqdn", .str p.fqdn)]))
      ↔ L.Serialises (.str p.fqdn) := by
    split
    · rename_i hnil
      rw [hnil]
      exact iff_of_true serialises_obj_nil (L.serialises_printable [] rfl)
    · rw [serialises_member (by decide)]
      exact and_iff_left serialises_obj_nil
  unfold NfProfile.members
  rw [serialises_obj_append, serialises_obj_append, hfqdn, hsnssais, hipv4]
  simp (disch := decide) only [serialises_member]
  simp only [strJsons, List.map_nil, hempty, intJson, L.serialises_num, serialises_obj_nil,
    and_true, List.forall_mem_cons, List.not_mem_nil, false_implies, implies_true, and_assoc]

/-- Without S-NSSAIs and addresses, a profile is written when its texts can
be. -/
theorem serialises_json_iff {p : SeppProfile L} (hsnssais : p.snssais = [])
    (hipv4 : p.ipv4Addresses = []) : L.Serialises p.json ↔ p.Serialisable := by
  unfold SeppProfile.json SeppProfile.Serialisable SeppProfile.texts
  rw [serialises_obj_append, serialises_members hsnssais hipv4]
  simp (disch := decide) only [serialises_member]
  simp only [serialises_arr_map, serialises_serviceJson, serialises_seppInfoJson,
    serialises_obj_nil, and_true, List.forall_mem_append, List.forall_mem_flatMap]
  tauto

end Serialises

/-! ## Writing and reading -/

/-- What is written can be read into a new profile, and gives what was
written in every member that is read. -/
def ProfileRoundTrips (p : SeppProfile L) : Prop :=
  ∃ j q, p.toJson = .ok j ∧ SeppProfile.fromJson j {} = .ok q
    ∧ q.toNfProfile = p.toNfProfile ∧ q.seppInfo.seppPrefix = p.seppInfo.seppPrefix

theorem toJson_eq_ok {p : SeppProfile L} {j : Json} :
    p.toJson = .ok j ↔ L.Serialises p.json ∧ j = p.json := by
  unfold SeppProfile.toJson JsonLib.Serialises
  cases L.dump p.json with
  | error e => simp
  | ok t => simp [eq_comm]

/-- Of all profiles, exactly those without S-NSSAIs and addresses whose texts
can be written. -/
theorem profile_roundTrips_iff (L : ProfileLib) (p : SeppProfile L) :
    ProfileRoundTrips p ↔ p.snssais = [] ∧ p.ipv4Addresses = [] ∧ p.Serialisable := by
  constructor
  · rintro ⟨j, q, hwritten, hread, hsame, -⟩
    obtain ⟨hserialises, rfl⟩ := toJson_eq_ok.mp hwritten
    rw [fromJson_of_hasMembers (hasMembers_json p)] at hread
    obtain rfl := Except.ok.inj hread
    have hsnssais : p.snssais = [] :=
      List.append_left_eq_self.mp (congrArg NfProfile.snssais hsame)
    have hipv4 : p.ipv4Addresses = [] :=
      List.append_left_eq_self.mp (congrArg NfProfile.ipv4Addresses hsame)
    exact ⟨hsnssais, hipv4, (serialises_json_iff hsnssais hipv4).mp hserialises⟩
  · rintro ⟨hsnssais, hipv4, hserialisable⟩
    have hserialises := (serialises_json_iff hsnssais hipv4).mpr hserialisable
    refine ⟨p.json, _, toJson_eq_ok.mpr ⟨hserialises, rfl⟩,
      fromJson_of_hasMembers (hasMembers_json p), ?_, rfl⟩
    rw [List.append_left_eq_self.mpr hsnssais, List.append_left_eq_self.mpr hipv4]

/-! ## A reference library -/

namespace Reference

abbrev dot : UInt8 := 46

/-- The bytes of an address in memory order. -/
def octets (a : UInt32) : Nat × Nat × Nat × Nat :=
  (a.toNat % 256, a.toNat / 256 % 256, a.toNat / 65536 % 256, a.toNat / 16777216)

def decimal (n : Nat) : Str := Decimal.toText n

def inetNtoa (a : UInt32) : Str :=
  let (b₁, b₂, b₃, b₄) := octets a
  decimal b₁ ++ dot :: (decimal b₂ ++ dot :: (decimal b₃ ++ dot :: decimal b₄))

def octet (t : Str) : Option Nat := (Decimal.readNat t).filter fun n => decide (n ≤ 255)

def inetPton (s : Str) : Option UInt32 := do
  let (t₁, s) ← LineText.splitFirst dot s
  let (t₂, s) ← LineText.splitFirst dot s
  let (t₃, t₄) ← LineText.splitFirst dot s
  let b₁ ← octet t₁
  let b₂ ← octet t₂
  let b₃ ← octet t₃
  let b₄ ← octet t₄
  return UInt32.ofNat (b₁ + 256 * b₂ + 65536 * b₃ + 16777216 * b₄)

def trim (s : Str) : Str := ((s.dropWhile isSpace).reverse.dropWhile isSpace).reverse

theorem mem_decimal {n : Nat} {c : UInt8} (hc : c ∈ decimal n) :
    c = 45 ∨ Decimal.isDigit c = true := Decimal.mem_toText hc

theorem dot_not_mem_decimal (n : Nat) : dot ∉ decimal n := by
  intro hdot
  rcases mem_decimal hdot with h | h
  · exact absurd h (by decide)
  · exact absurd h (by decide)

theorem octet_decimal {n : Nat} (hn : n ≤ 255) : octet (decimal n) = some n := by
  have hread : Decimal.readNat (decimal n) = some n := Decimal.readNat_toDigits n
  rw [octet, hread, Option.filter_some, if_pos (decide_eq_true hn)]

theorem inetPton_inetNtoa (a : UInt32) : inetPton (inetNtoa a) = some a := by
  have hlt := a.toNat_lt
  have h₁ : a.toNat % 256 ≤ 255 := by omega
  have h₂ : a.toNat / 256 % 256 ≤ 255 := by omega
  have h₃ : a.toNat / 65536 % 256 ≤ 255 := by omega
  have h₄ : a.toNat / 16777216 ≤ 255 := by omega
  have hsum : a.toNat % 256 + 256 * (a.toNat / 256 % 256) + 65536 * (a.toNat / 65536 % 256)
      + 16777216 * (a.toNat / 16777216) = a.toNat := by omega
  simp only [inetPton, inetNtoa, octets, LineText.splitFirst_append (dot_not_mem_decimal _),
    octet_decimal h₁, octet_decimal h₂, octet_decimal h₃, octet_decimal h₄, bind, Option.bind,
    hsum, UInt32.ofNat_toNat]
  rfl

theorem mem_inetNtoa {a : UInt32} {c : UInt8} (hc : c ∈ inetNtoa a) :
    c = dot ∨ c = 45 ∨ Decimal.isDigit c = true := by
  simp only [inetNtoa, List.mem_append, List.mem_cons] at hc
  rcases hc with h | rfl | h | rfl | h | rfl | h
  · exact Or.inr (mem_decimal h)
  · exact Or.inl rfl
  · exact Or.inr (mem_decimal h)
  · exact Or.inl rfl
  · exact Or.inr (mem_decimal h)
  · exact Or.inl rfl
  · exact Or.inr (mem_decimal h)

theorem trim_of_not_space {s : Str} (hs : ∀ c ∈ s, isSpace c = false) : trim s = s := by
  have hkept : ∀ t : Str, (∀ c ∈ t, isSpace c = false) → t.dropWhile isSpace = t := by
    intro t ht
    cases t with
    | nil => rfl
    | cons c t => rw [List.dropWhile_cons_of_neg (by simp [ht c List.mem_cons_self])]
  rw [trim, hkept s hs, hkept s.reverse fun c hc => hs c (List.mem_reverse.mp hc),
    List.reverse_reverse]

theorem trim_inetNtoa (a : UInt32) : trim (inetNtoa a) = inetNtoa a := by
  refine trim_of_not_space fun c hc => ?_
  rcases mem_inetNtoa hc with rfl | rfl | h
  · decide
  · decide
  · exact visible_isSpace.2 c h

theorem serialises_iff {j : Json} : JsonText.lib.Serialises j ↔ JsonText.writable j = true := by
  constructor
  · rintro ⟨t, ht⟩
    by_contra hno
    have hdump : JsonText.lib.dump j = .error (ascii "[json.exception.type_error.316]") :=
      if_neg hno
    rw [hdump] at ht
    cases ht
  · exact fun h => ⟨_, JsonText.dump_of_writable h⟩

theorem writableItems_iff {items : List Json} :
    JsonText.writableItems items = true ↔ ∀ j ∈ items, JsonText.writable j = true := by
  induction items with
  | nil => simp [JsonText.writableItems]
  | cons j js ih => simp [JsonText.writableItems, ih]

theorem writableMembers_iff {members : List (Str × Json)} :
    JsonText.writableMembers members = true
      ↔ ∀ m ∈ members, JsonText.printable m.1 = true ∧ JsonText.writable m.2 = true := by
  induction members with
  | nil => simp [JsonText.writableMembers]
  | cons m ms ih =>
      obtain ⟨k, j⟩ := m
      simp [JsonText.writableMembers, ih]

theorem writable_toText (n : Int) : JsonText.writable (.num (Decimal.toText n)) = true := by
  have hall : ∀ c ∈ Decimal.toText n, JsonText.isNumChar c = true := by
    intro c hc
    rcases Decimal.mem_toText hc with rfl | h
    · rfl
    · simp only [Decimal.isDigit] at h
      simp only [JsonText.isNumChar, h, Bool.or_true]
  simp only [JsonText.writable, Bool.and_eq_true, Bool.not_eq_true', List.isEmpty_eq_false_iff]
  exact ⟨Decimal.toText_ne_nil n, List.all_eq_true.mpr hall⟩

theorem printable_inetNtoa (a : UInt32) : JsonText.printable (inetNtoa a) = true := by
  refine List.all_eq_true.mpr fun c hc => ?_
  rcases mem_inetNtoa hc with rfl | rfl | h
  · rfl
  · rfl
  · simp only [Decimal.isDigit, decide_eq_true_eq] at h
    exact decide_eq_true ⟨by omega, by omega⟩

def getInt (j : Json) : Except Exn Int32 :=
  match j with
  | .num t =>
      match Decimal.stoi isSpace t with
      | some i => .ok (Int32.ofInt i)
      | none => .error (Json.typeError (ascii "number") j)
  | .bool b => .ok (if b then 1 else 0)
  | j => .error (Json.typeError (ascii "number") j)

theorem getInt_num (n : Int32) : getInt (.num (Decimal.toText n.toInt)) = .ok n := by
  have hle := n.le_toInt
  have hlt := n.toInt_lt
  simp only [getInt, Decimal.stoi_toText visible_isSpace]
  rw [if_pos ⟨by omega, by omega⟩]
  simp only [Int32.ofInt_toInt]

/-- S-NSSAIs as a number and a text. -/
def profileLib : ProfileLib where
  toJsonLib := JsonText.lib
  getInt := getInt
  inetNtoa := inetNtoa
  inetPton := inetPton
  trim := trim
  Snssai := Int32 × Str
  sst s := .num (Decimal.toText s.1.toInt)
  sd s := .str s.2
  snssai n text := (n, text)
  getInt_num := getInt_num
  trim_inetNtoa := trim_inetNtoa
  inetPton_inetNtoa := inetPton_inetNtoa
  snssai_read s := ⟨s.1, s.2, getInt_num s.1, rfl, rfl⟩
  serialises_arr items := by
    simp only [serialises_iff]
    exact writableItems_iff
  serialises_obj members := by
    simp only [serialises_iff]
    exact writableMembers_iff
  serialises_num n := serialises_iff.mpr (writable_toText n)
  serialises_printable s h := serialises_iff.mpr h
  serialises_inetNtoa a := serialises_iff.mpr (printable_inetNtoa a)

end Reference

/-- The address 127.0.0.1. -/
def addressProfile : SeppProfile Reference.profileLib := { ipv4Addresses := [16777343] }

/-- A profile with one address is read back with two. -/
theorem not_profileRoundTrips_address :
    SeppProfile.fromJson addressProfile.json {}
        = .ok { addressProfile with ipv4Addresses := [16777343, 16777343] }
      ∧ ¬ ProfileRoundTrips addressProfile := by
  have hread := fromJson_of_hasMembers (hasMembers_json addressProfile)
  refine ⟨hread, ?_⟩
  rintro ⟨j, q, hwritten, hq, hsame, -⟩
  obtain ⟨-, rfl⟩ := toJson_eq_ok.mp hwritten
  rw [hread] at hq
  obtain rfl := Except.ok.inj hq
  have hlist : [16777343, 16777343] = [(16777343 : UInt32)] :=
    congrArg NfProfile.ipv4Addresses hsame
  cases hlist

end Sepp
