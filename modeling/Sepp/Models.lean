import Sepp.Json

/-!
# The OpenAPI message models

The generated model classes, with the fields the SEPP sets or reads; a
field that was not set is empty, or `none` where the code asks
`...IsSet()`. Their `to_json`/`from_json` are not part of this
repository: `JsonModel` carries the one thing the code relies on, that a
model written to JSON is an object from which the set fields are read
back. `fromJson` is `none` where `from_json` throws.
-/

namespace Sepp

structure JsonModel (α : Type) where
  toJson : α → Json
  fromJson : Json → Option α
  fromJson_toJson : ∀ m, fromJson (toJson m) = some m
  isObject_toJson : ∀ m, (toJson m).isObject = true

structure N32fContextInfo where
  n32fContextId : Str

/-- A JOSE message in flattened JSON serialisation. -/
structure FlatJweJson where
  rProtected : Str := []
  unprotected : Json := .null
  aad : Str := []
  ciphertext : Str := []
  iv : Str := []
  tag : Str := []

structure N32fReformattedReqMsg where
  reformattedData : FlatJweJson

structure N32fReformattedRspMsg where
  reformattedData : FlatJweJson

structure SecNegotiateReqData where
  sender : Str
  r3GppSbiTargetApiRootSupported : Option Bool
  intendedUsagePurpose : List Json

structure SecParamExchReqData where
  n32fContextId : Str
  sender : Str
  jweCipherSuiteList : Option (List Str)
  jwsCipherSuiteList : Option (List Str)
  protectionPolicyInfo : Option Json

structure SecParamExchRspData where
  n32fContextId : Str
  sender : Str
  selectedJweCipherSuite : Option Str
  selectedJwsCipherSuite : Option Str
  selProtectionPolicyInfo : Option Json

structure Models where
  contextInfo : JsonModel N32fContextInfo
  reqMsg : JsonModel N32fReformattedReqMsg
  rspMsg : JsonModel N32fReformattedRspMsg
  secNegotiateReq : JsonModel SecNegotiateReqData
  secParamExchReq : JsonModel SecParamExchReqData
  secParamExchRsp : JsonModel SecParamExchRspData
  /-- `SecNegotiateReqData::validate`. -/
  validateSecNegotiateReq : SecNegotiateReqData → Bool

/-- What is asked of the models beside their contents: two `validate`s, and
whether the `from_json` of a model that is not read any further throws. -/
structure Checks where
  contextInfo : N32fContextInfo → Bool
  reqMsg : N32fReformattedReqMsg → Bool
  secNegotiateRsp : Json → Bool

end Sepp
