import Sepp.LineText
import Sepp.Base64
import Sepp.Decimal
import Sepp.Machine
import Sepp.Aead
import Sepp.Bytes
import Sepp.Json
import Sepp.JsonText
import Sepp.Http
import Sepp.Models
import Sepp.Jose
import Sepp.N32fForward
import Sepp.Reference
import Sepp.JoseLimits
import Sepp.N32fAad
import Sepp.N32fAadCut
import Sepp.N32cHandshake
import Sepp.SeppApp
import Sepp.NbiServer
import Sepp.PrinsTransport
import Sepp.AadInjection
import Sepp.PrinsAuthentication
import Sepp.TlsTransport
import Sepp.N32cAgreement
import Sepp.PartnerContexts
import Sepp.ContextRuns
import Sepp.N32cRuns
import Sepp.CapabilityAgreement
import Sepp.JoseHeader
import Sepp.FailClosed
import Sepp.TelescopicFqdn
import Sepp.TelescopicMapping
import Sepp.SbiServer
import Sepp.UrlDecode
import Sepp.PlmnQuery
import Sepp.FailedExchange
import Sepp.Heartbeat
import Sepp.SeppProfile
import Sepp.NbiResources
import Sepp.NbiRuns
import Sepp.NfServiceResource
import Sepp.SeppRuns
import Sepp.Calls
import Sepp.N32Network
import Sepp.NrfLifecycle
import Sepp.N32Recovery
import Sepp.N32Termination
import Sepp.N32fNetwork
