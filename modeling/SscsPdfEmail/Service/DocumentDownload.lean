import SscsPdfEmail.Domain.Uri
import SscsPdfEmail.Service.PdfStore

/-!
# Downloading from the Document Stores

`EvidenceManagementService.download`, `EvidenceManagementSecureDocStoreService.download` and
`PdfStoreService.download`, which asks the secure store first once the feature is enabled, and
the plain one if that fails.

Both stores are asked for the path of a link.  The secure store answers with the bytes, the plain
one with metadata, whose binary link has to be followed; an answer without a body counts as no
bytes.  A link that is no URI ends the download before any store is asked.  The fallback is taken
for the failures of a Feign client and for no others.

The clients are functions from a request to an answer, and the requests carry the tokens, roles
and user that the code sends along.
-/

namespace SscsPdfEmail.Service

open SscsPdfEmail.Domain

/-! ## Clients -/

/-- `Document`, as the plain store describes it: `links.binary.href`. -/
structure DocumentMetadata where
  binaryHref : Option String
deriving DecidableEq, Repr

/-- Answers of the download clients to one call.  The body of a response may be null. -/
structure DownloadClients where
  /-- `CaseDocumentClient.getDocumentBinary`: the two tokens and the path. -/
  getDocumentBinary : String → String → String → Except JavaException (Option Bytes)
  /-- `EvidenceMetadataDownloadClientApi.getDocumentMetadata`: authorisation, service token,
  user id, role and path. -/
  getDocumentMetadata : String → String → String → String → String →
    Except JavaException DocumentMetadata
  /-- `EvidenceDownloadClientApi.downloadBinary`, with the same arguments. -/
  downloadBinary : String → String → String → String → String →
    Except JavaException (Option Bytes)

/-- `uri.getPath().replaceFirst("/", "")`: what a store is asked for. -/
def requestPath (uri : Uri) : Except JavaException String := do
  let path ← nonNull uri.getPath
  return removeFirstSlash path

/-- The bytes of a response. -/
def bodyBytes (body : Option Bytes) : Bytes := body.getD []

/-! ## Download services -/

/-- `EvidenceManagementService.download`. -/
def EvidenceManagementService.download (env : Env) (clients : DownloadClients)
    (documentSelf : Uri) (userId : String) : Except JavaException Bytes := do
  let serviceAuthorization ← env.serviceAuthorization
  -- a client error of either request is translated, one of the token service is not
  translateClientError do
    let documentPath ← requestPath documentSelf
    let documentMetadata ← clients.getDocumentMetadata s2sToken serviceAuthorization userId
      "caseworker" documentPath
    -- the link may be missing from the metadata at any level
    let binaryHref ← nonNull documentMetadata.binaryHref
    let binaryUri ← Uri.create binaryHref
    let binaryPath ← requestPath binaryUri
    let body ← clients.downloadBinary s2sToken serviceAuthorization userId "caseworker"
      binaryPath
    return bodyBytes body

namespace EvidenceManagementSecureDocStoreService

/-- `EvidenceManagementSecureDocStoreService.downloadResource`. -/
def downloadResource (clients : DownloadClients) (selfHref : String) (idamTokens : IdamTokens) :
    Except JavaException (Option Bytes) := do
  let uri ← Uri.create selfHref
  let documentHref ← requestPath uri
  clients.getDocumentBinary idamTokens.idamOauth2Token idamTokens.serviceAuthorization
    documentHref

/-- `EvidenceManagementSecureDocStoreService.download`. -/
def download (clients : DownloadClients) (selfHref : String) (idamTokens : IdamTokens) :
    Except JavaException Bytes :=
  translateClientError do
    let body ← downloadResource clients selfHref idamTokens
    return bodyBytes body

end EvidenceManagementSecureDocStoreService

namespace PdfStoreService

/-- `DM_STORE_USER_ID`. -/
def dmStoreUserId : String := "sscs"

/-- The download from the plain store. -/
def downloadPlain (env : Env) (clients : DownloadClients) (href : String) :
    Except JavaException Bytes := do
  let uri ← Uri.create href
  EvidenceManagementService.download env clients uri dmStoreUserId

/-- The download from the secure store, with fresh tokens. -/
def downloadSecure (env : Env) (clients : DownloadClients) (href : String) :
    Except JavaException Bytes := do
  let idamTokens ← env.idamTokens
  EvidenceManagementSecureDocStoreService.download clients href idamTokens

/-- `PdfStoreService.download`. -/
def download (env : Env) (clients : DownloadClients) (href : String) :
    Except JavaException Bytes :=
  if env.secureDocStoreEnabled then
    match downloadSecure env clients href with
    -- only a `FeignException` sends the request on to the plain store
    | .error .feign => downloadPlain env clients href
    | answer => answer
  else downloadPlain env clients href

end PdfStoreService

end SscsPdfEmail.Service
