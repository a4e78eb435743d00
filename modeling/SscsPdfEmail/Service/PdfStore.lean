import SscsPdfEmail.Service.Basic

/-!
# Document Store Services

`EvidenceManagementService.upload`, `EvidenceManagementSecureDocStoreService.upload` and
`PdfStoreService`, which chooses between the two stores and turns a stored file into an
`SscsDocument`.

The two upload services translate an HTTP client error into `UnsupportedDocumentTypeException`;
`PdfStoreService` turns any other `RestClientException` into a null document and carries on.
Everything else is left to the caller, the exceptions of a Feign client among them.

What a call returns is a function of the environment and the parameters (`outcome`), and what it
uploads another (`uploadsOf`); `storeDocument_run` says that the code computes these two, and the
services that store documents are described by them.
-/

namespace SscsPdfEmail.Service

open SscsPdfEmail.Domain

/-! ## Upload services -/

/-- `EvidenceManagementService.S2S_TOKEN`. -/
def s2sToken : String := "oauth2Token"

/-- The handler of both upload services: client errors become
`UnsupportedDocumentTypeException`. -/
def translateClientError {α : Type} : Except JavaException α → Except JavaException α
  | .error .httpClientError => .error .unsupportedDocumentType
  | answer => answer

/-- Only failures are translated. -/
theorem translateClientError_eq_ok {α : Type} {answer : Except JavaException α} {a : α} :
    translateClientError answer = .ok a ↔ answer = .ok a := by
  cases answer with
  | ok b => rfl
  | error e => cases e <;> simp [translateClientError]

/-- `EvidenceManagementService.upload`. -/
def EvidenceManagementService.upload (env : Env) (files : List ByteArrayMultipartFile)
    (userId : String) : Except JavaException UploadResponse := do
  let serviceAuthorization ← env.serviceAuthorization
  translateClientError
    (env.documentUpload s2sToken serviceAuthorization userId ["caseworker", "citizen"]
      "RESTRICTED" files)

/-- `EvidenceManagementSecureDocStoreService.upload`. -/
def EvidenceManagementSecureDocStoreService.upload (env : Env)
    (files : List ByteArrayMultipartFile) (idamTokens : IdamTokens) :
    Except JavaException UploadResponse :=
  translateClientError
    (env.caseDocumentUpload idamTokens.idamOauth2Token idamTokens.serviceAuthorization
      "Benefit" "SSCS" files)

/-! ## Storing a document -/

/-- `UpdateDocParams` without its case data, which is the caller's object in `World`. -/
structure UpdateDocParams where
  fileName : Option String := none
  pdf : Bytes
  caseId : Option ℤ := none
  documentType : Option String := none
  documentTranslationStatus : Option SscsDocumentTranslationStatus := none
  otherPartyId : Option String := none
  otherPartyName : Option String := none
deriving DecidableEq, Repr

namespace PdfStoreService

/-- The file sent to the store. -/
def fileOf (params : UpdateDocParams) : ByteArrayMultipartFile :=
  { content := params.pdf, name := params.fileName, contentType := applicationPdf }

/-- The document recorded for a stored file; the two stores differ only in the link. -/
def documentOf (env : Env) (params : UpdateDocParams) (documentLink : DocumentLink) :
    SscsDocument :=
  { value := some
      { documentFileName := params.fileName
        documentDateAdded := some env.clock.stored.toLocalDate.formatIsoDate
        documentLink := some documentLink
        documentType := params.documentType
        documentTranslationStatus := params.documentTranslationStatus
        originalSenderOtherPartyId := params.otherPartyId
        originalSenderOtherPartyName := params.otherPartyName } }

/-- The upload to the plain store. -/
def upload (env : Env) (params : UpdateDocParams) : Except JavaException UploadResponse :=
  EvidenceManagementService.upload env [fileOf params] "sscs"

/-- The upload to the secure store, with fresh tokens. -/
def uploadSecure (env : Env) (params : UpdateDocParams) :
    Except JavaException UploadResponse := do
  let idamTokens ← env.idamTokens
  EvidenceManagementSecureDocStoreService.upload env [fileOf params] idamTokens

/-- The link to an uploaded document in the plain store. -/
def linkOf (document : UploadedDocument) : DocumentLink :=
  { documentUrl := some document.selfHref }

/-- The link to an uploaded document in the secure store. -/
def secureLinkOf (params : UpdateDocParams) (document : UploadedDocument) : DocumentLink :=
  { documentUrl := some document.selfHref
    documentBinaryUrl := some (document.selfHref ++ "/binary")
    documentFilename := params.fileName
    documentHash := document.hashToken }

/-- The body shared by both stores: upload, take the first document of the response, and
turn a `RestClientException` into null. -/
def storeWith (env : Env) (params : UpdateDocParams)
    (answer : Except JavaException UploadResponse)
    (link : UploadedDocument → DocumentLink) : Call (Option SscsDocument) :=
  tryCatch
    (do
      -- the store has the file as soon as it answers, whatever its answer says
      let response ← fromExcept answer
      modify fun w => { w with uploads := w.uploads ++ [fileOf params] }
      match response.documents with
      | document :: _ => return some (documentOf env params (link document))
      | [] => throw .indexOutOfBounds)
    -- a failure of the client is logged, and there is no document
    (fun e => if e.isRestClientException then return none else throw e)

/-- `PdfStoreService.storeSecureDocStore`. -/
def storeSecureDocStore (env : Env) (params : UpdateDocParams) : Call (Option SscsDocument) :=
  storeWith env params (uploadSecure env params) (secureLinkOf params)

/-- `PdfStoreService.storeDocument`. -/
def storeDocument (env : Env) (params : UpdateDocParams) : Call (Option SscsDocument) :=
  if env.secureDocStoreEnabled then storeSecureDocStore env params
  else storeWith env params (upload env params) linkOf

/-- `PdfStoreService.store(content, fileName, documentType)`. -/
def store (env : Env) (content : Bytes) (fileName documentType : String) :
    Call (List SscsDocument) := do
  let sscsDocument ← storeDocument env
    { pdf := content, fileName := some fileName, documentType := some documentType }
  match sscsDocument with
  | none => return []
  | some document => return [document]

/-! ## Outcome of a store -/

/-- The answer of the store that the configuration selects. -/
def answerOf (env : Env) (params : UpdateDocParams) : Except JavaException UploadResponse :=
  if env.secureDocStoreEnabled then uploadSecure env params else upload env params

/-- The link that the configuration selects. -/
def selectedLink (env : Env) (params : UpdateDocParams) (document : UploadedDocument) :
    DocumentLink :=
  if env.secureDocStoreEnabled then secureLinkOf params document else linkOf document

/-- What storing a document comes to: the stored document, null after a failure that is
carried on from, or the exception that reaches the caller. -/
def outcome (env : Env) (params : UpdateDocParams) :
    Except JavaException (Option SscsDocument) :=
  match answerOf env params with
  | .ok { documents := document :: _ } =>
    .ok (some (documentOf env params (selectedLink env params document)))
  | .ok { documents := [] } => .error .indexOutOfBounds
  | .error e => if e.isRestClientException then .ok none else .error e

/-- The uploads recorded by storing a document. -/
def uploadsOf (env : Env) (params : UpdateDocParams) : List ByteArrayMultipartFile :=
  match answerOf env params with
  | .ok _ => [fileOf params]
  | .error _ => []

theorem storeWith_run (env : Env) (params : UpdateDocParams)
    (answer : Except JavaException UploadResponse) (link : UploadedDocument → DocumentLink)
    (w : World) :
    (storeWith env params answer link).run w =
      match answer with
      | .ok { documents := document :: _ } =>
        .ok (some (documentOf env params (link document))) (w.addUploads [fileOf params])
      | .ok { documents := [] } => .error .indexOutOfBounds (w.addUploads [fileOf params])
      | .error e => if e.isRestClientException then .ok none w else .error e w := by
  match answer with
  | .ok { documents := document :: _ } => rfl
  | .ok { documents := [] } => rfl
  | .error e =>
    simp only [storeWith, run_tryCatch, EStateM.run_bind, run_fromExcept, finish_error]
    split <;> rfl

/-- The two back ends share one body; the configuration selects the answer and the link. -/
theorem storeDocument_eq_storeWith (env : Env) (params : UpdateDocParams) :
    storeDocument env params =
      storeWith env params (answerOf env params) (selectedLink env params) := by
  unfold storeDocument storeSecureDocStore answerOf selectedLink
  split <;> rfl

/-- **Storing a document**: the outcome is a function of the environment, and the only
effect is the recorded upload. -/
theorem storeDocument_run (env : Env) (params : UpdateDocParams) (w : World) :
    (storeDocument env params).run w =
      finish (outcome env params) (w.addUploads (uploadsOf env params)) := by
  rw [storeDocument_eq_storeWith, storeWith_run]
  unfold outcome uploadsOf
  -- an answer with a document, one without, or a failure
  match answerOf env params with
  | .ok { documents := document :: _ } => rfl
  | .ok { documents := [] } => rfl
  | .error e =>
    simp only [World.addUploads_nil]
    split <;> rfl

theorem resultOf_storeDocument (env : Env) (params : UpdateDocParams) (w : World) :
    resultOf (storeDocument env params) w = outcome env params := by
  unfold resultOf
  rw [storeDocument_run]
  cases outcome env params <;> rfl

/-! ## Failures -/

/-- A document comes from an answer of the store. -/
theorem answerOf_of_outcome_some {env : Env} {params : UpdateDocParams}
    {document : SscsDocument} (h : outcome env params = .ok (some document)) :
    ∃ response, answerOf env params = .ok response := by
  unfold outcome at h
  split at h
  · rename_i uploaded uploads hanswer
    exact ⟨_, hanswer⟩
  · cases h
  · split at h <;> cases h

/-- A missing document is a failure that was carried on from. -/
theorem answerOf_of_outcome_none {env : Env} {params : UpdateDocParams}
    (h : outcome env params = .ok none) :
    ∃ e, answerOf env params = .error e ∧ e.isRestClientException = true := by
  unfold outcome at h
  split at h
  · cases h
  · cases h
  · rename_i e he
    refine ⟨e, he, ?_⟩
    -- any other exception is handed on
    cases hrest : e.isRestClientException with
    | true => rfl
    | false =>
      rw [hrest] at h
      cases h

/-- The client of the selected store answers the upload in the given way. -/
def ClientAnswers (env : Env) (params : UpdateDocParams)
    (answer : Except JavaException UploadResponse) : Prop :=
  if env.secureDocStoreEnabled then
    ∃ idamTokens, env.idamTokens = .ok idamTokens ∧
      env.caseDocumentUpload idamTokens.idamOauth2Token idamTokens.serviceAuthorization
        "Benefit" "SSCS" [fileOf params] = answer
  else
    ∃ serviceAuthorization, env.serviceAuthorization = .ok serviceAuthorization ∧
      env.documentUpload s2sToken serviceAuthorization "sscs" ["caseworker", "citizen"]
        "RESTRICTED" [fileOf params] = answer

theorem answerOf_of_clientAnswers {env : Env} {params : UpdateDocParams}
    {answer : Except JavaException UploadResponse} (h : ClientAnswers env params answer) :
    answerOf env params = translateClientError answer := by
  unfold ClientAnswers at h
  unfold answerOf
  -- each store asks for its own tokens before it is called
  split at h
  · rename_i hsecure
    obtain ⟨idamTokens, htokens, hanswer⟩ := h
    rw [if_pos hsecure, uploadSecure, htokens, ← hanswer]
    rfl
  · rename_i hplain
    obtain ⟨serviceAuthorization, hauthorization, hanswer⟩ := h
    rw [if_neg hplain, upload, EvidenceManagementService.upload, hauthorization, ← hanswer]
    rfl

/-- A client error is an `UnsupportedDocumentTypeException` for the caller. -/
theorem outcome_of_clientError {env : Env} {params : UpdateDocParams}
    (h : ClientAnswers env params (.error .httpClientError)) :
    outcome env params = .error .unsupportedDocumentType := by
  unfold outcome
  rw [answerOf_of_clientAnswers h]
  rfl

end PdfStoreService

end SscsPdfEmail.Service
