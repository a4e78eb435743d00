import SscsPdfEmail.Domain.CaseData
import SscsPdfEmail.Domain.Time

/-!
# Services and Their Environment

A service call runs against a `World` (the case that CCD stores, the case data object the caller
passed in, what was uploaded and submitted so far) and an `Env` that fixes the answers of every
external system for the duration of the call.

`Call` is the exception-and-state monad `EStateM`: an exception leaves the effects made so far in
place, as a Java exception does.  `worldAfter` is the world that a call leaves, however it ends,
and `resultOf` what its caller gets; lemmas about both follow a call through its steps.

CCD replaces the whole case by the data of an accepted update and leaves it alone after a refused
one.  The handler `carryOn` is the one that all updates have in common: a `CcdException` is
logged, and the call returns nevertheless.
-/

namespace SscsPdfEmail.Service

open SscsPdfEmail.Domain

/-! ## External systems -/

structure IdamTokens where
  idamOauth2Token : String := ""
  serviceAuthorization : String := ""
deriving DecidableEq, Repr

/-- `ByteArrayMultipartFile`. -/
structure ByteArrayMultipartFile where
  content : Bytes
  name : Option String
  contentType : String
deriving DecidableEq, Repr

/-- `MediaType.APPLICATION_PDF`. -/
def applicationPdf : String := "application/pdf"

/-- A document in an `UploadResponse`: its self link and, from the secure store, its hash. -/
structure UploadedDocument where
  selfHref : String
  hashToken : Option String := none
deriving DecidableEq, Repr

structure UploadResponse where
  documents : List UploadedDocument
deriving DecidableEq, Repr

/-- What `PDFMergerUtility.mergeDocuments` leaves in the destination stream, and whether it
ended with an `IOException`. -/
structure MergeResult where
  written : Bytes
  failed : Bool
deriving DecidableEq, Repr

/-- The clock readings of one call, in the order in which they are made. -/
structure Clock where
  /-- `LocalDateTime.now()` in `storeDocument`. -/
  stored : LocalDateTime
  /-- `LocalDate.now()` in `getDocumentDateAdded`. -/
  compared : LocalDateTime
  /-- `LocalDateTime.now()` for the scanned date. -/
  scanned : LocalDateTime

/-- Answers of the external systems to one call.  Each call uploads at most one document and
makes at most one CCD update. -/
structure Env where
  secureDocStoreEnabled : Bool
  clock : Clock
  /-- `IdamService.getIdamTokens`. -/
  idamTokens : Except JavaException IdamTokens
  /-- `AuthTokenGenerator.generate`. -/
  serviceAuthorization : Except JavaException String
  /-- Reading the resource `/templates/sent_notification.html`. -/
  sentEmailTemplate : Except JavaException Bytes
  /-- `PDFServiceClient.generateFromHtml`. -/
  generateFromHtml : Bytes → List (String × Option String) → Except JavaException Bytes
  /-- `PDFMergerUtility.mergeDocuments` on the added sources. -/
  mergeDocuments : List Bytes → MergeResult
  /-- `DocumentUploadClientApi.upload`: authorisation, service token, user id, roles,
  classification and files. -/
  documentUpload : String → String → String → List String → String →
    List ByteArrayMultipartFile → Except JavaException UploadResponse
  /-- `CaseDocumentClient.uploadDocuments`: the two tokens, case type, jurisdiction and
  files. -/
  caseDocumentUpload : String → String → String → String →
    List ByteArrayMultipartFile → Except JavaException UploadResponse
  /-- Whether `CcdService.getByCaseId` finds the case. -/
  getByCaseId : Except JavaException Unit
  /-- Whether CCD accepts the update, or the exception it ends with. -/
  ccdUpdate : Except JavaException Unit

/-- Whether CCD accepts the update of this call. -/
def Env.accepts (env : Env) : Bool := env.ccdUpdate.toBool

/-- An environment in which every system answers and CCD accepts every update: documents
are addressed by file name, merged PDFs are concatenated. -/
def Env.answering : Env where
  secureDocStoreEnabled := false
  clock :=
    let noon := (LocalDateTime.parse "2021-01-22T12:00").get (by decide)
    ⟨noon, noon, noon⟩
  idamTokens := .ok {}
  serviceAuthorization := .ok ""
  sentEmailTemplate := .ok []
  generateFromHtml := fun template _ => .ok template
  mergeDocuments := fun pdfs => ⟨pdfs.flatten, false⟩
  documentUpload := fun _ _ _ _ _ files =>
    .ok ⟨files.map fun file => { selfHref := "/documents/" ++ file.name.getD "" }⟩
  caseDocumentUpload := fun _ _ _ _ files =>
    .ok ⟨files.map fun file => { selfHref := "/cases/documents/" ++ file.name.getD "" }⟩
  getByCaseId := .ok ()
  ccdUpdate := .ok ()

/-! ## World -/

inductive EventType where
  | notificationSent
  | stopBulkPrintForReasonableAdjustment
  | uploadDocument
deriving DecidableEq, Repr

/-- An update submitted to CCD. -/
structure CcdUpdate where
  caseId : Option ℤ
  eventType : EventType
  summary : String
  description : String
  caseData : SscsCaseData
  accepted : Bool
deriving DecidableEq, Repr

structure World where
  /-- The case as CCD stores it. -/
  caseData : SscsCaseData
  /-- The `SscsCaseData` object that the caller passed to the service. -/
  callerCaseData : SscsCaseData
  /-- The files that a document store accepted. -/
  uploads : List ByteArrayMultipartFile := []
  /-- The updates submitted to CCD, accepted or not. -/
  updates : List CcdUpdate := []
deriving DecidableEq, Repr

/-- Record files that a store accepted. -/
def World.addUploads (w : World) (files : List ByteArrayMultipartFile) : World :=
  { w with uploads := w.uploads ++ files }

@[simp] theorem World.addUploads_nil (w : World) : w.addUploads [] = w := by
  simp [World.addUploads]

@[simp] theorem World.addUploads_caseData (w : World) (files : List ByteArrayMultipartFile) :
    (w.addUploads files).caseData = w.caseData := rfl

@[simp] theorem World.addUploads_callerCaseData (w : World)
    (files : List ByteArrayMultipartFile) :
    (w.addUploads files).callerCaseData = w.callerCaseData := rfl

/-- An update reaches CCD: an accepted one replaces the whole stored case by the submitted
data, a refused one leaves it. -/
def World.addUpdate (w : World) (update : CcdUpdate) : World :=
  { w with
    caseData := if update.accepted then update.caseData else w.caseData
    updates := w.updates ++ [update] }

/-- A world with an empty case. -/
def World.sample : World where
  caseData := { ccdCaseId := some "1" }
  callerCaseData := { ccdCaseId := some "1" }

/-! ## Service calls -/

abbrev Call (α : Type) := EStateM JavaException World α

variable {α β : Type}

/-- Use the answer of an external system. -/
def fromExcept : Except JavaException α → Call α
  | .ok a => pure a
  | .error e => throw e

@[simp] theorem run_tryCatch (x : Call α) (handler : JavaException → Call α)
    (w : World) :
    EStateM.run (tryCatch x handler) w =
      match x.run w with
      | .ok a w' => .ok a w'
      | .error e w' => (handler e).run w' := by
  change EStateM.tryCatch x handler w = _
  unfold EStateM.tryCatch
  -- the handler starts in the world that the exception has left
  cases hx : x w with
  | ok a w' => simp only [EStateM.run, hx]
  | error e w' =>
    simp only [EStateM.run, hx]
    rfl

/-- A call that ends with the given result in the given world. -/
def finish (result : Except JavaException α) (w : World) :
    EStateM.Result JavaException World α :=
  match result with
  | .ok a => .ok a w
  | .error e => .error e w

@[simp] theorem finish_ok (a : α) (w : World) : finish (.ok a) w = .ok a w := rfl

@[simp] theorem finish_error (e : JavaException) (w : World) :
    (finish (.error e) w : EStateM.Result JavaException World α) = .error e w := rfl

theorem fromExcept_bind (x : Except JavaException α) (f : α → Except JavaException β) :
    fromExcept (x >>= f) = fromExcept x >>= fun a => fromExcept (f a) := by
  cases x <;> rfl

@[simp] theorem fromExcept_pure (a : α) : fromExcept (pure a) = pure a := rfl

@[simp] theorem run_fromExcept (result : Except JavaException α) (w : World) :
    (fromExcept result).run w = finish result w := by
  cases result <;> rfl

/-- The world after a call, whether it returned or raised an exception. -/
def worldAfter (x : Call α) (w : World) : World :=
  match x.run w with
  | .ok _ w' => w'
  | .error _ w' => w'

/-- The result of a call: the value it returned or the exception it raised. -/
def resultOf (x : Call α) (w : World) : Except JavaException α :=
  match x.run w with
  | .ok a _ => .ok a
  | .error e _ => .error e

theorem worldAfter_of_error {x : Call α} {w w' : World} {e : JavaException}
    (h : x.run w = .error e w') : worldAfter x w = w' := by
  simp only [worldAfter, h]

theorem worldAfter_bind (x : Call α) (f : α → Call β) (w : World) :
    worldAfter (x >>= f) w =
      match x.run w with
      | .ok a w' => worldAfter (f a) w'
      | .error _ w' => w' := by
  simp only [worldAfter, EStateM.run_bind]
  cases x.run w <;> rfl

theorem worldAfter_fromExcept_bind (result : Except JavaException α) (f : α → Call β)
    (w : World) :
    worldAfter (fromExcept result >>= f) w =
      match result with
      | .ok a => worldAfter (f a) w
      | .error _ => w := by
  rw [worldAfter_bind, run_fromExcept]
  cases result <;> rfl

theorem worldAfter_modify_bind (f : World → World) (k : PUnit → Call β) (w : World) :
    worldAfter (modify f >>= k) w = worldAfter (k ⟨⟩) (f w) := rfl

theorem worldAfter_get_bind (k : World → Call β) (w : World) :
    worldAfter (get >>= k) w = worldAfter (k w) w := rfl

/-- Reusing or dropping the value of a call does not change its effects. -/
theorem worldAfter_bind_pure (x : Call α) (f : α → β) (w : World) :
    worldAfter (x >>= fun a => pure (f a)) w = worldAfter x w := by
  rw [worldAfter_bind, worldAfter]
  cases x.run w <;> rfl

/-! ## CCD -/

/-- The handler of every update: a `CcdException` is logged and replaced by a default. -/
def carryOn (fallback : α) (update : Call α) : Call α :=
  tryCatch update fun
    | .ccd => return fallback
    | e => throw e

@[simp] theorem worldAfter_carryOn (fallback : α) (update : Call α) (w : World) :
    worldAfter (carryOn fallback update) w = worldAfter update w := by
  simp only [carryOn, worldAfter, run_tryCatch]
  -- whichever way the handler goes, it has no effect of its own
  cases update.run w with
  | ok a w' => rfl
  | error e w' => cases e <;> rfl

namespace Ccd

/-- The submission of a case for an event, the last step of every update. -/
def submit (env : Env) (caseId : Option ℤ) (eventType : EventType)
    (summary description : String) (caseData : SscsCaseData) : Call SscsCaseDetails := do
  modify (·.addUpdate ⟨caseId, eventType, summary, description, caseData, env.accepts⟩)
  fromExcept env.ccdUpdate
  return { data := some caseData }

/-- `CcdService.getByCaseId`: the current case data. -/
def getByCaseId (env : Env) (_caseId : Option ℤ) : Call SscsCaseData := do
  fromExcept env.getByCaseId
  return (← get).caseData

/-- `CcdService.updateCase`. -/
def updateCase (env : Env) (caseData : SscsCaseData) (caseId : Option ℤ)
    (eventType : EventType) (summary description : String) : Call SscsCaseDetails :=
  submit env caseId eventType summary description caseData

/-- `CcdService.updateCaseWithoutRetry`. -/
def updateCaseWithoutRetry (env : Env) (caseData : SscsCaseData) (caseId : Option ℤ)
    (eventType : EventType) (summary description : String) : Call SscsCaseDetails :=
  submit env caseId eventType summary description caseData

/-- `UpdateCcdCaseService.updateCaseV2`: the consumer is applied to a fresh copy of the
stored case. -/
def updateCaseV2 (env : Env) (caseId : Option ℤ) (eventType : EventType)
    (summary description : String) (consumer : SscsCaseData → SscsCaseData) :
    Call SscsCaseDetails := do
  let w ← get
  submit env caseId eventType summary description (consumer w.caseData)

/-- `UpdateCcdCaseService.updateCaseV2WithoutRetry`. -/
def updateCaseV2WithoutRetry (env : Env) (caseId : Option ℤ) (eventType : EventType)
    (summary description : String) (consumer : SscsCaseData → SscsCaseData) :
    Call SscsCaseDetails :=
  updateCaseV2 env caseId eventType summary description consumer

theorem worldAfter_submit (env : Env) (caseId : Option ℤ) (eventType : EventType)
    (summary description : String) (caseData : SscsCaseData) (w : World) :
    worldAfter (submit env caseId eventType summary description caseData) w =
      w.addUpdate ⟨caseId, eventType, summary, description, caseData, env.accepts⟩ := by
  rw [submit, worldAfter_modify_bind, worldAfter_fromExcept_bind]
  cases env.ccdUpdate <;> rfl

theorem worldAfter_updateCaseV2 (env : Env) (caseId : Option ℤ) (eventType : EventType)
    (summary description : String) (consumer : SscsCaseData → SscsCaseData) (w : World) :
    worldAfter (updateCaseV2 env caseId eventType summary description consumer) w =
      w.addUpdate
        ⟨caseId, eventType, summary, description, consumer w.caseData, env.accepts⟩ := by
  rw [updateCaseV2, worldAfter_get_bind]
  exact worldAfter_submit ..

end Ccd

end SscsPdfEmail.Service
