import SscsPdfEmail.Service.PdfStore

/-!
# `CcdPdfService`

Adding an uploaded PDF to a case: the file is stored, the stored document is recorded in the case
data object of the caller (statements among the scanned documents, everything else among the SSCS
documents), and the case is submitted to CCD.

Which list a document goes to is decided by the start of its file name.  A scanned document is
built from the stored one with the time of day added to its date, for which the clock is read a
second time.  `updateDoc` changes the object in place, after the store and before the update, so
the object keeps the document when CCD refuses the update.

`recordDocument` is `updateDoc` after the store: a function of the object that throws before it
has changed anything, or returns the changed object.
-/

namespace SscsPdfEmail.Service.CcdPdfService

open SscsPdfEmail.Domain

/-! ## File names -/

/-- `APPELLANT_STATEMENT`. -/
def appellantStatement : String := "Appellant statement "

/-- `REPRESENTATIVE_STATEMENT`. -/
def representativeStatement : String := "Representative statement "

/-- `OTHER_PARTY_STATEMENT`. -/
def otherPartyStatement : String := "Other party statement "

/-- `OTHER_PARTY_REPRESENTATIVE_STATEMENT`. -/
def otherPartyRepresentativeStatement : String := "Other party representative statement "

/-- The test of `updateCaseDataWithNewDoc` on the file name. -/
def isStatement (fileName : String) : Bool :=
  startsWith fileName appellantStatement || startsWith fileName representativeStatement ||
    startsWith fileName otherPartyStatement ||
    startsWith fileName otherPartyRepresentativeStatement

/-! ## Recording a document in the case data -/

/-- `getDocumentDateAdded`, for a date that is not null: the current time for a document
added today, the start of its day for any other. -/
def getDocumentDateAdded (clock : Clock) (documentDateAdded : String) :
    Except JavaException String := do
  let date ← parsed (LocalDate.parse documentDateAdded)
  if date = clock.compared.toLocalDate then return clock.scanned.formatIsoDateTime
  else return date.atStartOfDay.formatIsoDateTime

/-- The local `dateAdded` of `buildScannedDocListFromSscsDoc`. -/
def scannedDateOf (clock : Clock) (pdfDocDetails : SscsDocumentDetails) :
    Except JavaException String :=
  match pdfDocDetails.documentDateAdded with
  | some documentDateAdded => getDocumentDateAdded clock documentDateAdded
  | none => return clock.scanned.formatIsoDateTime

/-- The scanned document built for a stored one. -/
def scannedDocumentOf (pdfDocDetails : SscsDocumentDetails) (dateAdded : String) :
    ScannedDocument :=
  { value := some
      { fileName := pdfDocDetails.documentFileName
        url := pdfDocDetails.documentLink
        scannedDate := some dateAdded
        originalSenderOtherPartyId := pdfDocDetails.originalSenderOtherPartyId
        originalSenderOtherPartyName := pdfDocDetails.originalSenderOtherPartyName
        type := some "other" } }

/-- `buildScannedDocListFromSscsDoc`. -/
def buildScannedDocListFromSscsDoc (clock : Clock) (pdfDocuments : Option (List SscsDocument)) :
    Except JavaException (List ScannedDocument) :=
  match pdfDocuments with
  | none | some [] => return []
  | some (document :: _) => do
    let pdfDocDetails ← nonNull document.value
    let dateAdded ← scannedDateOf clock pdfDocDetails
    return [scannedDocumentOf pdfDocDetails dateAdded]

/-- `updateCaseDataWithNewDoc`. -/
def updateCaseDataWithNewDoc (clock : Clock) (fileName : Option String)
    (caseData : SscsCaseData) (pdfDocuments : Option (List SscsDocument)) :
    Except JavaException SscsCaseData := do
  -- `startsWith` is called on the name
  let fileName ← nonNull fileName
  if isStatement fileName then
    -- a statement is evidence that nobody has handled yet
    let scannedDocuments ← buildScannedDocListFromSscsDoc clock pdfDocuments
    return { caseData with
      scannedDocuments := some (caseData.scannedDocuments.getD [] ++ scannedDocuments)
      evidenceHandled := some YesNo.no.getValue }
  else
    return { caseData with
      sscsDocument := some (caseData.sscsDocument.getD [] ++ pdfDocuments.getD []) }

/-- The log line of `updateDoc`, which for a document that was not stored reads the benefit
type of the case. -/
def logStored (pdfDocument : Option SscsDocument) (caseData : SscsCaseData) :
    Except JavaException Unit :=
  match pdfDocument with
  | some _ => return ()
  | none => do
    let appeal ← nonNull caseData.appeal
    let _ ← nonNull appeal.benefitType

/-- `SscsDocumentTranslationStatus.TRANSLATION_REQUIRED` makes `updateDoc` set the flag of
the case. -/
def flagTranslation (params : UpdateDocParams) (caseData : SscsCaseData) : SscsCaseData :=
  if params.documentTranslationStatus = some .translationRequired then
    { caseData with translationWorkOutstanding := some "Yes" }
  else caseData

@[simp] theorem flagTranslation_scannedDocuments (params : UpdateDocParams)
    (caseData : SscsCaseData) :
    (flagTranslation params caseData).scannedDocuments = caseData.scannedDocuments := by
  unfold flagTranslation
  split <;> rfl

/-- What `updateDoc` makes of the case data once it has tried to store the file.  Every
exception comes before the first change. -/
def recordDocument (clock : Clock) (params : UpdateDocParams)
    (pdfDocument : Option SscsDocument) (caseData : SscsCaseData) :
    Except JavaException SscsCaseData := do
  logStored pdfDocument caseData
  match params.caseId with
  -- without a case id there is nothing to record
  | none => return caseData
  | some _ =>
    let withDocument ← updateCaseDataWithNewDoc clock params.fileName caseData
      (pdfDocument.map fun document => [document])
    return flagTranslation params withDocument

/-- `updateDoc`, on the case data object of the caller and with the `PdfStoreService` that
was injected. -/
def updateDoc (clock : Clock) (storeDocument : UpdateDocParams → Call (Option SscsDocument))
    (params : UpdateDocParams) : Call SscsCaseData := do
  let pdfDocument ← storeDocument params
  let caseData ← fromExcept (recordDocument clock params pdfDocument (← get).callerCaseData)
  modify fun w => { w with callerCaseData := caseData }
  return caseData

/-! ## Updating CCD -/

/-- `updateCaseInCcd`. -/
def updateCaseInCcd (env : Env) (caseData : SscsCaseData) (caseId : Option ℤ)
    (eventType : EventType) (description : String) : Call SscsCaseDetails :=
  carryOn {} (Ccd.updateCase env caseData caseId eventType "SSCS - upload document event"
    description)

/-- `mergeDocIntoCcd(updateDocParams, idamTokens)`. -/
def mergeDocIntoCcd (env : Env) (params : UpdateDocParams) : Call (Option SscsCaseData) := do
  let _ ← updateDoc env.clock (PdfStoreService.storeDocument env) params
  let caseDetails ← updateCaseInCcd env (← get).callerCaseData params.caseId .uploadDocument
    "Uploaded document into SSCS"
  return caseDetails.data

/-- `updateAndMerge`. -/
def updateAndMerge (env : Env) (fileName : Option String) (pdf : Bytes) (caseId : Option ℤ)
    (description : String) (documentType : Option String) : Call (Option SscsCaseData) := do
  let _ ← updateDoc env.clock (PdfStoreService.storeDocument env)
    { fileName := fileName, pdf := pdf, caseId := caseId, documentType := documentType }
  let caseDetails ← updateCaseInCcd env (← get).callerCaseData caseId .uploadDocument
    description
  return caseDetails.data

/-- `mergeDocIntoCcd(fileName, pdf, caseId, caseData, idamTokens)`. -/
def mergeDocIntoCcdUntyped (env : Env) (fileName : Option String) (pdf : Bytes)
    (caseId : Option ℤ) : Call (Option SscsCaseData) :=
  updateAndMerge env fileName pdf caseId "Uploaded document into SSCS" none

/-- `mergeDocIntoCcd(fileName, pdf, caseId, caseData, idamTokens, documentType)`. -/
def mergeDocIntoCcdTyped (env : Env) (fileName : Option String) (pdf : Bytes)
    (caseId : Option ℤ) (documentType : Option String) : Call (Option SscsCaseData) :=
  updateAndMerge env fileName pdf caseId "Uploaded document into SSCS" documentType

/-- `mergeDocIntoCcd(fileName, pdf, caseId, caseData, idamTokens, description,
documentType)`. -/
def mergeDocIntoCcdDescribed (env : Env) (fileName : Option String) (pdf : Bytes)
    (caseId : Option ℤ) (description : String) (documentType : Option String) :
    Call (Option SscsCaseData) :=
  updateAndMerge env fileName pdf caseId description documentType

end SscsPdfEmail.Service.CcdPdfService
