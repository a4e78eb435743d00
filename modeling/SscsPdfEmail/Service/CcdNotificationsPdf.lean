import SscsPdfEmail.Service.PdfStore

/-!
# `CcdNotificationsPdfService`

Recording a sent notification in a case: the message is stored as a PDF, an entry with the link
to it is merged into one of the case's correspondence lists, and the case is submitted to CCD.

The operations come in two generations.  `mergeCorrespondenceIntoCcd` and
`mergeLetterCorrespondenceIntoCcd` submit a whole case data object that was read earlier; the
others hand CCD a consumer that is applied to a fresh copy.  Reasonable adjustments go to the
list of one party in a container of their own, and set the flag of the case by it.

The definitions keep the order of the steps in each operation, since an exception leaves the
steps before it done: where the tokens are fetched, when the case is read, and what the handler
of `CcdException` covers differ from one operation to the next.
-/

namespace SscsPdfEmail.Service.CcdNotificationsPdfService

open SscsPdfEmail.Domain

/-- `DEFAULT_SENDER_TYPE`. -/
def defaultSenderType : String := "Gov Notify"

/-! ## Building the entries -/

/-- `removeDwpFromStartOfEventName`; the bare name `dwp` has no fourth character. -/
def removeDwpFromStartOfEventName (eventType : String) : Except JavaException String :=
  if startsWith eventType "dwp" then do
    let first ← substring eventType 3 4
    let rest ← substring eventType 4 eventType.length
    return toLowerCase first ++ rest
  else return eventType

/-- The entry for a stored document: the supplied correspondence with its link replaced. -/
def withDocumentLink (correspondence : Correspondence) (document : SscsDocument) :
    Except JavaException Correspondence := do
  let value ← nonNull correspondence.value
  let documentDetails ← nonNull document.value
  return { correspondence with
    value := some { value with documentLink := documentDetails.documentLink } }

/-- `getCorrespondences(pdf, correspondence)`. -/
def getCorrespondencesOfPdf (env : Env) (pdf : Bytes) (correspondence : Correspondence) :
    Call (List Correspondence) := do
  let value ← fromExcept (nonNull correspondence.value)
  let eventType ← fromExcept (nonNull value.eventType)
  let eventName ← fromExcept (removeDwpFromStartOfEventName eventType)
  -- a missing date is the text `null` in the name
  let filename := eventName ++ " " ++ formatNullable value.sentOn ++ ".pdf"
  let correspondenceType ← fromExcept (nonNull value.correspondenceType)
  let pdfDocuments ← PdfStoreService.store env pdf filename correspondenceType.name
  -- one entry for the stored file, and none if it was not stored
  fromExcept (pdfDocuments.mapM (withDocumentLink correspondence))

/-- The placeholders of the e-mail template. -/
def placeholders (value : CorrespondenceDetails) : List (String × Option String) :=
  [("body", value.body), ("subject", value.subject), ("sentOn", value.sentOn),
    ("from", value.from), ("to", value.to)]

/-- `getSentEmailTemplate`, with its `IOException` wrapped by the caller. -/
def getSentEmailTemplate (env : Env) : Except JavaException Bytes :=
  match env.sentEmailTemplate with
  | .error .io => .error .pdfGeneration
  | answer => answer

/-- The PDF of an e-mail notification. -/
def generatePdf (env : Env) (correspondence : Correspondence) : Except JavaException Bytes := do
  let value ← nonNull correspondence.value
  let template ← getSentEmailTemplate env
  env.generateFromHtml template (placeholders value)

/-- `getCorrespondences(correspondence)`. -/
def getCorrespondences (env : Env) (correspondence : Correspondence) :
    Call (List Correspondence) := do
  let pdf ← fromExcept (generatePdf env correspondence)
  getCorrespondencesOfPdf env pdf correspondence

/-! ## Merging the entries into case data -/

variable (common : SscsCommon)

/-- The block that the four correspondence merges repeat: append the new entries to the
list, null read as empty, and sort it newest first. -/
def addCorrespondences (entries : List Correspondence) (caseData : SscsCaseData) :
    SscsCaseData :=
  let existingCorrespondence := caseData.correspondence.getD []
  let allCorrespondence := common.sortReverseOrder (existingCorrespondence ++ entries)
  { caseData with correspondence := some allCorrespondence }

/-- `buildCorrespondenceList`. -/
def buildCorrespondenceList (correspondences existingCorrespondence : List Correspondence) :
    List Correspondence :=
  common.sortReverseOrder (existingCorrespondence ++ correspondences)

/-- `buildCorrespondenceByParty`: one branch per party, each reading and writing the list of
that party in the existing container, or in a new one. -/
def buildCorrespondenceByParty (sscsCaseData : SscsCaseData)
    (correspondences : List Correspondence) (letterType : LetterType) :
    ReasonableAdjustmentsLetters :=
  let letters := sscsCaseData.reasonableAdjustmentsLetters.getD {}
  let existing := fun list : ReasonableAdjustmentsLetters → Option (List Correspondence) =>
    (sscsCaseData.reasonableAdjustmentsLetters.bind list).getD []
  -- the other parties keep their lists
  match letterType with
  | .appellant =>
    { letters with
      appellant := some (buildCorrespondenceList common correspondences (existing (·.appellant))) }
  | .appointee =>
    { letters with
      appointee := some (buildCorrespondenceList common correspondences (existing (·.appointee))) }
  | .representative =>
    { letters with
      representative :=
        some (buildCorrespondenceList common correspondences (existing (·.representative))) }
  | .jointParty =>
    { letters with
      jointParty :=
        some (buildCorrespondenceList common correspondences (existing (·.jointParty))) }
  | .otherParty =>
    { letters with
      otherParty :=
        some (buildCorrespondenceList common correspondences (existing (·.otherParty))) }

/-- The consumer of the reasonable-adjustment merges. -/
def addLetters (entries : List Correspondence) (letterType : LetterType)
    (caseData : SscsCaseData) : SscsCaseData :=
  common.updateReasonableAdjustmentsOutstanding
    { caseData with
      reasonableAdjustmentsLetters :=
        some (buildCorrespondenceByParty common caseData entries letterType) }

/-! ## Updating CCD -/

/-- `updateCaseInCcd`. -/
def updateCaseInCcd (env : Env) (caseData : SscsCaseData) (caseId : Option ℤ)
    (eventType : EventType) (description : String) : Call SscsCaseDetails :=
  carryOn {} (Ccd.updateCaseWithoutRetry env caseData caseId eventType
    "Notification sent" description)

/-- `updateCaseV2InCcd`. -/
def updateCaseV2InCcd (env : Env) (consumer : SscsCaseData → SscsCaseData)
    (caseId : Option ℤ) (eventType : EventType) (description : String) :
    Call SscsCaseDetails :=
  carryOn {} (Ccd.updateCaseV2WithoutRetry env caseId eventType
    "Notification sent" description consumer)

/-! ## E-mail notifications -/

/-- `mergeCorrespondenceIntoCcd`, on the case data object of the caller. -/
def mergeCorrespondenceIntoCcd (env : Env) (correspondence : Correspondence) :
    Call (Option SscsCaseData) := do
  let entries ← getCorrespondences env correspondence
  -- the object of the caller is changed before the update is submitted
  modify fun w => { w with
    callerCaseData := addCorrespondences common entries w.callerCaseData }
  let sscsCaseData := (← get).callerCaseData
  let caseId ← fromExcept (parseLong sscsCaseData.ccdCaseId)
  let _ ← fromExcept env.idamTokens
  let caseDetails ← updateCaseInCcd env sscsCaseData (some caseId) .notificationSent
    "Notification sent via Gov Notify"
  return caseDetails.data

/-- `mergeCorrespondenceIntoCcdV2`. -/
def mergeCorrespondenceIntoCcdV2 (env : Env) (caseId : Option ℤ)
    (correspondence : Correspondence) : Call Unit := do
  let updatedCorrespondences ← getCorrespondences env correspondence
  carryOn () do
    let _ ← fromExcept env.idamTokens
    let _ ← Ccd.updateCaseV2 env caseId .notificationSent "Notification sent"
      "Notification sent via Gov Notify" (addCorrespondences common updatedCorrespondences)

/-! ## Letters -/

/-- `String.format("Notification sent via %s", senderType)`. -/
def letterDescription (senderType : Option String) : String :=
  "Notification sent via " ++ formatNullable senderType

/-- `mergeLetterCorrespondenceIntoCcd(pdf, ccdCaseId, correspondence, senderType)`. -/
def mergeLetterCorrespondenceIntoCcd (env : Env) (pdf : Bytes) (ccdCaseId : Option ℤ)
    (correspondence : Correspondence) (senderType : Option String := some defaultSenderType) :
    Call (Option SscsCaseData) := do
  let correspondences ← getCorrespondencesOfPdf env pdf correspondence
  let _ ← fromExcept env.idamTokens
  -- the case is read before the event is opened, which `updateCaseInCcd` does
  let readCaseData ← Ccd.getByCaseId env ccdCaseId
  let sscsCaseData := addCorrespondences common correspondences readCaseData
  let caseId ← fromExcept (parseLong sscsCaseData.ccdCaseId)
  let caseDetails ← updateCaseInCcd env sscsCaseData (some caseId) .notificationSent
    (letterDescription senderType)
  return caseDetails.data

/-- `mergeLetterCorrespondenceIntoCcdV2(pdf, ccdCaseId, correspondence, senderType)`. -/
def mergeLetterCorrespondenceIntoCcdV2 (env : Env) (pdf : Bytes) (ccdCaseId : Option ℤ)
    (correspondence : Correspondence) (senderType : Option String := some defaultSenderType) :
    Call Unit := do
  let correspondences ← getCorrespondencesOfPdf env pdf correspondence
  carryOn () do
    let _ ← fromExcept env.idamTokens
    let _ ← Ccd.updateCaseV2 env ccdCaseId .notificationSent "Notification sent"
      (letterDescription senderType) (addCorrespondences common correspondences)

/-! ## Reasonable-adjustment letters -/

/-- `mergeReasonableAdjustmentsCorrespondenceIntoCcd(letterDocument, ...)`. -/
def mergeReasonableAdjustmentsCorrespondenceIntoCcd (env : Env) (letterDocument : Bytes)
    (ccdCaseId : Option ℤ) (correspondence : Correspondence) (letterType : LetterType) :
    Call (Option SscsCaseData) := do
  -- the tokens are fetched first, and outside of the handler
  let _ ← fromExcept env.idamTokens
  let correspondences ← getCorrespondencesOfPdf env letterDocument correspondence
  let caseDetails ← updateCaseV2InCcd env (addLetters common correspondences letterType)
    ccdCaseId .stopBulkPrintForReasonableAdjustment
    "Stopped for reasonable adjustment to be sent"
  return caseDetails.data

/-- `mergeReasonableAdjustmentsCorrespondenceIntoCcdV2(letterDocument, ...)`. -/
def mergeReasonableAdjustmentsCorrespondenceIntoCcdV2 (env : Env) (letterDocument : Bytes)
    (ccdCaseId : Option ℤ) (correspondence : Correspondence) (letterType : LetterType) :
    Call Unit := do
  let correspondenceList ← getCorrespondencesOfPdf env letterDocument correspondence
  -- here the tokens are fetched where `CcdException` is caught
  carryOn () do
    let _ ← fromExcept env.idamTokens
    let _ ← Ccd.updateCaseV2 env ccdCaseId .stopBulkPrintForReasonableAdjustment
      "Stop bulk print" "Stopped for reasonable adjustment to be sent"
      (addLetters common correspondenceList letterType)

/-- `getMergedDocument`: whatever the merger left in the stream, its `IOException` only
logged. -/
def getMergedDocument (env : Env) (pdfs : List Bytes) : Bytes :=
  (env.mergeDocuments pdfs).written

/-- `mergeReasonableAdjustmentsCorrespondenceIntoCcd(pdfs, ...)`. -/
def mergeReasonableAdjustmentsPdfsIntoCcd (env : Env) (pdfs : List Bytes)
    (ccdCaseId : Option ℤ) (correspondence : Correspondence) (letterType : LetterType) :
    Call (Option SscsCaseData) :=
  -- the source repeats the body of `getMergedDocument` here
  let letterDocument := (env.mergeDocuments pdfs).written
  mergeReasonableAdjustmentsCorrespondenceIntoCcd common env letterDocument ccdCaseId
    correspondence letterType

/-- `mergeReasonableAdjustmentsCorrespondenceIntoCcdV2(pdfs, ...)`. -/
def mergeReasonableAdjustmentsPdfsIntoCcdV2 (env : Env) (pdfs : List Bytes)
    (ccdCaseId : Option ℤ) (correspondence : Correspondence) (letterType : LetterType) :
    Call Unit :=
  let letterDocument := getMergedDocument env pdfs
  mergeReasonableAdjustmentsCorrespondenceIntoCcdV2 common env letterDocument ccdCaseId
    correspondence letterType

end SscsPdfEmail.Service.CcdNotificationsPdfService
