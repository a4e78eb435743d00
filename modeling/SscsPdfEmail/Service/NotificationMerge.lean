import SscsPdfEmail.Service.CcdNotificationsPdf

/-!
# Notification Merges

The merge operations of `CcdNotificationsPdfService` as one type of calls, `Merge`: the
generation, the kind of notification, and the arguments that all of them take.

All share one specification (`Merge.worldAfter_call`): a call stores at most one document and
submits at most one update, the submitted data is the base data with the new entry merged in, and
the stored case changes exactly when CCD accepts it.  Where they differ is said by functions of
the call: whether it gets as far as its store (`stores`) and as far as CCD (`reachesCcd`), which
data it starts from (`base`), and what it leaves of the object of the caller (`callerAfter`).

Each operation is first brought into a normal form, its steps in order and its PDF as a
parameter, and then run step by step.
-/

namespace SscsPdfEmail.Service

open SscsPdfEmail.Domain
open CcdNotificationsPdfService

/-! ## The entry for a stored PDF -/

/-- The correspondence with another document link. -/
def setDocumentLink (c : Correspondence) (link : Option DocumentLink) : Correspondence :=
  { c with value := c.value.map fun value => { value with documentLink := link } }

/-- The entry that records a stored document. -/
def entryOf (c : Correspondence) (document : SscsDocument) : Correspondence :=
  setDocumentLink c (document.value.bind (·.documentLink))

/-- What `getCorrespondences` asks the store to keep. -/
def storeParamsOf (pdf : Bytes) (c : Correspondence) :
    Except JavaException UpdateDocParams := do
  let value ← nonNull c.value
  let eventType ← nonNull value.eventType
  let eventName ← removeDwpFromStartOfEventName eventType
  let correspondenceType ← nonNull value.correspondenceType
  return {
    pdf := pdf
    fileName := some (eventName ++ " " ++ formatNullable value.sentOn ++ ".pdf")
    documentType := some correspondenceType.name }

theorem value_isSome_of_storeParamsOf {pdf : Bytes} {c : Correspondence}
    {params : UpdateDocParams} (h : storeParamsOf pdf c = .ok params) : c.value.isSome := by
  cases hvalue : c.value with
  | some value => rfl
  | none =>
    simp only [storeParamsOf, hvalue] at h
    cases h

theorem withDocumentLink_ok {c : Correspondence} {document : SscsDocument}
    (hc : c.value.isSome) (hdocument : document.value.isSome) :
    withDocumentLink c document = .ok (entryOf c document) := by
  obtain ⟨value, hvalue⟩ := Option.isSome_iff_exists.mp hc
  obtain ⟨details, hdetails⟩ := Option.isSome_iff_exists.mp hdocument
  simp only [withDocumentLink, entryOf, setDocumentLink, hvalue, hdetails]
  rfl

theorem PdfStoreService.value_isSome_of_outcome {env : Env} {params : UpdateDocParams}
    {document : SscsDocument}
    (h : PdfStoreService.outcome env params = .ok (some document)) :
    document.value.isSome := by
  unfold PdfStoreService.outcome at h
  split at h
  · cases h
    rfl
  · cases h
  · split at h <;> cases h

/-- On what the store returns, building the entries cannot fail. -/
theorem mapM_withDocumentLink {env : Env} {params : UpdateDocParams} {c : Correspondence}
    (hc : c.value.isSome) {document : Option SscsDocument}
    (h : PdfStoreService.outcome env params = .ok document) :
    document.toList.mapM (withDocumentLink c) = .ok (document.toList.map (entryOf c)) := by
  cases document with
  | none => rfl
  | some document =>
    have hlink := withDocumentLink_ok hc (PdfStoreService.value_isSome_of_outcome h)
    simp only [Option.toList, List.mapM_cons, List.mapM_nil, hlink]
    rfl

/-! ## Storing the PDF of a correspondence -/

/-- The document stored for a correspondence: none after a failure that is carried on
from, or the exception that reaches the caller. -/
def storedDocumentOf (env : Env) (pdf : Bytes) (c : Correspondence) :
    Except JavaException (Option SscsDocument) := do
  let params ← storeParamsOf pdf c
  PdfStoreService.outcome env params

/-- The uploads made on the way. -/
def uploadsFor (env : Env) (pdf : Bytes) (c : Correspondence) : List ByteArrayMultipartFile :=
  match storeParamsOf pdf c with
  | .ok params => PdfStoreService.uploadsOf env params
  | .error _ => []

/-- `getCorrespondences` in terms of the document store alone. -/
theorem getCorrespondencesOfPdf_eq (env : Env) (pdf : Bytes) (c : Correspondence) :
    getCorrespondencesOfPdf env pdf c = (do
      let params ← fromExcept (storeParamsOf pdf c)
      let document ← PdfStoreService.storeDocument env params
      fromExcept (document.toList.mapM (withDocumentLink c))) := by
  simp only [getCorrespondencesOfPdf, storeParamsOf, PdfStoreService.store, fromExcept_bind,
    fromExcept_pure, bind_assoc, pure_bind]
  congr! with value eventType eventName correspondenceType document
  cases document <;> rfl

theorem getCorrespondencesOfPdf_run (env : Env) (pdf : Bytes) (c : Correspondence)
    (w : World) :
    (getCorrespondencesOfPdf env pdf c).run w =
      finish ((storedDocumentOf env pdf c).map fun document => document.toList.map (entryOf c))
        (w.addUploads (uploadsFor env pdf c)) := by
  rw [getCorrespondencesOfPdf_eq, EStateM.run_bind, run_fromExcept]
  unfold storedDocumentOf uploadsFor
  -- a correspondence without a value, an event or a type ends the call before anything is
  -- stored
  cases hparams : storeParamsOf pdf c with
  | error e =>
    simp only [finish_error, World.addUploads_nil]
    rfl
  | ok params =>
    have hc := value_isSome_of_storeParamsOf hparams
    simp only [finish_ok, EStateM.run_bind, PdfStoreService.storeDocument_run]
    show _ = finish ((PdfStoreService.outcome env params).map _) _
    -- then the store decides
    cases houtcome : PdfStoreService.outcome env params with
    | error e => rfl
    | ok document =>
      simp only [finish_ok, run_fromExcept, mapM_withDocumentLink hc houtcome]
      rfl

theorem getCorrespondences_run (env : Env) (c : Correspondence) (w : World) :
    (getCorrespondences env c).run w =
      match generatePdf env c with
      | .ok pdf => (getCorrespondencesOfPdf env pdf c).run w
      | .error e => .error e w := by
  rw [getCorrespondences, EStateM.run_bind, run_fromExcept]
  cases generatePdf env c <;> rfl

/-! ## Updates and their handlers -/

/-- The update of the second generation, in which the tokens are fetched under the
handler. -/
theorem worldAfter_updateV2 (env : Env) (caseId : Option ℤ) (eventType : EventType)
    (summary description : String) (consumer : SscsCaseData → SscsCaseData) (w : World) :
    worldAfter
      (carryOn () do
        let _ ← fromExcept env.idamTokens
        let _ ← Ccd.updateCaseV2 env caseId eventType summary description consumer) w =
      if env.idamTokens.toBool then
        w.addUpdate ⟨caseId, eventType, summary, description, consumer w.caseData, env.accepts⟩
      else w := by
  rw [worldAfter_carryOn, worldAfter_fromExcept_bind]
  -- without tokens nothing is submitted
  cases env.idamTokens with
  | error e => rfl
  | ok tokens =>
    rw [worldAfter_bind_pure]
    exact Ccd.worldAfter_updateCaseV2 ..

theorem worldAfter_updateCaseInCcd (env : Env) (caseData : SscsCaseData) (caseId : Option ℤ)
    (eventType : EventType) (description : String) (w : World) :
    worldAfter (updateCaseInCcd env caseData caseId eventType description) w =
      w.addUpdate
        ⟨caseId, eventType, "Notification sent", description, caseData, env.accepts⟩ := by
  rw [updateCaseInCcd, worldAfter_carryOn]
  exact Ccd.worldAfter_submit ..

theorem worldAfter_updateCaseV2InCcd (env : Env) (consumer : SscsCaseData → SscsCaseData)
    (caseId : Option ℤ) (eventType : EventType) (description : String) (w : World) :
    worldAfter (updateCaseV2InCcd env consumer caseId eventType description) w =
      w.addUpdate
        ⟨caseId, eventType, "Notification sent", description, consumer w.caseData,
          env.accepts⟩ := by
  rw [updateCaseV2InCcd, worldAfter_carryOn]
  exact Ccd.worldAfter_updateCaseV2 ..

/-! ## The merge operations -/

/-- The two generations of an operation. -/
inductive Generation where
  | v1
  | v2
deriving DecidableEq, Repr

/-- What a merge records: an e-mail, a letter, or a letter kept for reasonable
adjustment, the last one also as a list of PDFs to be merged first. -/
inductive Notification where
  | email
  | letter (pdf : Bytes) (senderType : Option String)
  | reasonableAdjustment (letterDocument : Bytes) (letterType : LetterType)
  | reasonableAdjustmentPdfs (pdfs : List Bytes) (letterType : LetterType)
deriving DecidableEq, Repr

/-- A call of a merge operation, with the answers that the external systems give to it. -/
structure Merge where
  env : Env
  generation : Generation
  notification : Notification
  caseId : Option ℤ
  correspondence : Correspondence

namespace Merge

variable (common : SscsCommon) (m : Merge)

/-- The operation that a merge calls, its return value dropped. -/
def call : Call Unit :=
  -- one line for each operation of the service
  match m.notification, m.generation with
  | .email, .v1 => do
    let _ ← mergeCorrespondenceIntoCcd common m.env m.correspondence
  | .email, .v2 => mergeCorrespondenceIntoCcdV2 common m.env m.caseId m.correspondence
  | .letter pdf senderType, .v1 => do
    let _ ← mergeLetterCorrespondenceIntoCcd common m.env pdf m.caseId m.correspondence
      senderType
  | .letter pdf senderType, .v2 =>
    mergeLetterCorrespondenceIntoCcdV2 common m.env pdf m.caseId m.correspondence senderType
  | .reasonableAdjustment letterDocument letterType, .v1 => do
    let _ ← mergeReasonableAdjustmentsCorrespondenceIntoCcd common m.env letterDocument
      m.caseId m.correspondence letterType
  | .reasonableAdjustment letterDocument letterType, .v2 =>
    mergeReasonableAdjustmentsCorrespondenceIntoCcdV2 common m.env letterDocument m.caseId
      m.correspondence letterType
  | .reasonableAdjustmentPdfs pdfs letterType, .v1 => do
    let _ ← mergeReasonableAdjustmentsPdfsIntoCcd common m.env pdfs m.caseId
      m.correspondence letterType
  | .reasonableAdjustmentPdfs pdfs letterType, .v2 =>
    mergeReasonableAdjustmentsPdfsIntoCcdV2 common m.env pdfs m.caseId m.correspondence
      letterType

/-- The party whose letters the merge adds to; none when it adds to the correspondence
list. -/
def letterType : Option LetterType :=
  match m.notification with
  | .email | .letter _ _ => none
  | .reasonableAdjustment _ letterType | .reasonableAdjustmentPdfs _ letterType =>
    some letterType

/-- The PDF that is stored. -/
def pdf : Except JavaException Bytes :=
  match m.notification with
  | .email => generatePdf m.env m.correspondence
  | .letter pdf _ | .reasonableAdjustment pdf _ => .ok pdf
  | .reasonableAdjustmentPdfs pdfs _ => .ok (getMergedDocument m.env pdfs)

/-- The document stored by the merge. -/
def storedDocument : Except JavaException (Option SscsDocument) := do
  let pdf ← m.pdf
  storedDocumentOf m.env pdf m.correspondence

/-- The entries to be merged: one for a stored document, none after a failure that is
carried on from. -/
def entries : Except JavaException (List Correspondence) :=
  m.storedDocument.map fun document => document.toList.map (entryOf m.correspondence)

/-- The merge of entries into case data. -/
def apply (entries : List Correspondence) : SscsCaseData → SscsCaseData :=
  match m.letterType with
  | none => addCorrespondences common entries
  | some letterType => addLetters common entries letterType

/-- The data the entries are merged into: the caller's object for the first generation of
the e-mail merge, the stored case for all others. -/
def base (w : World) : SscsCaseData :=
  match m.notification, m.generation with
  | .email, .v1 => w.callerCaseData
  | _, _ => w.caseData

/-- Whether a merge with its entries at hand gets as far as submitting an update. -/
def reachesCcd (w : World) : Bool :=
  m.env.idamTokens.toBool &&
    match m.notification, m.generation with
    | .email, .v1 => (parseLong w.callerCaseData.ccdCaseId).toBool
    | .letter _ _, .v1 =>
      m.env.getByCaseId.toBool && (parseLong w.caseData.ccdCaseId).toBool
    | _, _ => true

/-- The event of the update. -/
def eventType : EventType :=
  match m.letterType with
  | none => .notificationSent
  | some _ => .stopBulkPrintForReasonableAdjustment

/-! ### Storing the PDF -/

/-- The first part of every merge: store the PDF and build the entries. -/
def entriesCall : Call (List Correspondence) :=
  match m.notification with
  | .email => getCorrespondences m.env m.correspondence
  | .letter pdf _ | .reasonableAdjustment pdf _ =>
    getCorrespondencesOfPdf m.env pdf m.correspondence
  | .reasonableAdjustmentPdfs pdfs _ =>
    getCorrespondencesOfPdf m.env (getMergedDocument m.env pdfs) m.correspondence

/-- The uploads of that part. -/
def entriesUploads : List ByteArrayMultipartFile :=
  match m.pdf with
  | .ok pdf => uploadsFor m.env pdf m.correspondence
  | .error _ => []

theorem entriesCall_run (w : World) :
    m.entriesCall.run w = finish m.entries (w.addUploads m.entriesUploads) := by
  have hpdf : m.entriesCall.run w =
      match m.pdf with
      | .ok pdf => (getCorrespondencesOfPdf m.env pdf m.correspondence).run w
      | .error e => .error e w := by
    unfold entriesCall pdf
    cases m.notification with
    | email => exact getCorrespondences_run m.env m.correspondence w
    | letter pdf senderType => rfl
    | reasonableAdjustment letterDocument letterType => rfl
    | reasonableAdjustmentPdfs pdfs letterType => rfl
  rw [hpdf]
  -- without a PDF nothing is stored
  unfold entries storedDocument entriesUploads
  cases m.pdf with
  | error e =>
    rw [World.addUploads_nil]
    rfl
  | ok pdf => exact getCorrespondencesOfPdf_run m.env pdf m.correspondence w

/-- Reasonable adjustments of the first generation fetch their tokens before they store
anything. -/
def stores : Bool :=
  m.generation = .v2 || m.letterType.isNone || m.env.idamTokens.toBool

/-- The uploads of a merge. -/
def uploads : List ByteArrayMultipartFile := if m.stores then m.entriesUploads else []

/-- The case data object of the caller after the call: the e-mail merge of the first
generation changes it in place, whatever becomes of the update. -/
def callerAfter (w : World) : SscsCaseData :=
  match m.notification, m.generation, m.entries with
  | .email, .v1, .ok entries => addCorrespondences common entries w.callerCaseData
  | _, _, _ => w.callerCaseData

/-- The world of a merge when it has come to the update. -/
def prepared (w : World) : World :=
  { w with callerCaseData := m.callerAfter common w }.addUploads m.uploads

/-- Whether the merge submits an update. -/
def submits (w : World) : Bool := m.entries.toBool && m.reachesCcd w

/-- The update that a merge submits, as far as it matters for the case. -/
structure IsUpdate (w : World) (update : CcdUpdate) : Prop where
  caseData : ∃ entries, m.entries = .ok entries ∧
    update.caseData = m.apply common entries (m.base w)
  eventType : update.eventType = m.eventType
  accepted : update.accepted = m.env.accepts

/-- What a merge does to the world. -/
def Outcome (w w' : World) : Prop :=
  m.submits w = false ∧ w' = m.prepared common w ∨
    m.submits w = true ∧
      ∃ update, m.IsUpdate common w update ∧ w' = (m.prepared common w).addUpdate update

/-! ### Reasonable adjustments -/

section Party

variable {m} {party : LetterType} (hparty : m.letterType = some party)

include hparty

theorem not_email_of_party : m.notification ≠ .email := by
  intro hn
  simp [letterType, hn] at hparty

theorem not_letter_of_party (pdf : Bytes) (senderType : Option String) :
    m.notification ≠ .letter pdf senderType := by
  intro hn
  simp [letterType, hn] at hparty

theorem base_of_party (w : World) : m.base w = w.caseData := by
  unfold base
  split
  · exact absurd ‹_› (not_email_of_party hparty)
  · rfl

theorem callerAfter_of_party (w : World) : m.callerAfter common w = w.callerCaseData := by
  unfold callerAfter
  split
  · exact absurd ‹_› (not_email_of_party hparty)
  · rfl

theorem reachesCcd_of_party (w : World) : m.reachesCcd w = m.env.idamTokens.toBool := by
  unfold reachesCcd
  split
  · exact absurd ‹_› (not_email_of_party hparty)
  · exact absurd ‹_› (not_letter_of_party hparty _ _)
  · exact Bool.and_true _

end Party

/-! ### The shared specification -/

/-- The second generation: whatever is merged, the tokens are fetched and the consumer is
applied under one handler. -/
theorem call_of_v2 (h : m.generation = .v2) :
    ∃ summary description, m.call common = (do
      let entries ← m.entriesCall
      carryOn () do
        let _ ← fromExcept m.env.idamTokens
        let _ ← Ccd.updateCaseV2 m.env m.caseId m.eventType summary description
          (m.apply common entries)) := by
  obtain ⟨env, generation, notification, caseId, c⟩ := m
  obtain rfl : generation = .v2 := h
  cases notification <;> exact ⟨_, _, rfl⟩

theorem outcome_of_v2 (h : m.generation = .v2) (w : World) :
    m.Outcome common w (worldAfter (m.call common) w) := by
  obtain ⟨summary, description, hcall⟩ := m.call_of_v2 common h
  have hprepared : m.prepared common w = w.addUploads m.entriesUploads := by
    simp [prepared, callerAfter, uploads, stores, h]
  have hsubmits : m.submits w = (m.entries.toBool && m.env.idamTokens.toBool) := by
    simp [submits, reachesCcd, h]
  rw [hcall, worldAfter_bind, entriesCall_run]
  unfold Outcome
  rw [hprepared, hsubmits]
  -- the merge ends early without entries or tokens, and submits otherwise
  cases hentries : m.entries with
  | error e => exact Or.inl ⟨rfl, rfl⟩
  | ok entries =>
    simp only [finish_ok, worldAfter_updateV2]
    cases m.env.idamTokens with
    | error e => exact Or.inl ⟨rfl, rfl⟩
    | ok tokens =>
      refine Or.inr ⟨rfl, _, ⟨⟨entries, hentries, ?_⟩, rfl, rfl⟩, rfl⟩
      simp [base, h]

/-- The e-mail merge of the first generation works on the caller's object. -/
theorem call_of_emailV1 (hg : m.generation = .v1) (hn : m.notification = .email) :
    m.call common = (do
      let entries ← m.entriesCall
      modify fun w => { w with
        callerCaseData := addCorrespondences common entries w.callerCaseData }
      let sscsCaseData := (← get).callerCaseData
      let caseId ← fromExcept (parseLong sscsCaseData.ccdCaseId)
      let _ ← fromExcept m.env.idamTokens
      let _ ← updateCaseInCcd m.env sscsCaseData (some caseId) .notificationSent
        "Notification sent via Gov Notify") := by
  -- the code with its steps made explicit
  simp only [call, hn, hg, mergeCorrespondenceIntoCcd, entriesCall, bind_assoc, pure_bind]

theorem outcome_of_emailV1 (hg : m.generation = .v1) (hn : m.notification = .email)
    (w : World) : m.Outcome common w (worldAfter (m.call common) w) := by
  have huploads : m.uploads = m.entriesUploads := by simp [uploads, stores, letterType, hn]
  rw [m.call_of_emailV1 common hg hn, worldAfter_bind, entriesCall_run]
  simp only [Outcome, prepared, submits, reachesCcd, callerAfter, huploads, hn, hg]
  cases hentries : m.entries with
  | error e => exact Or.inl ⟨rfl, rfl⟩
  | ok entries =>
    simp only [finish_ok, worldAfter_modify_bind, worldAfter_get_bind,
      worldAfter_fromExcept_bind, worldAfter_bind_pure, worldAfter_updateCaseInCcd]
    have hid : (addCorrespondences common entries w.callerCaseData).ccdCaseId =
      w.callerCaseData.ccdCaseId := rfl
    -- the id is parsed before the tokens are fetched
    rw [World.addUploads_callerCaseData, hid]
    cases parseLong w.callerCaseData.ccdCaseId with
    | error e => exact Or.inl ⟨by simp [Except.toBool], rfl⟩
    | ok id =>
      cases m.env.idamTokens with
      | error e => exact Or.inl ⟨rfl, rfl⟩
      | ok tokens =>
        refine Or.inr ⟨rfl, _, ⟨⟨entries, hentries, ?_⟩, ?_, rfl⟩, rfl⟩
        · simp [apply, base, letterType, hn, hg]
        · simp [Merge.eventType, letterType, hn]

/-- The letter merge of the first generation reads the case only after it has stored the
PDF. -/
theorem call_of_letterV1 (hg : m.generation = .v1) {pdf : Bytes}
    {senderType : Option String} (hn : m.notification = .letter pdf senderType) :
    m.call common = (do
      let entries ← m.entriesCall
      let _ ← fromExcept m.env.idamTokens
      fromExcept m.env.getByCaseId
      let sscsCaseData := addCorrespondences common entries (← get).caseData
      let caseId ← fromExcept (parseLong sscsCaseData.ccdCaseId)
      let _ ← updateCaseInCcd m.env sscsCaseData (some caseId) .notificationSent
        (letterDescription senderType)) := by
  -- the case is read between the tokens and the update
  simp only [call, hn, hg, mergeLetterCorrespondenceIntoCcd, Ccd.getByCaseId, entriesCall,
    bind_assoc, pure_bind]

theorem outcome_of_letterV1 (hg : m.generation = .v1) {pdf : Bytes}
    {senderType : Option String} (hn : m.notification = .letter pdf senderType)
    (w : World) : m.Outcome common w (worldAfter (m.call common) w) := by
  have huploads : m.uploads = m.entriesUploads := by simp [uploads, stores, letterType, hn]
  rw [m.call_of_letterV1 common hg hn, worldAfter_bind, entriesCall_run]
  simp only [Outcome, prepared, submits, reachesCcd, callerAfter, huploads, hn, hg]
  cases hentries : m.entries with
  | error e => exact Or.inl ⟨rfl, rfl⟩
  | ok entries =>
    simp only [finish_ok, worldAfter_get_bind, worldAfter_fromExcept_bind,
      worldAfter_bind_pure, worldAfter_updateCaseInCcd]
    have hid : (addCorrespondences common entries w.caseData).ccdCaseId =
      w.caseData.ccdCaseId := rfl
    -- here the tokens come first, then the read, and the id of the case that was read
    rw [World.addUploads_caseData, hid]
    cases m.env.idamTokens with
    | error e => exact Or.inl ⟨rfl, rfl⟩
    | ok tokens =>
      cases m.env.getByCaseId with
      | error e => exact Or.inl ⟨rfl, rfl⟩
      | ok found =>
        cases parseLong w.caseData.ccdCaseId with
        | error e => exact Or.inl ⟨rfl, rfl⟩
        | ok id =>
          refine Or.inr ⟨rfl, _, ⟨⟨entries, hentries, ?_⟩, ?_, rfl⟩, rfl⟩
          · simp [apply, base, letterType, hn, hg]
          · simp [Merge.eventType, letterType, hn]

/-- The reasonable-adjustment merges of the first generation fetch their tokens first. -/
theorem call_of_reasonableAdjustmentV1 (hg : m.generation = .v1) {party : LetterType}
    (hparty : m.letterType = some party) :
    m.call common = (do
      let _ ← fromExcept m.env.idamTokens
      let entries ← m.entriesCall
      let _ ← updateCaseV2InCcd m.env (addLetters common entries party) m.caseId
        .stopBulkPrintForReasonableAdjustment
        "Stopped for reasonable adjustment to be sent") := by
  unfold letterType at hparty
  unfold call entriesCall
  -- two overloads, for one PDF and for several, which are merged first
  cases hn : m.notification with
  | email => simp [hn] at hparty
  | letter pdf senderType => simp [hn] at hparty
  | reasonableAdjustment letterDocument letterType =>
    obtain rfl : letterType = party := by simpa [hn] using hparty
    simp only [hg, mergeReasonableAdjustmentsCorrespondenceIntoCcd, bind_assoc, pure_bind]
  | reasonableAdjustmentPdfs pdfs letterType =>
    obtain rfl : letterType = party := by simpa [hn] using hparty
    simp only [hg, mergeReasonableAdjustmentsPdfsIntoCcd, getMergedDocument,
      mergeReasonableAdjustmentsCorrespondenceIntoCcd, bind_assoc, pure_bind]

theorem outcome_of_reasonableAdjustmentV1 (hg : m.generation = .v1) {party : LetterType}
    (hparty : m.letterType = some party) (w : World) :
    m.Outcome common w (worldAfter (m.call common) w) := by
  rw [m.call_of_reasonableAdjustmentV1 common hg hparty, worldAfter_fromExcept_bind]
  simp only [Outcome, prepared, submits, reachesCcd_of_party hparty,
    callerAfter_of_party common hparty, uploads, stores, hparty, hg]
  -- here the tokens come before the PDF
  cases m.env.idamTokens with
  | error e => exact Or.inl ⟨by simp [Except.toBool], by simp [Except.toBool]⟩
  | ok tokens =>
    dsimp only
    rw [worldAfter_bind, entriesCall_run]
    cases hentries : m.entries with
    | error e => exact Or.inl ⟨rfl, rfl⟩
    | ok entries =>
      simp only [finish_ok, worldAfter_bind_pure, worldAfter_updateCaseV2InCcd]
      -- the update holds the fresh case with the letters added
      refine Or.inr ⟨rfl, _, ⟨⟨entries, hentries, ?_⟩, ?_, rfl⟩, rfl⟩
      · simp [apply, base_of_party hparty, hparty]
      · simp [Merge.eventType, hparty]

/-- **Merge specification**: each of the merge operations stores its PDF, builds the
entries, and submits at most one update, which is the base data with the entries merged
in. -/
theorem worldAfter_call (w : World) : m.Outcome common w (worldAfter (m.call common) w) := by
  -- all of the second generation at once, and the first operation by operation
  cases hg : m.generation with
  | v2 => exact m.outcome_of_v2 common hg w
  | v1 =>
    cases hn : m.notification with
    | email => exact m.outcome_of_emailV1 common hg hn w
    | letter pdf senderType => exact m.outcome_of_letterV1 common hg hn w
    | reasonableAdjustment letterDocument party =>
      have hparty : m.letterType = some party := by simp [letterType, hn]
      exact m.outcome_of_reasonableAdjustmentV1 common hg hparty w
    | reasonableAdjustmentPdfs pdfs party =>
      have hparty : m.letterType = some party := by simp [letterType, hn]
      exact m.outcome_of_reasonableAdjustmentV1 common hg hparty w

/-- Once it may store its PDF, a merge begins with building the entries. -/
theorem call_starts (hstores : m.stores = true) :
    ∃ rest : List Correspondence → Call Unit,
      ∀ w, (m.call common).run w = (m.entriesCall >>= rest).run w := by
  cases hg : m.generation with
  | v2 =>
    obtain ⟨summary, description, hcall⟩ := m.call_of_v2 common hg
    exact ⟨_, fun w => by rw [hcall]⟩
  | v1 =>
    -- only a first-generation reasonable adjustment does anything before it stores
    cases hparty : m.letterType with
    | none =>
      cases hn : m.notification with
      | email => exact ⟨_, fun w => by rw [m.call_of_emailV1 common hg hn]⟩
      | letter pdf senderType => exact ⟨_, fun w => by rw [m.call_of_letterV1 common hg hn]⟩
      | reasonableAdjustment letterDocument party => simp [letterType, hn] at hparty
      | reasonableAdjustmentPdfs pdfs party => simp [letterType, hn] at hparty
    | some party =>
      have htokens : m.env.idamTokens.toBool = true := by simpa [stores, hg, hparty] using hstores
      have hcall := m.call_of_reasonableAdjustmentV1 common hg hparty
      cases hidam : m.env.idamTokens with
      | error e =>
        rw [hidam] at htokens
        cases htokens
      | ok tokens =>
        rw [hidam] at hcall
        exact ⟨_, fun w => by rw [hcall]; rfl⟩

/-- An exception on the way to the entries reaches the caller. -/
theorem run_call_of_entries_error (hstores : m.stores = true) {e : JavaException}
    (hentries : m.entries = .error e) (w : World) :
    (m.call common).run w = .error e (w.addUploads m.entriesUploads) := by
  obtain ⟨rest, hrest⟩ := m.call_starts common hstores
  rw [hrest, EStateM.run_bind, entriesCall_run, hentries]
  rfl

end Merge

end SscsPdfEmail.Service
