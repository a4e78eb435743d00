import SscsPdfEmail.Service.DocumentRouting

/-!
# Dates of Scanned Statements

The scanned document for a statement carries a date-time made from the date that the store put on
the document.  `getDocumentDateAdded` reads the clock twice, once to see whether that date is
today and once for the time of day, so the date is kept unless midnight falls between the two
readings (`keepsDate_iff`).

A date that is not today's is given the start of its day and is always kept; only a document of
the present day depends on the second reading.  The readings are part of the environment, in the
order in which the code takes them, and the date-time is looked at through its text, which is
parsed as a reader of the case would.
-/

namespace SscsPdfEmail.Service

open SscsPdfEmail.Domain
open CcdPdfService

/-- The readings of a call do not go back. -/
def Clock.NonDecreasing (clock : Clock) : Prop :=
  clock.stored.isAfter clock.compared = false ∧ clock.compared.isAfter clock.scanned = false

/-- The date-time of the scanned document for a document of the given date. -/
def Clock.scannedFor (clock : Clock) (date : LocalDate) : LocalDateTime :=
  if date = clock.compared.toLocalDate then clock.scanned else date.atStartOfDay

/-- The date is kept exactly when the second reading is still on the day of the first. -/
theorem Clock.toLocalDate_scannedFor_iff (clock : Clock) (date : LocalDate) :
    (clock.scannedFor date).toLocalDate = date ↔
      (date = clock.compared.toLocalDate → clock.scanned.toLocalDate = date) := by
  unfold Clock.scannedFor
  split
  · rename_i htoday
    exact ⟨fun h _ => h, fun h => h htoday⟩
  · rename_i hother
    exact iff_of_true rfl fun htoday => absurd htoday hother

namespace CcdPdfService

theorem getDocumentDateAdded_eq (clock : Clock) {text : String} {date : LocalDate}
    (h : LocalDate.parse text = some date) :
    getDocumentDateAdded clock text = .ok (clock.scannedFor date).formatIsoDateTime := by
  have hdate : parsed (LocalDate.parse text) = .ok date := parsed_eq_ok.mpr h
  unfold getDocumentDateAdded Clock.scannedFor
  rw [hdate]
  show (if date = clock.compared.toLocalDate then _ else _) = _
  split <;> rfl

/-- A dated document is converted to one scanned document. -/
theorem buildScannedDocListFromSscsDoc_eq (clock : Clock) {document : SscsDocument}
    {details : SscsDocumentDetails} {text : String} {date : LocalDate}
    (hvalue : document.value = some details) (hadded : details.documentDateAdded = some text)
    (hdate : LocalDate.parse text = some date) :
    buildScannedDocListFromSscsDoc clock (some [document]) =
      .ok [scannedDocumentOf details (clock.scannedFor date).formatIsoDateTime] := by
  -- the date is read, and the clock for the rest
  have hscanned : scannedDateOf clock details =
      .ok (clock.scannedFor date).formatIsoDateTime := by
    unfold scannedDateOf
    rw [hadded]
    exact getDocumentDateAdded_eq clock hdate
  simp only [buildScannedDocListFromSscsDoc, hvalue]
  show (do
    let dateAdded ← scannedDateOf clock details
    pure [scannedDocumentOf details dateAdded]) = _
  rw [hscanned]
  rfl

end CcdPdfService

/-! ## Calls for Statements -/

/-- The scanned date of the document is an ISO date-time on the given day. -/
def ScannedOn (scanned : ScannedDocument) (date : LocalDate) : Prop :=
  ∃ details text dateTime, scanned.value = some details ∧ details.scannedDate = some text ∧
    LocalDateTime.parse text = some dateTime ∧ dateTime.toLocalDate = date

theorem scannedOn_scannedDocumentOf_iff (details : SscsDocumentDetails)
    (dateTime : LocalDateTime) (date : LocalDate) :
    ScannedOn (scannedDocumentOf details dateTime.formatIsoDateTime) date ↔
      dateTime.toLocalDate = date := by
  constructor
  · rintro ⟨scannedDetails, text, parsed, hvalue, htext, hparse, hdate⟩
    obtain rfl := Option.some.inj hvalue
    obtain rfl := Option.some.inj htext
    -- the text is read back as the date-time it was made from
    rw [LocalDateTime.parse_formatIsoDateTime] at hparse
    obtain rfl := Option.some.inj hparse
    exact hdate
  · intro hdate
    exact ⟨_, _, dateTime, rfl, rfl, LocalDateTime.parse_formatIsoDateTime dateTime, hdate⟩

namespace UpdateDocCall

variable {c : UpdateDocCall}

/-- The call is made for a statement of some case, and the store returns a document with the
given date. -/
structure StoresStatement (c : UpdateDocCall) (documentDateAdded : String) : Prop where
  caseId : c.params.caseId.isSome
  statement : c.forStatement = true
  stored : ∃ document details, c.stored = .ok (some document) ∧
    document.value = some details ∧ details.documentDateAdded = some documentDateAdded

/-- The call returns and appends one scanned document, on the given day. -/
def KeepsDate (c : UpdateDocCall) (date : LocalDate) (w : World) : Prop :=
  ∃ final scanned, resultOf c.call w = .ok final ∧
    final.scannedDocuments = some (w.callerCaseData.scannedDocuments.getD [] ++ [scanned]) ∧
    ScannedOn scanned date

/-- What a call for a dated statement returns. -/
theorem recorded_of_storesStatement {text : String} (h : c.StoresStatement text)
    {date : LocalDate} (hdate : LocalDate.parse text = some date) (caseData : SscsCaseData) :
    ∃ final details, c.recorded caseData = .ok final ∧
      final.scannedDocuments = some (caseData.scannedDocuments.getD [] ++
        [scannedDocumentOf details (c.clock.scannedFor date).formatIsoDateTime]) := by
  obtain ⟨caseId, hcase⟩ := Option.isSome_iff_exists.mp h.caseId
  obtain ⟨document, details, hstored, hvalue, hadded⟩ := h.stored
  obtain ⟨fileName, hname, hstatement⟩ :
      ∃ fileName, c.params.fileName = some fileName ∧ isStatement fileName = true := by
    have hfor := h.statement
    unfold forStatement at hfor
    split at hfor
    · exact ⟨_, ‹_›, hfor⟩
    · cases hfor
  -- none of the steps before fails for such a call
  have hscanned := buildScannedDocListFromSscsDoc_eq c.clock hvalue hadded hdate
  obtain ⟨updated, hupdated, hdocuments⟩ : ∃ updated,
      updateCaseDataWithNewDoc c.clock c.params.fileName caseData (some [document]) =
        .ok updated ∧
      updated.scannedDocuments = some (caseData.scannedDocuments.getD [] ++
        [scannedDocumentOf details (c.clock.scannedFor date).formatIsoDateTime]) := by
    simp only [updateCaseDataWithNewDoc, hname, nonNull, bind, Except.bind, hstatement, if_true,
      hscanned]
    exact ⟨_, rfl, rfl⟩
  refine ⟨flagTranslation c.params updated, details, ?_, ?_⟩
  · simp only [recorded, hstored, recordDocument, hcase, logStored]
    show (do
      let withDocument ← updateCaseDataWithNewDoc c.clock c.params.fileName caseData
        (some [document])
      pure (flagTranslation c.params withDocument)) = _
    rw [hupdated]
    rfl
  · rw [flagTranslation_scannedDocuments]
    exact hdocuments

/-- **Statement dates**: the scanned document keeps the date of the stored one exactly when
the date is not today, or still is when the clock is read again. -/
theorem keepsDate_iff {text : String} (h : c.StoresStatement text) {date : LocalDate}
    (hdate : LocalDate.parse text = some date) (w : World) :
    c.KeepsDate date w ↔
      (date = c.clock.compared.toLocalDate → c.clock.scanned.toLocalDate = date) := by
  obtain ⟨final, details, hrecorded, hdocuments⟩ :=
    recorded_of_storesStatement h hdate w.callerCaseData
  rw [← Clock.toLocalDate_scannedFor_iff, ← scannedOn_scannedDocumentOf_iff details]
  constructor
  · rintro ⟨returned, scanned, hreturned, happended, hon⟩
    rw [resultOf_call, hrecorded] at hreturned
    obtain rfl := Except.ok.inj hreturned
    -- both describe the one document at the end of the list
    rw [hdocuments] at happended
    obtain rfl := List.singleton_inj.mp (List.append_cancel_left (Option.some.inj happended))
    exact hon
  · intro hon
    exact ⟨final, _, (resultOf_call c w).trans hrecorded, hdocuments, hon⟩

/-- A call for a statement added on 22 January 2021, with the given readings afterwards. -/
def statementAt (compared scanned : LocalDateTime) : UpdateDocCall where
  clock := { Env.answering.clock with compared := compared, scanned := scanned }
  params := { fileName := some "Appellant statement 1.pdf", pdf := [1], caseId := some 1 }
  stored := .ok (some { value := some { documentDateAdded := some "2021-01-22" } })

/-- A minute before midnight. -/
def lateEvening : LocalDateTime := (LocalDateTime.parse "2021-01-22T23:59").get (by decide)

/-- The midnight after it. -/
def nextMidnight : LocalDateTime := (LocalDateTime.parse "2021-01-23T00:00").get (by decide)

theorem storesStatement_statementAt (compared scanned : LocalDateTime) :
    (statementAt compared scanned).StoresStatement "2021-01-22" where
  caseId := rfl
  statement := by
    show isStatement "Appellant statement 1.pdf" = true
    decide
  stored := ⟨_, _, rfl, rfl, rfl⟩

theorem keepsDate_lateEvening :
    (statementAt lateEvening lateEvening).KeepsDate lateEvening.toLocalDate World.sample :=
  (keepsDate_iff (storesStatement_statementAt lateEvening lateEvening) (by decide) _).mpr
    fun _ => rfl

/-- A statement that was added today, and is scanned when today has become yesterday. -/
theorem date_lost_at_midnight :
    ¬ ∀ (c : UpdateDocCall) (text : String) (date : LocalDate) (w : World),
      c.clock.NonDecreasing → c.StoresStatement text → LocalDate.parse text = some date →
        c.KeepsDate date w := by
  intro hclaim
  obtain ⟨final, scanned, hreturned, happended, details, text, dateTime, hvalue, htext, hparse,
    hdate⟩ := hclaim (statementAt lateEvening nextMidnight) "2021-01-22" lateEvening.toLocalDate
      World.sample ⟨by decide, by decide⟩ (storesStatement_statementAt _ _) (by decide)
  obtain rfl := Except.ok.inj hreturned
  obtain rfl := List.singleton_inj.mp (Option.some.inj happended)
  obtain rfl := Option.some.inj hvalue
  obtain rfl := Option.some.inj htext
  -- the scanned date is that of the second reading
  have hnext : LocalDateTime.parse nextMidnight.formatIsoDateTime = some nextMidnight :=
    LocalDateTime.parse_formatIsoDateTime nextMidnight
  obtain rfl := Option.some.inj (hnext.symm.trans hparse)
  revert hdate
  decide

end UpdateDocCall

end SscsPdfEmail.Service
