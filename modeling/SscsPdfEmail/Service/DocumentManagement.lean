import SscsPdfEmail.Service.DocumentRuns

/-!
# Generated Documents

`DocmosisPdfGenerationService` has Docmosis fill in a template, and `DocumentManagementService`
adds the result to a case.

A run of `generateDocumentAndAddToCcd` calls on a case data object does to the world what the
`mergeDocIntoCcd` calls do for the documents that could be generated (`generatedRun`), so all
that is known of those runs holds of these.  A document cannot be generated when its template is
missing, when Docmosis does not succeed, when the id of the case is no number, or when the tokens
cannot be fetched; nothing has happened to the world by then.  The id is read off the object,
which keeps it, so it is parsed alike by every call of a run.

Docmosis is a function from a request to an answer, and the request is the one that the code
builds, field by field.
-/

namespace SscsPdfEmail.Service

open SscsPdfEmail.Domain
open CcdPdfService

/-! ## Generation -/

/-- `Template`. -/
structure Template where
  templateName : Option String
  hmctsDocName : Option String
deriving DecidableEq, Repr

/-- `DocumentHolder`, with placeholders of any type. -/
structure DocumentHolder (Value : Type) where
  template : Option Template
  placeholders : Option (List (String × Value))
  pdfArchiveMode : Bool := false

/-- `PdfDocumentRequest`. -/
structure PdfDocumentRequest (Value : Type) where
  accessKey : String
  templateName : String
  outputName : String
  data : List (String × Value)
  pdfArchiveMode : Bool

/-- `Pdf`. -/
structure Pdf where
  content : Bytes
  name : String
deriving DecidableEq, Repr

/-- `DocmosisPdfGenerationService`, with the answers of its endpoint. -/
structure DocmosisPdfGenerationService (Value : Type) where
  pdfServiceEndpoint : String
  pdfServiceAccessKey : String
  /-- `restTemplate.postForEntity`: the body of the response. -/
  postForEntity : String → PdfDocumentRequest Value → Except JavaException Bytes

/-- `checkArgument` of Guava. -/
def checkArgument (expression : Bool) : Except JavaException Unit :=
  if expression then return () else .error .illegalArgument

namespace DocmosisPdfGenerationService

variable {Value : Type} (service : DocmosisPdfGenerationService Value)

/-- `request`. -/
def request (templateName : String) (placeholders : List (String × Value))
    (pdfArchiveMode : Bool) : PdfDocumentRequest Value where
  accessKey := service.pdfServiceAccessKey
  templateName := templateName
  outputName := "result.pdf"
  data := placeholders
  pdfArchiveMode := pdfArchiveMode

/-- The checks of `generatePdf`: what is asked of Docmosis for a document. -/
def checked (documentHolder : DocumentHolder Value) :
    Except JavaException (PdfDocumentRequest Value) := do
  checkArgument documentHolder.template.isSome
  let template ← nonNull documentHolder.template
  let templateName := template.templateName.getD ""
  checkArgument (templateName ≠ "")
  let placeholders ← nonNull documentHolder.placeholders
  return service.request templateName placeholders documentHolder.pdfArchiveMode

/-- `generatePdf`. -/
def generatePdf (documentHolder : DocumentHolder Value) : Except JavaException Bytes := do
  let request ← service.checked documentHolder
  match service.postForEntity service.pdfServiceEndpoint request with
  | .ok body => return body
  | .error _ => .error .pdfGeneration

end DocmosisPdfGenerationService

/-! ## Adding a generated document to a case -/

namespace DocumentManagementService

variable {Value : Type}

/-- `getPdfName`. -/
def getPdfName (documentNamePrefix caseId : Option String) : String :=
  formatNullable documentNamePrefix ++ "-" ++ formatNullable caseId ++ ".pdf"

/-- `generateDocumentAndAddToCcd`, on the case data object of the caller. -/
def generateDocumentAndAddToCcd (env : Env)
    (pdfGenerationService : DocmosisPdfGenerationService Value)
    (holder : DocumentHolder Value) : Call Pdf := do
  -- the log line before the generation reads the name of the document
  let template ← fromExcept (nonNull holder.template)
  let pdfBytes ← fromExcept (pdfGenerationService.generatePdf holder)
  let ccdCaseId := (← get).callerCaseData.ccdCaseId
  let pdfName := getPdfName template.hmctsDocName ccdCaseId
  let description := "Uploaded " ++ pdfName ++ " into SSCS"
  let caseId ← fromExcept (parseLong ccdCaseId)
  let _ ← fromExcept env.idamTokens
  let _ ← mergeDocIntoCcdDescribed env (some pdfName) pdfBytes (some caseId) description
    template.hmctsDocName
  return ⟨pdfBytes, pdfName⟩

end DocumentManagementService

/-- A call of `generateDocumentAndAddToCcd`, with the answers that the external systems give
to it. -/
structure GenerateDocument (Value : Type) where
  env : Env
  docmosis : DocmosisPdfGenerationService Value
  holder : DocumentHolder Value

namespace GenerateDocument

variable {Value : Type} (d : GenerateDocument Value)

def call : Call Pdf :=
  DocumentManagementService.generateDocumentAndAddToCcd d.env d.docmosis d.holder

/-- The name of the document for a case. -/
def pdfName (template : Template) (ccdCaseId : Option String) : String :=
  DocumentManagementService.getPdfName template.hmctsDocName ccdCaseId

/-- The merge of a PDF into a case. -/
def mergeOf (template : Template) (pdf : Pdf) (caseId : ℤ) : MergeDoc where
  env := d.env
  operation := .described (some pdf.name) pdf.content (some caseId)
    ("Uploaded " ++ pdf.name ++ " into SSCS") template.hmctsDocName

/-- The document for a case with the given id, and its merge into that case. -/
def generated (ccdCaseId : Option String) : Except JavaException (Pdf × MergeDoc) := do
  let template ← nonNull d.holder.template
  let content ← d.docmosis.generatePdf d.holder
  let caseId ← parseLong ccdCaseId
  let _ ← d.env.idamTokens
  let pdf := ⟨content, pdfName template ccdCaseId⟩
  return (pdf, d.mergeOf template pdf caseId)

/-- A call whose value is replaced. -/
theorem run_bind_pure {α β : Type} (x : Call α) (b : β) (w : World) :
    (x >>= fun _ => pure b).run w =
      match x.run w with
      | .ok _ w' => .ok b w'
      | .error e w' => .error e w' := by
  rw [EStateM.run_bind]
  cases x.run w <;> rfl

theorem run_fromExcept_bind {α β : Type} (result : Except JavaException α) (f : α → Call β)
    (w : World) :
    (fromExcept result >>= f).run w =
      match result with
      | .ok a => (f a).run w
      | .error e => .error e w := by
  cases result <;> rfl

theorem run_get_bind {α : Type} (f : World → Call α) (w : World) :
    (get >>= f).run w = (f w).run w := rfl

/-- Nothing is stored and nothing submitted until the document is generated, and from then on
the call is that of `mergeDocIntoCcd`. -/
theorem call_run (w : World) :
    d.call.run w =
      match d.generated w.callerCaseData.ccdCaseId with
      | .error e => .error e w
      | .ok (pdf, m) =>
        match m.call.run w with
        | .ok _ w' => .ok pdf w'
        | .error e w' => .error e w' := by
  unfold call DocumentManagementService.generateDocumentAndAddToCcd generated
  simp only [run_fromExcept_bind]
  -- each step either ends the call before anything has happened, or hands on its result
  cases nonNull d.holder.template with
  | error e => rfl
  | ok template =>
    cases d.docmosis.generatePdf d.holder with
    | error e => rfl
    | ok content =>
      -- the case id is read off the object of the caller
      simp only
      rw [run_get_bind]
      simp only [run_fromExcept_bind]
      cases parseLong w.callerCaseData.ccdCaseId with
      | error e => rfl
      | ok caseId =>
        cases d.env.idamTokens with
        | error e => rfl
        | ok tokens =>
          let pdf : Pdf := ⟨content, pdfName template w.callerCaseData.ccdCaseId⟩
          let merged := mergeDocIntoCcdDescribed d.env (some pdf.name) pdf.content (some caseId)
            ("Uploaded " ++ pdf.name ++ " into SSCS") template.hmctsDocName
          -- each side drops what the merge returns
          show (merged >>= fun _ => pure pdf).run w =
            match (merged >>= fun _ => pure ()).run w with
            | .ok _ w' => EStateM.Result.ok pdf w'
            | .error e w' => .error e w'
          rw [run_bind_pure, run_bind_pure]
          cases merged.run w <;> rfl

theorem worldAfter_call (w : World) :
    worldAfter d.call w =
      match d.generated w.callerCaseData.ccdCaseId with
      | .error _ => w
      | .ok (_, m) => worldAfter m.call w := by
  unfold worldAfter
  rw [call_run]
  -- the PDF that is handed back says nothing about the world
  cases d.generated w.callerCaseData.ccdCaseId with
  | error e => rfl
  | ok generated =>
    obtain ⟨pdf, m⟩ := generated
    simp only
    cases m.call.run w <;> rfl

/-! ### Runs -/

/-- Calls one after another on the caller's object, exceptions caught by the caller. -/
def run (w : World) (ds : List (GenerateDocument Value)) : World :=
  ds.foldl (fun w d => worldAfter d.call w) w

/-- The merges of the documents that can be generated for a case. -/
def merges (ccdCaseId : Option String) (ds : List (GenerateDocument Value)) : List MergeDoc :=
  ds.filterMap fun d =>
    match d.generated ccdCaseId with
    | .ok (_, m) => some m
    | .error _ => none

theorem ccdCaseId_worldAfter_call (w : World) :
    (worldAfter d.call w).callerCaseData.ccdCaseId = w.callerCaseData.ccdCaseId := by
  rw [worldAfter_call]
  cases d.generated w.callerCaseData.ccdCaseId with
  | error e => rfl
  | ok generated => exact MergeDoc.ccdCaseId_worldAfter_call generated.2 w

/-- A run does what the merges of its documents do. -/
theorem run_eq (w : World) (ds : List (GenerateDocument Value)) :
    run w ds = MergeDoc.run w (merges w.callerCaseData.ccdCaseId ds) := by
  induction ds generalizing w with
  | nil => rfl
  | cons d ds ih =>
    have hrest := ih (worldAfter d.call w)
    -- the object keeps its id, so each document is generated for the same case
    rw [ccdCaseId_worldAfter_call, worldAfter_call] at hrest
    rw [run, List.foldl_cons, worldAfter_call]
    cases hgenerated : d.generated w.callerCaseData.ccdCaseId with
    | error e =>
      rw [hgenerated] at hrest
      rw [merges, List.filterMap_cons, hgenerated]
      exact hrest
    | ok generated =>
      rw [hgenerated] at hrest
      rw [merges, List.filterMap_cons, hgenerated]
      exact hrest

/-- A generated document is named for its case and merged into it. -/
theorem generated_ok {ccdCaseId : Option String} {pdf : Pdf} {m : MergeDoc}
    (h : d.generated ccdCaseId = .ok (pdf, m)) :
    ∃ template caseId, d.holder.template = some template ∧
      d.docmosis.generatePdf d.holder = .ok pdf.content ∧
      parseLong ccdCaseId = .ok caseId ∧ pdf.name = pdfName template ccdCaseId ∧
      m = d.mergeOf template pdf caseId := by
  -- one fact for each step that has not failed
  obtain ⟨template, htemplate, h⟩ := bind_eq_ok.mp h
  obtain ⟨content, hcontent, h⟩ := bind_eq_ok.mp h
  obtain ⟨caseId, hid, h⟩ := bind_eq_ok.mp h
  obtain ⟨tokens, -, h⟩ := bind_eq_ok.mp h
  obtain ⟨rfl, rfl⟩ := Prod.mk.inj (Except.ok.inj h)
  exact ⟨template, caseId, nonNull_eq_ok.mp htemplate, hcontent, hid, rfl, rfl⟩

theorem exists_of_mem_merges {ccdCaseId : Option String} {ds : List (GenerateDocument Value)}
    {m : MergeDoc} (h : m ∈ merges ccdCaseId ds) :
    ∃ d ∈ ds, ∃ pdf, d.generated ccdCaseId = .ok (pdf, m) := by
  obtain ⟨d, hd, hm⟩ := List.mem_filterMap.mp h
  -- only documents that can be generated are merged
  cases hgenerated : d.generated ccdCaseId with
  | error e =>
    rw [hgenerated] at hm
    cases hm
  | ok generated =>
    rw [hgenerated] at hm
    obtain rfl := Option.some.inj hm
    exact ⟨d, hd, generated.1, hgenerated⟩

/-- What is promised of a run. -/
structure GeneratedRun (ds : List (GenerateDocument Value)) (w w' : World) : Prop where
  /-- It does what the merges do of the documents that can be generated for the case. -/
  merged : w' = MergeDoc.run w (merges w.callerCaseData.ccdCaseId ds)
  /-- A file that is stored is what Docmosis gave for one of the calls, named for the case. -/
  files : ∃ added, w'.uploads = w.uploads ++ added ∧
    ∀ file ∈ added, ∃ d ∈ ds, ∃ template, d.holder.template = some template ∧
      d.docmosis.generatePdf d.holder = .ok file.content ∧
      file.name = some (pdfName template w.callerCaseData.ccdCaseId)
  /-- Every update goes to the case of the object, and holds data of that case. -/
  updates : ∃ added, w'.updates = w.updates ++ added ∧
    ∀ update ∈ added, ∃ caseId, parseLong w.callerCaseData.ccdCaseId = .ok caseId ∧
      update.caseId = some caseId ∧
      update.caseData.ccdCaseId = w.callerCaseData.ccdCaseId
  /-- A case id that is no number leaves everything as it was. -/
  noNumber : ∀ e, parseLong w.callerCaseData.ccdCaseId = .error e → w' = w

theorem files_run (w : World) (ds : List (GenerateDocument Value)) :
    ∃ added, (run w ds).uploads = w.uploads ++ added ∧
      ∀ file ∈ added, ∃ d ∈ ds, ∃ template, d.holder.template = some template ∧
        d.docmosis.generatePdf d.holder = .ok file.content ∧
        file.name = some (pdfName template w.callerCaseData.ccdCaseId) := by
  refine ⟨_, by rw [run_eq, MergeDoc.uploads_run], ?_⟩
  intro file hfile
  obtain ⟨m, hm, hfile⟩ := List.mem_flatMap.mp hfile
  obtain ⟨d, hd, pdf, hgenerated⟩ := exists_of_mem_merges hm
  obtain ⟨template, caseId, htemplate, hcontent, -, hname, rfl⟩ := d.generated_ok hgenerated
  -- the only file that a merge uploads is that of its own parameters
  have hfileOf : file = PdfStoreService.fileOf (d.mergeOf template pdf caseId).params := by
    unfold PdfStoreService.uploadsOf at hfile
    split at hfile
    · exact List.mem_singleton.mp hfile
    · cases hfile
  refine ⟨d, hd, template, htemplate, ?_, ?_⟩
  · rw [hfileOf]
    exact hcontent
  · rw [hfileOf, ← hname]
    rfl

theorem caseId_of_mem_merges {ccdCaseId : Option String} {ds : List (GenerateDocument Value)}
    {m : MergeDoc} (h : m ∈ merges ccdCaseId ds) :
    ∃ caseId, parseLong ccdCaseId = .ok caseId ∧ m.params.caseId = some caseId := by
  obtain ⟨d, -, pdf, hgenerated⟩ := exists_of_mem_merges h
  obtain ⟨template, caseId, -, -, hid, -, rfl⟩ := d.generated_ok hgenerated
  exact ⟨caseId, hid, rfl⟩

/-- **Generated documents**: a run of `generateDocumentAndAddToCcd` calls is a run of
`mergeDocIntoCcd` calls for the documents that can be generated, each named for the case of the
object and submitted to that case. -/
theorem generatedRun (w : World) (ds : List (GenerateDocument Value)) :
    GeneratedRun ds w (run w ds) where
  merged := run_eq w ds
  files := files_run w ds
  updates := by
    obtain ⟨added, hadded, hsubmits, -⟩ :=
      MergeDoc.updates_run w (merges w.callerCaseData.ccdCaseId ds)
    refine ⟨added, by rw [run_eq, hadded], ?_⟩
    intro update hupdate
    obtain ⟨m, hm, after, hm'⟩ := hsubmits.exists_of_mem hupdate
    obtain ⟨caseId, hid, hcase⟩ := caseId_of_mem_merges (MergeDoc.recording_subset _ _ hm)
    refine ⟨caseId, hid, ?_, hsubmits.updatesOf.sameCase update hupdate⟩
    -- the number was parsed once for all calls: the object keeps its id
    rw [hm']
    exact hcase
  noNumber := by
    intro e he
    -- without a number no document can be generated
    have hnone : merges w.callerCaseData.ccdCaseId ds = [] := by
      rw [List.eq_nil_iff_forall_not_mem]
      intro m hm
      obtain ⟨caseId, hid, -⟩ := caseId_of_mem_merges hm
      rw [he] at hid
      cases hid
    rw [run_eq, hnone]
    rfl

end GenerateDocument

end SscsPdfEmail.Service
