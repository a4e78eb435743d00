import SscsPdfEmail.Service.Basic

/-!
# PDFs from Notification Templates

`SscsGeneratePdfService` has an HTML template filled in with the placeholders of a notification.
It adds names of its own, for the case and for the regional office.  What a notification has
under these names never reaches a template (`generatePdf_congr`).

Placeholders are a map from names to values, and the map that is handed over is built by putting
one name after another, as the code does; `offers_placeholders` says once what the result has
under every name.  Reading the template may fail, in which case an `IOException` is wrapped, and
the rendering service may fail, in which case its exception is passed on.
-/

namespace SscsPdfEmail.Service

open SscsPdfEmail.Domain

/-! ## Placeholders -/

/-- `PdfWrapper`, of which the service sets the case, its id and the date. -/
structure PdfWrapper where
  sscsCaseData : Option SscsCaseData
  ccdCaseId : Option ℤ
  currentDate : LocalDate

/-- What a template finds under a name. -/
inductive Placeholder where
  | text (value : Option String)
  | pdfWrapper (wrapper : PdfWrapper)

/-- A `Map<String, String>`, the values of which may be null. -/
abbrev NotificationPlaceholders := String → Option (Option String)

/-- A `Map<String, Object>`. -/
abbrev Placeholders := String → Option Placeholder

/-- `Map.get`, which does not tell a null value from a missing one. -/
def NotificationPlaceholders.get (placeholders : NotificationPlaceholders) (key : String) :
    Option String :=
  (placeholders key).join

/-- `Map.put`. -/
def Placeholders.put (placeholders : Placeholders) (key : String) (value : Placeholder) :
    Placeholders :=
  Function.update placeholders key (some value)

namespace SscsGeneratePdfService

def rpc : String := "rpc_"

/-- The lines of a regional office, as named in `PdfTemplateConstants`. -/
def rpcLiterals : List String :=
  ["regional_office_name", "support_centre_name", "address_line", "town", "county", "postcode",
    "phone_number"]

/-- The names under which the service puts something. -/
def reserved : List String := "PdfWrapper" :: rpcLiterals.map (rpc ++ ·)

/-- The lines of the regional office once more, each under a name of its own. -/
def putRpc (notificationPlaceholders : NotificationPlaceholders) (placeholders : Placeholders)
    (literals : List String) : Placeholders :=
  literals.foldl (fun placeholders literal =>
    placeholders.put (rpc ++ literal) (.text (notificationPlaceholders.get literal))) placeholders

/-- The placeholders that `generatePdf` fills a template in with. -/
def placeholders (pdfWrapper : PdfWrapper) (notificationPlaceholders : NotificationPlaceholders) :
    Placeholders :=
  let copied : Placeholders := fun key => (notificationPlaceholders key).map .text
  putRpc notificationPlaceholders (copied.put "PdfWrapper" (.pdfWrapper pdfWrapper)) rpcLiterals

end SscsGeneratePdfService

/-- `SscsGeneratePdfService`, with the resources and the client that it uses. -/
structure SscsGeneratePdfService where
  getTemplate : Option String → Except JavaException Bytes
  generateFromHtml : Bytes → Placeholders → Except JavaException Bytes

namespace SscsGeneratePdfService

/-- `generatePdf`, on the given day. -/
def generatePdf (service : SscsGeneratePdfService) (today : LocalDate)
    (templatePath : Option String) (sscsCaseData : Option SscsCaseData)
    (caseDetailsId : Option ℤ) (notificationPlaceholders : Option NotificationPlaceholders) :
    Except JavaException Bytes := do
  -- only the exception of reading the template is wrapped
  let template ← tryCatch (service.getTemplate templatePath) fun
    | .io => throw .pdfGeneration
    | e => throw e
  let notificationPlaceholders ← nonNull notificationPlaceholders
  service.generateFromHtml template
    (placeholders ⟨sscsCaseData, caseDetailsId, today⟩ notificationPlaceholders)

/-! ## What a Template Finds -/

variable (notificationPlaceholders : NotificationPlaceholders)

theorem putRpc_of_not_mem (placeholders : Placeholders) {literals : List String} {key : String}
    (h : key ∉ literals.map (rpc ++ ·)) :
    putRpc notificationPlaceholders placeholders literals key = placeholders key := by
  induction literals generalizing placeholders with
  | nil => rfl
  | cons literal literals ih =>
    rw [List.map_cons, List.mem_cons, not_or] at h
    have hrest := ih (placeholders.put (rpc ++ literal)
      (.text (notificationPlaceholders.get literal))) h.2
    -- the key is none of those that are put
    exact hrest.trans (Function.update_of_ne h.1 _ _)

theorem putRpc_of_mem (placeholders : Placeholders) {literals : List String} {literal : String}
    (h : literal ∈ literals) :
    putRpc notificationPlaceholders placeholders literals (rpc ++ literal) =
      some (.text (notificationPlaceholders.get literal)) := by
  induction literals generalizing placeholders with
  | nil => cases h
  | cons other literals ih =>
    by_cases hrest : literal ∈ literals
    · exact ih _ hrest
    · -- the last name to be put is this one
      obtain rfl : literal = other := (List.mem_cons.mp h).resolve_right hrest
      have hnot : rpc ++ literal ∉ literals.map (rpc ++ ·) := by
        intro hmem
        obtain ⟨literal', hliteral, heq⟩ := List.mem_map.mp hmem
        have hsame : literal' = literal := String.append_right_inj rpc |>.mp heq
        exact hrest (hsame ▸ hliteral)
      exact (putRpc_of_not_mem _ _ hnot).trans (Function.update_self ..)

/-- What is promised of the placeholders that a template is filled in with. -/
structure Offers (pdfWrapper : PdfWrapper) (offered : Placeholders) : Prop where
  pdfWrapper : offered "PdfWrapper" = some (.pdfWrapper pdfWrapper)
  rpc : ∀ literal ∈ rpcLiterals,
    offered (rpc ++ literal) = some (.text (notificationPlaceholders.get literal))
  /-- Every other name is that of the notification. -/
  others : ∀ key, key ∉ reserved → offered key = (notificationPlaceholders key).map .text

theorem offers_placeholders (pdfWrapper : PdfWrapper) :
    Offers notificationPlaceholders pdfWrapper
      (placeholders pdfWrapper notificationPlaceholders) where
  pdfWrapper :=
    (putRpc_of_not_mem _ _ (by decide)).trans (Function.update_self ..)
  rpc literal h := putRpc_of_mem _ _ h
  others key h := by
    rw [reserved, List.mem_cons, not_or] at h
    exact (putRpc_of_not_mem _ _ h.2).trans (Function.update_of_ne h.1 _ _)

theorem Offers.eq {pdfWrapper : PdfWrapper} {offered : Placeholders}
    {notificationPlaceholders notificationPlaceholders' : NotificationPlaceholders}
    (h : Offers notificationPlaceholders pdfWrapper offered)
    (hagree : ∀ key, key ∉ reserved →
      notificationPlaceholders key = notificationPlaceholders' key) :
    offered = placeholders pdfWrapper notificationPlaceholders' := by
  have h' := offers_placeholders notificationPlaceholders' pdfWrapper
  funext key
  by_cases hreserved : key ∈ reserved
  · rcases List.mem_cons.mp hreserved with rfl | hrpc
    · rw [h.pdfWrapper, h'.pdfWrapper]
    · obtain ⟨literal, hliteral, rfl⟩ := List.mem_map.mp hrpc
      -- no line of the office stands under a reserved name in the notification
      have hfree : ∀ literal ∈ rpcLiterals, literal ∉ reserved := by decide
      rw [h.rpc literal hliteral, h'.rpc literal hliteral, NotificationPlaceholders.get,
        NotificationPlaceholders.get, hagree literal (hfree literal hliteral)]
  · rw [h.others key hreserved, h'.others key hreserved, hagree key hreserved]

/-- A notification has no say in what a template finds under the names of the service. -/
theorem generatePdf_congr (service : SscsGeneratePdfService) (today : LocalDate)
    (templatePath : Option String) (sscsCaseData : Option SscsCaseData)
    (caseDetailsId : Option ℤ)
    {notificationPlaceholders notificationPlaceholders' : NotificationPlaceholders}
    (hagree : ∀ key, key ∉ reserved →
      notificationPlaceholders key = notificationPlaceholders' key) :
    service.generatePdf today templatePath sscsCaseData caseDetailsId
        (some notificationPlaceholders) =
      service.generatePdf today templatePath sscsCaseData caseDetailsId
        (some notificationPlaceholders') := by
  have hoffers := offers_placeholders notificationPlaceholders ⟨sscsCaseData, caseDetailsId, today⟩
  -- the template sees the same placeholders either way
  have hsame : placeholders ⟨sscsCaseData, caseDetailsId, today⟩ notificationPlaceholders =
      placeholders ⟨sscsCaseData, caseDetailsId, today⟩ notificationPlaceholders' :=
    hoffers.eq hagree
  unfold generatePdf
  congr 1
  funext template
  exact congrArg (service.generateFromHtml template) hsame

end SscsGeneratePdfService

end SscsPdfEmail.Service
