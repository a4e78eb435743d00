import SscsPdfEmail.Service.PdfStore

/-!
# The Two Document Stores

`storeDocument` goes to the plain store or, once the feature is enabled, to the secure one. The
two paths are the same code over different clients: the plain client reports failures as
`RestClientException`s, which is what both paths handle, the secure one is a Feign client and
reports them as `FeignException`s, which neither handles.  So the stores agree on uploads that
succeed and on no others (`backEndsAgree_iff`).

`UploadResult` is what became of a file, told without regard to the store; `plainAnswer` and
`secureAnswer` are how the client of each store reports it.  Agreement is about what the caller
gets and what was uploaded, up to the link, which names the store.
-/

namespace SscsPdfEmail.Service

open SscsPdfEmail.Domain
open PdfStoreService

/-! ## Upload Results -/

/-- How the upload call to a store ends, by what it means for the caller. -/
inductive UploadResult where
  | response (document : UploadedDocument) (others : List UploadedDocument)
  /-- The store rejects the file with a 4xx status. -/
  | clientError
  /-- The store fails, or cannot be reached. -/
  | unavailable

namespace UploadResult

def isResponse : UploadResult → Bool
  | .response _ _ => true
  | .clientError | .unavailable => false

/-- The answer of `DocumentUploadClientApi`. -/
def plainAnswer : UploadResult → Except JavaException UploadResponse
  | .response document others => .ok ⟨document :: others⟩
  | .clientError => .error .httpClientError
  | .unavailable => .error .restClient

/-- The answer of `CaseDocumentClient`, with one exception for all failures. -/
def secureAnswer : UploadResult → Except JavaException UploadResponse
  | .response document others => .ok ⟨document :: others⟩
  | .clientError | .unavailable => .error .feign

end UploadResult

/-! ## Agreement -/

/-- The environment with one or the other store selected. -/
def Env.withStore (env : Env) (secureDocStoreEnabled : Bool) : Env :=
  { env with secureDocStoreEnabled := secureDocStoreEnabled }

/-- The document without what only the secure store puts on its link. -/
def withPlainLink (document : SscsDocument) : SscsDocument where
  value := document.value.map fun details =>
    { details with
      documentLink := details.documentLink.map fun link => { documentUrl := link.documentUrl } }

/-- The two outcomes of storing a file that the code is written for, by how the upload ends. -/
def OutcomesAgree (plain secure : Except JavaException (Option SscsDocument)) :
    UploadResult → Prop
  | .response _ _ => ∃ document secureDocument, plain = .ok (some document) ∧
      secure = .ok (some secureDocument) ∧ withPlainLink secureDocument = document
  | .clientError => plain = .error .unsupportedDocumentType ∧
      secure = .error .unsupportedDocumentType
  | .unavailable => plain = .ok none ∧ secure = .ok none

/-- `storeDocument` ends in the same way whichever store is selected. -/
def BackEndsAgree (env : Env) (params : UpdateDocParams) (upload : UploadResult) (w : World) :
    Prop :=
  OutcomesAgree (resultOf (storeDocument (env.withStore false) params) w)
    (resultOf (storeDocument (env.withStore true) params) w) upload

namespace PdfStoreService

/-- The plain store handles every way in which an upload ends. -/
theorem outcome_of_plainAnswer {env : Env} {params : UpdateDocParams} {upload : UploadResult}
    (h : ClientAnswers (env.withStore false) params upload.plainAnswer) :
    outcome (env.withStore false) params =
      match upload with
      | .response document _ => .ok (some (documentOf env params (linkOf document)))
      | .clientError => .error .unsupportedDocumentType
      | .unavailable => .ok none := by
  unfold outcome
  rw [answerOf_of_clientAnswers h]
  -- a client error is translated, an unreachable store carried on from
  cases upload <;> rfl

/-- The secure store lets every failure through. -/
theorem outcome_of_secureAnswer {env : Env} {params : UpdateDocParams} {upload : UploadResult}
    (h : ClientAnswers (env.withStore true) params upload.secureAnswer) :
    outcome (env.withStore true) params =
      match upload with
      | .response document _ =>
        .ok (some (documentOf env params (secureLinkOf params document)))
      | .clientError | .unavailable => .error .feign := by
  unfold outcome
  rw [answerOf_of_clientAnswers h]
  -- neither handler knows the exceptions of a Feign client
  cases upload <;> rfl

/-- **The two stores** agree exactly on the uploads that succeed. -/
theorem backEndsAgree_iff {env : Env} {params : UpdateDocParams} {upload : UploadResult}
    (hplain : ClientAnswers (env.withStore false) params upload.plainAnswer)
    (hsecure : ClientAnswers (env.withStore true) params upload.secureAnswer) (w : World) :
    BackEndsAgree env params upload w ↔ upload.isResponse = true := by
  rw [BackEndsAgree, resultOf_storeDocument, resultOf_storeDocument,
    outcome_of_plainAnswer hplain, outcome_of_secureAnswer hsecure]
  cases upload with
  | response document others => exact iff_of_true ⟨_, _, rfl, rfl, rfl⟩ rfl
  | clientError =>
    -- the exception that the code translates is not the one that the client raises
    refine iff_of_false ?_ nofun
    rintro ⟨-, hsecure⟩
    cases hsecure
  | unavailable =>
    refine iff_of_false ?_ nofun
    rintro ⟨-, hsecure⟩
    cases hsecure

/-- An environment in which both stores end every upload in the given way. -/
def endingWith (upload : UploadResult) : Env :=
  { Env.answering with
    documentUpload := fun _ _ _ _ _ _ => upload.plainAnswer
    caseDocumentUpload := fun _ _ _ _ _ => upload.secureAnswer }

theorem clientAnswers_endingWith_plain (upload : UploadResult) (params : UpdateDocParams) :
    ClientAnswers ((endingWith upload).withStore false) params upload.plainAnswer :=
  ⟨_, rfl, rfl⟩

theorem clientAnswers_endingWith_secure (upload : UploadResult) (params : UpdateDocParams) :
    ClientAnswers ((endingWith upload).withStore true) params upload.secureAnswer :=
  ⟨_, rfl, rfl⟩

theorem backEndsAgree_response :
    BackEndsAgree (endingWith (.response { selfHref := "/documents/1" } [])) { pdf := [1] }
      (.response { selfHref := "/documents/1" } []) World.sample :=
  (backEndsAgree_iff (clientAnswers_endingWith_plain _ _) (clientAnswers_endingWith_secure _ _)
    World.sample).mpr rfl

/-- A file that the store rejects: only the plain store's caller learns that its type is not
supported. -/
theorem rejected_file_differs :
    ¬ ∀ (env : Env) (params : UpdateDocParams) (upload : UploadResult) (w : World),
      ClientAnswers (env.withStore false) params upload.plainAnswer →
      ClientAnswers (env.withStore true) params upload.secureAnswer →
        BackEndsAgree env params upload w := by
  intro hclaim
  obtain ⟨-, hsecure⟩ := hclaim (endingWith .clientError) { pdf := [1] } .clientError World.sample
    (clientAnswers_endingWith_plain _ _) (clientAnswers_endingWith_secure _ _)
  have hfeign : resultOf (storeDocument ((endingWith .clientError).withStore true) { pdf := [1] })
      World.sample = .error .feign := rfl
  rw [hfeign] at hsecure
  cases hsecure

end PdfStoreService

end SscsPdfEmail.Service
