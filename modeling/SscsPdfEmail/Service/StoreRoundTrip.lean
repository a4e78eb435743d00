import Mathlib.Data.List.Nodup
import SscsPdfEmail.Service.DocumentDownload

/-!
# Storing and Downloading Across the Switch

What the two document stores hold is a state that every successful `storeDocument` adds to.
A run is a list of calls, in a first phase with the plain store selected and afterwards with
the secure one; other parties may add documents at any time.

Both stores are asked by path, and the paths of all documents are different, so an answer can
only be the document that was asked for (`WellLinked.eq_of_hrefPath`).  From there a download
either fails or returns the bytes stored under its link, whichever store it ends up at
(`download_ok`), and the switch never hides a document (`download_of_holderAnswers`).
-/

namespace SscsPdfEmail.Service

open SscsPdfEmail.Domain
open PdfStoreService

/-! ## Held Documents -/

/-- A document that a store holds, with the link that it was given. -/
structure HeldDocument where
  secure : Bool
  href : String
  content : Bytes
deriving DecidableEq, Repr

/-- The path of the link. -/
def HeldDocument.path (document : HeldDocument) : Option String :=
  (Uri.create document.href).toOption.bind Uri.getPath

/-- The links are absolute URIs with a path, and no path is used twice. -/
structure WellLinked (documents : List HeldDocument) : Prop where
  absolute : ∀ document ∈ documents, ∃ uri rest, Uri.create document.href = .ok uri ∧
    uri.isAbsolute = true ∧ uri.getPath = some (String.ofList ('/' :: rest))
  distinct : (documents.map HeldDocument.path).Nodup

/-- What a store is asked for when a link is followed. -/
def hrefPath (href : String) : Except JavaException String := do
  let uri ← Uri.create href
  requestPath uri

theorem hrefPath_of_getPath {href : String} {uri : Uri} {rest : List Char}
    (hcreate : Uri.create href = .ok uri)
    (hpath : uri.getPath = some (String.ofList ('/' :: rest))) :
    hrefPath href = .ok (String.ofList rest) := by
  rw [hrefPath, hcreate]
  show requestPath uri = _
  rw [requestPath, hpath]
  show Except.ok (removeFirstSlash (String.ofList ('/' :: rest))) = _
  rw [removeFirstSlash, String.toList_ofList, List.erase_cons_head]

/-- A plain link is followed to its path. -/
theorem hrefPath_text (link : PlainLink) : hrefPath link.text = .ok (String.ofList link.path) :=
  hrefPath_of_getPath link.create_text link.getPath_uri

/-- Plain links are absolute URIs with a path. -/
theorem wellLinked_of_plainLinks {documents : List HeldDocument}
    (hplain : ∀ document ∈ documents, ∃ link : PlainLink, document.href = link.text)
    (hdistinct : (documents.map HeldDocument.path).Nodup) : WellLinked documents where
  absolute document hmem := by
    obtain ⟨link, hhref⟩ := hplain document hmem
    rw [hhref]
    exact ⟨link.uri, link.path, link.create_text, rfl, link.getPath_uri⟩
  distinct := hdistinct

/-- Of documents with different paths, a path that a store is asked for names only one. -/
theorem WellLinked.eq_of_hrefPath {documents : List HeldDocument} (h : WellLinked documents)
    {first second : HeldDocument} (hfirst : first ∈ documents) (hsecond : second ∈ documents)
    (hsame : hrefPath first.href = hrefPath second.href) : first = second := by
  obtain ⟨uri, rest, hcreate, -, hpath⟩ := h.absolute first hfirst
  obtain ⟨uri', rest', hcreate', -, hpath'⟩ := h.absolute second hsecond
  rw [hrefPath_of_getPath hcreate hpath, hrefPath_of_getPath hcreate' hpath'] at hsame
  -- the path is the requested one behind a slash
  have hrest : String.ofList rest = String.ofList rest' := Except.ok.inj hsame
  have hrest' : rest = rest' := String.ofList_injective hrest
  refine List.inj_on_of_nodup_map h.distinct hfirst hsecond ?_
  simp [HeldDocument.path, hcreate, hcreate', hpath, hpath', hrest', Except.toOption]

/-! ## Runs -/

/-- What happens at the two stores. -/
inductive StoreEvent where
  /-- A call of `storeDocument`. -/
  | store (env : Env) (params : UpdateDocParams)
  /-- A call of `download`. -/
  | download (env : Env) (clients : DownloadClients) (href : String)
  /-- A store takes a document from another party, or one whose link an exception loses. -/
  | elsewhere (document : HeldDocument)

/-- `documentUrl` of the link of a stored document. -/
def documentUrlOf (document : SscsDocument) : Option String := do
  let details ← document.value
  let link ← details.documentLink
  link.documentUrl

namespace StoreEvent

/-- The document that the stores hold in addition afterwards. -/
def held : StoreEvent → Option HeldDocument
  | .store env params =>
    match outcome env params with
    | .ok (some document) =>
      (documentUrlOf document).map fun href => ⟨env.secureDocStoreEnabled, href, params.pdf⟩
    | _ => none
  | .download _ _ _ => none
  | .elsewhere document => some document

/-- The call is made with the feature enabled or not. -/
def Selects (secureDocStoreEnabled : Bool) : StoreEvent → Prop
  | .store env _ | .download env _ _ => env.secureDocStoreEnabled = secureDocStoreEnabled
  | .elsewhere _ => True

end StoreEvent

/-- All that the stores hold after a run. -/
def heldAfter (events : List StoreEvent) : List HeldDocument :=
  events.flatMap fun event => event.held.toList

/-- A document that `storeDocument` returned is held under its link. -/
theorem mem_heldAfter {events : List StoreEvent} {env : Env} {params : UpdateDocParams}
    {w : World} {document : SscsDocument} {href : String}
    (hstore : .store env params ∈ events)
    (hreturned : resultOf (storeDocument env params) w = .ok (some document))
    (hlink : documentUrlOf document = some href) :
    ⟨env.secureDocStoreEnabled, href, params.pdf⟩ ∈ heldAfter events := by
  rw [resultOf_storeDocument] at hreturned
  refine List.mem_flatMap.mpr ⟨_, hstore, ?_⟩
  simp [StoreEvent.held, hreturned, hlink]

/-- Once the feature is enabled it stays so: a download with the plain store selected comes
after none of the secure store's documents. -/
theorem secure_of_switch {first second before after : List StoreEvent} {env storeEnv : Env}
    {clients : DownloadClients} {href : String} {params : UpdateDocParams}
    (hfirst : ∀ event ∈ first, event.Selects false)
    (hsecond : ∀ event ∈ second, event.Selects true)
    (hrun : first ++ second = before ++ .download env clients href :: after)
    (hstore : .store storeEnv params ∈ before)
    (hsecure : storeEnv.secureDocStoreEnabled = true) : env.secureDocStoreEnabled = true := by
  rcases List.append_eq_append_iff.mp hrun with ⟨middle, rfl, htail⟩ | ⟨middle, rfl, htail⟩
  · -- the download is in the second phase
    exact hsecond (.download env clients href) (by rw [htail]; simp)
  · -- the download is in the first phase, and the store call before it as well
    have hplain : storeEnv.secureDocStoreEnabled = false :=
      hfirst (.store storeEnv params) (List.mem_append_left middle hstore)
    rw [hplain] at hsecure
    cases hsecure

/-! ## Answers -/

/-- The binary link of the metadata leads to the given bytes. -/
def LeadsTo (clients : DownloadClients) (metadata : DocumentMetadata) (content : Bytes) : Prop :=
  ∃ href path, metadata.binaryHref = some href ∧ hrefPath href = .ok path ∧
    ∀ authorisation serviceToken userId role body,
      clients.downloadBinary authorisation serviceToken userId role path = .ok body →
        body = some content

/-- How the stores answer one download, given what they hold.  Any answer may be a failure
instead, which for the secure store and the tokens for it is a `FeignException`. -/
structure AnswersFor (held : List HeldDocument) (env : Env) (clients : DownloadClients) :
    Prop where
  tokens_fail : ∀ e, env.idamTokens = .error e → e = .feign
  secure_fail : ∀ idamToken serviceToken path e,
    clients.getDocumentBinary idamToken serviceToken path = .error e → e = .feign
  /-- The secure store answers for a path that it holds, with the bytes. -/
  secure_answer : ∀ idamToken serviceToken path body,
    clients.getDocumentBinary idamToken serviceToken path = .ok body →
      ∃ document ∈ held, document.secure = true ∧ hrefPath document.href = .ok path ∧
        body = some document.content
  /-- The plain store answers for a path that it holds, with a binary link to the bytes. -/
  plain_answer : ∀ authorisation serviceToken userId role path metadata,
    clients.getDocumentMetadata authorisation serviceToken userId role path = .ok metadata →
      ∃ document ∈ held, document.secure = false ∧ hrefPath document.href = .ok path ∧
        LeadsTo clients metadata document.content

/-- Throughout a run, the stores answer for what they hold by then. -/
def Answered (held : List HeldDocument) : List StoreEvent → Prop
  | [] => True
  | .download env clients _ :: events => AnswersFor held env clients ∧ Answered held events
  | event :: events => Answered (held ++ event.held.toList) events

theorem answersFor_of_answered {held : List HeldDocument} {before after : List StoreEvent}
    {env : Env} {clients : DownloadClients} {href : String}
    (h : Answered held (before ++ .download env clients href :: after)) :
    AnswersFor (held ++ heldAfter before) env clients := by
  -- by induction on the run up to the download
  induction before generalizing held with
  | nil =>
    rw [heldAfter, List.flatMap_nil, List.append_nil]
    exact h.1
  | cons event before ih =>
    cases event with
    | download env' clients' href' => exact ih h.2
    | store env' params =>
      have hrest : AnswersFor ((held ++ (StoreEvent.store env' params).held.toList) ++
          heldAfter before) env clients := ih h
      rwa [List.append_assoc] at hrest
    | elsewhere document =>
      have hrest : AnswersFor ((held ++ [document]) ++ heldAfter before) env clients := ih h
      rwa [List.append_assoc] at hrest

/-! ## One Download -/

/-- The steps of a successful download from the plain store. -/
def PlainAnswers (env : Env) (clients : DownloadClients) (path : String) (body : Option Bytes) :
    Prop :=
  ∃ serviceAuthorization metadata binaryHref binaryPath,
    env.serviceAuthorization = .ok serviceAuthorization ∧
      clients.getDocumentMetadata s2sToken serviceAuthorization dmStoreUserId "caseworker" path =
        .ok metadata ∧
      metadata.binaryHref = some binaryHref ∧ hrefPath binaryHref = .ok binaryPath ∧
      clients.downloadBinary s2sToken serviceAuthorization dmStoreUserId "caseworker"
        binaryPath = .ok body

theorem downloadPlain_eq_ok {env : Env} {clients : DownloadClients} {href path : String}
    {bytes : Bytes} (hpath : hrefPath href = .ok path) :
    downloadPlain env clients href = .ok bytes ↔
      ∃ body, PlainAnswers env clients path body ∧ bodyBytes body = bytes := by
  obtain ⟨uri, hcreate, hrequest⟩ := bind_eq_ok.mp hpath
  constructor
  · intro hdownload
    obtain ⟨uri', hcreate', hplain⟩ := bind_eq_ok.mp hdownload
    obtain rfl : uri = uri' := Except.ok.inj (hcreate.symm.trans hcreate')
    -- the steps of the plain store's download, one after the other
    obtain ⟨serviceAuthorization, hservice, htranslated⟩ := bind_eq_ok.mp hplain
    obtain ⟨path', hrequest', hmetadata⟩ := bind_eq_ok.mp (translateClientError_eq_ok.mp htranslated)
    obtain rfl : path = path' := Except.ok.inj (hrequest.symm.trans hrequest')
    obtain ⟨metadata, hmetadata, hlink⟩ := bind_eq_ok.mp hmetadata
    obtain ⟨binaryHref, hbinaryHref, hlink⟩ := bind_eq_ok.mp hlink
    obtain ⟨binaryUri, hbinaryUri, hbinary⟩ := bind_eq_ok.mp hlink
    obtain ⟨binaryPath, hbinaryPath, hbinary⟩ := bind_eq_ok.mp hbinary
    obtain ⟨body, hbody, hbytes⟩ := bind_eq_ok.mp hbinary
    exact ⟨body, ⟨serviceAuthorization, metadata, binaryHref, binaryPath, hservice, hmetadata,
      nonNull_eq_ok.mp hbinaryHref, bind_eq_ok.mpr ⟨binaryUri, hbinaryUri, hbinaryPath⟩, hbody⟩,
      Except.ok.inj hbytes⟩
  · rintro ⟨body, ⟨serviceAuthorization, metadata, binaryHref, binaryPath, hservice, hmetadata,
      hbinaryHref, hbinaryPath, hbody⟩, rfl⟩
    obtain ⟨binaryUri, hbinaryUri, hbinaryPath⟩ := bind_eq_ok.mp hbinaryPath
    refine bind_eq_ok.mpr ⟨uri, hcreate, bind_eq_ok.mpr ⟨serviceAuthorization, hservice, ?_⟩⟩
    refine translateClientError_eq_ok.mpr (bind_eq_ok.mpr ⟨path, hrequest, ?_⟩)
    refine bind_eq_ok.mpr ⟨metadata, hmetadata, ?_⟩
    refine bind_eq_ok.mpr ⟨binaryHref, nonNull_eq_ok.mpr hbinaryHref, ?_⟩
    refine bind_eq_ok.mpr ⟨binaryUri, hbinaryUri, bind_eq_ok.mpr ⟨binaryPath, hbinaryPath, ?_⟩⟩
    exact bind_eq_ok.mpr ⟨body, hbody, rfl⟩

/-- The secure store is asked for the path of the link. -/
theorem downloadSecure_eq {env : Env} {idamTokens : IdamTokens} (clients : DownloadClients)
    {href path : String} (htokens : env.idamTokens = .ok idamTokens)
    (hpath : hrefPath href = .ok path) :
    downloadSecure env clients href =
      translateClientError ((clients.getDocumentBinary idamTokens.idamOauth2Token
        idamTokens.serviceAuthorization path).map bodyBytes) := by
  obtain ⟨uri, hcreate, hrequest⟩ := bind_eq_ok.mp hpath
  -- the link is turned into the path that the store is asked for
  have hresource : EvidenceManagementSecureDocStoreService.downloadResource clients href
      idamTokens = clients.getDocumentBinary idamTokens.idamOauth2Token
        idamTokens.serviceAuthorization path := by
    rw [EvidenceManagementSecureDocStoreService.downloadResource, hcreate]
    show requestPath uri >>= _ = _
    rw [hrequest]
    rfl
  rw [downloadSecure, htokens]
  show EvidenceManagementSecureDocStoreService.download clients href idamTokens = _
  rw [EvidenceManagementSecureDocStoreService.download, hresource]
  cases clients.getDocumentBinary idamTokens.idamOauth2Token idamTokens.serviceAuthorization path <;>
    rfl

section Answers

variable {held : List HeldDocument} {env : Env} {clients : DownloadClients} {href path : String}

/-- The attempt at the secure store ends in one of the two ways that `download` is written
for. -/
theorem AnswersFor.downloadSecure_cases (h : AnswersFor held env clients)
    (hpath : hrefPath href = .ok path) :
    downloadSecure env clients href = .error .feign ∨
      ∃ document ∈ held, document.secure = true ∧ hrefPath document.href = .ok path ∧
        downloadSecure env clients href = .ok document.content := by
  -- every failure on the way is one that the fallback catches
  cases htokens : env.idamTokens with
  | error e =>
    obtain rfl := h.tokens_fail e htokens
    left
    rw [downloadSecure, htokens]
    rfl
  | ok idamTokens =>
    rw [downloadSecure_eq clients htokens hpath]
    cases hanswer : clients.getDocumentBinary idamTokens.idamOauth2Token
        idamTokens.serviceAuthorization path with
    | error e =>
      obtain rfl := h.secure_fail _ _ _ e hanswer
      exact Or.inl rfl
    | ok body =>
      obtain ⟨document, hmem, hsecure, hdocument, rfl⟩ := h.secure_answer _ _ _ body hanswer
      exact Or.inr ⟨document, hmem, hsecure, hdocument, rfl⟩

theorem AnswersFor.plainAnswers (h : AnswersFor held env clients) {body : Option Bytes}
    (hanswers : PlainAnswers env clients path body) :
    ∃ document ∈ held, document.secure = false ∧ hrefPath document.href = .ok path ∧
      body = some document.content := by
  obtain ⟨serviceAuthorization, metadata, binaryHref, binaryPath, -, hmetadata, hbinaryHref,
    hbinaryPath, hbody⟩ := hanswers
  obtain ⟨document, hmem, hplain, hdocument, hleads⟩ := h.plain_answer _ _ _ _ _ _ hmetadata
  -- the link that the code follows is the one that the store means
  obtain ⟨binaryHref', binaryPath', hbinaryHref', hbinaryPath', hcontent⟩ := hleads
  obtain rfl : binaryHref = binaryHref' := Option.some.inj (hbinaryHref.symm.trans hbinaryHref')
  obtain rfl : binaryPath = binaryPath' := Except.ok.inj (hbinaryPath.symm.trans hbinaryPath')
  exact ⟨document, hmem, hplain, hdocument, hcontent _ _ _ _ _ hbody⟩

/-- **A download that returns** returns the bytes of a held document with the path of the
link. -/
theorem AnswersFor.download_ok (h : AnswersFor held env clients)
    (hpath : hrefPath href = .ok path) {bytes : Bytes}
    (hdownload : download env clients href = .ok bytes) :
    ∃ document ∈ held, hrefPath document.href = .ok path ∧ bytes = document.content := by
  -- the plain store, asked first or as the fallback
  have hplain : downloadPlain env clients href = .ok bytes →
      ∃ document ∈ held, hrefPath document.href = .ok path ∧ bytes = document.content := by
    intro hbytes
    obtain ⟨body, hanswers, rfl⟩ := (downloadPlain_eq_ok hpath).mp hbytes
    obtain ⟨document, hmem, -, hdocument, rfl⟩ := h.plainAnswers hanswers
    exact ⟨document, hmem, hdocument, rfl⟩
  unfold download at hdownload
  split_ifs at hdownload with hsecure
  · rcases h.downloadSecure_cases hpath with hfeign | ⟨document, hmem, -, hdocument, hcontent⟩
    · rw [hfeign] at hdownload
      exact hplain hdownload
    · rw [hcontent] at hdownload
      exact ⟨document, hmem, hdocument, (Except.ok.inj hdownload).symm⟩
  · exact hplain hdownload

/-- The store that holds a document answers the download of it normally, and so does the
service that authorises the request. -/
def HolderAnswers (env : Env) (clients : DownloadClients) (document : HeldDocument) : Prop :=
  ∃ path, hrefPath document.href = .ok path ∧
    if document.secure then
      ∃ idamTokens body, env.idamTokens = .ok idamTokens ∧
        clients.getDocumentBinary idamTokens.idamOauth2Token idamTokens.serviceAuthorization
          path = .ok body
    else ∃ body, PlainAnswers env clients path body

/-- **The switch hides no document**: if the store that holds it answers, the download returns
it, with the plain store selected or not. -/
theorem AnswersFor.download_of_holderAnswers (h : AnswersFor held env clients)
    (hlinks : WellLinked held) {document : HeldDocument} (hmem : document ∈ held)
    (hselected : document.secure = true → env.secureDocStoreEnabled = true)
    (hanswers : HolderAnswers env clients document) :
    download env clients document.href = .ok document.content := by
  obtain ⟨path, hpath, hholder⟩ := hanswers
  have honly : ∀ other ∈ held, hrefPath other.href = .ok path → other = document :=
    fun other hother hsame => hlinks.eq_of_hrefPath hother hmem (hsame.trans hpath.symm)
  cases hsecure : document.secure with
  | true =>
    rw [hsecure, if_pos rfl] at hholder
    obtain ⟨idamTokens, body, htokens, hbody⟩ := hholder
    obtain ⟨other, hother, -, hsame, rfl⟩ := h.secure_answer _ _ _ _ hbody
    obtain rfl := honly other hother hsame
    rw [download, if_pos (hselected hsecure), downloadSecure_eq clients htokens hpath, hbody]
    rfl
  | false =>
    rw [hsecure, if_neg Bool.false_ne_true] at hholder
    obtain ⟨body, hplain⟩ := hholder
    obtain ⟨other, hother, -, hsame, rfl⟩ := h.plainAnswers hplain
    obtain rfl := honly other hother hsame
    have hdownload : downloadPlain env clients other.href = .ok other.content :=
      (downloadPlain_eq_ok hpath).mpr ⟨_, hplain, rfl⟩
    unfold download
    split_ifs with hselected
    · -- the secure store does not have the path, so it fails in the way that is carried on from
      rcases h.downloadSecure_cases hpath with hfeign | ⟨found, hfound, hfoundSecure, hsame', -⟩
      · rw [hfeign]
        exact hdownload
      · obtain rfl := honly found hfound hsame'
        rw [hsecure] at hfoundSecure
        cases hfoundSecure
    · exact hdownload

end Answers

/-! ## Whole Runs -/

/-- A run across the switch: the plain store is selected in a first phase and the secure one
afterwards. -/
structure SwitchedRun (first second : List StoreEvent) : Prop where
  plain : ∀ event ∈ first, event.Selects false
  secure : ∀ event ∈ second, event.Selects true
  links : WellLinked (heldAfter (first ++ second))
  answered : Answered [] (first ++ second)

theorem WellLinked.of_append {documents others : List HeldDocument}
    (h : WellLinked (documents ++ others)) : WellLinked documents where
  absolute document hmem := h.absolute document (List.mem_append_left others hmem)
  distinct := by
    have hdistinct := h.distinct
    rw [List.map_append] at hdistinct
    exact hdistinct.of_append_left

/-- **Round trip across the switch**: wherever in a run a link is followed that `storeDocument`
returned before, the download fails or returns the bytes stored then, and it returns them if
the store that holds them answers. -/
theorem download_storedDocument {first second before after : List StoreEvent}
    {env storeEnv : Env} {clients : DownloadClients} {href : String} {params : UpdateDocParams}
    {w : World} {document : SscsDocument} (h : SwitchedRun first second)
    (hrun : first ++ second = before ++ .download env clients href :: after)
    (hstore : .store storeEnv params ∈ before)
    (hreturned : resultOf (storeDocument storeEnv params) w = .ok (some document))
    (hlink : documentUrlOf document = some href) :
    (∀ bytes, download env clients href = .ok bytes → bytes = params.pdf) ∧
      (HolderAnswers env clients ⟨storeEnv.secureDocStoreEnabled, href, params.pdf⟩ →
        download env clients href = .ok params.pdf) := by
  have hmem := mem_heldAfter hstore hreturned hlink
  have hanswers : AnswersFor (heldAfter before) env clients := by
    have hanswered := h.answered
    rw [hrun] at hanswered
    exact answersFor_of_answered hanswered
  have hlinks : WellLinked (heldAfter before) := by
    have hall := h.links
    rw [hrun, heldAfter, List.flatMap_append] at hall
    exact hall.of_append
  constructor
  · intro bytes hdownload
    obtain ⟨uri, rest, hcreate, -, hgetPath⟩ := hlinks.absolute _ hmem
    have hpath := hrefPath_of_getPath hcreate hgetPath
    obtain ⟨found, hfound, hsame, rfl⟩ := hanswers.download_ok hpath hdownload
    -- the path of the link is that of no other document
    rw [hlinks.eq_of_hrefPath hfound hmem (hsame.trans hpath.symm)]
  · exact hanswers.download_of_holderAnswers hlinks hmem
      (secure_of_switch h.plain h.secure hrun hstore)

/-! ### A Run -/

/-- A link over HTTP. -/
def httpLink (authority path : String) (hne : authority.toList ≠ [])
    (hauthority : authority.toList.all isRegNameChar = true)
    (hpath : path.toList.all isPathChar = true) : PlainLink where
  initial := 'h'
  scheme := ['t', 't', 'p']
  authority := authority.toList
  path := path.toList
  isAlpha_initial := rfl
  isSchemeChar_scheme := List.all_eq_true.mp rfl
  authority_ne_nil := hne
  isRegNameChar_authority := List.all_eq_true.mp hauthority
  isPathChar_path := List.all_eq_true.mp hpath

/-- A document of the plain store, -/
def plainLink : PlainLink :=
  httpLink "dm-store" "documents/1" (by decide) rfl rfl

/-- its bytes, -/
def binaryLink : PlainLink :=
  httpLink "dm-store" "documents/1/binary" (by decide) rfl rfl

/-- and a document of the secure store. -/
def secureLink : PlainLink :=
  httpLink "case-document" "cases/documents/2" (by decide) rfl rfl

/-- The plain store gives out its link. -/
def beforeSwitch : Env :=
  { Env.answering with
    documentUpload := fun _ _ _ _ _ _ => .ok ⟨[{ selfHref := plainLink.text }]⟩ }

/-- So does the secure store. -/
def afterSwitch : Env :=
  { Env.answering with
    secureDocStoreEnabled := true
    caseDocumentUpload := fun _ _ _ _ _ => .ok ⟨[{ selfHref := secureLink.text }]⟩ }

/-- Each store answers for its own document. -/
def sampleClients : DownloadClients where
  getDocumentBinary _ _ path :=
    if path = String.ofList secureLink.path then .ok (some [3]) else .error .feign
  getDocumentMetadata _ _ _ _ path :=
    if path = String.ofList plainLink.path then .ok ⟨some binaryLink.text⟩
    else .error .httpClientError
  downloadBinary _ _ _ _ path :=
    if path = String.ofList binaryLink.path then .ok (some [1, 2]) else .error .httpClientError

/-- What the stores hold. -/
def sampleDocuments : List HeldDocument :=
  [⟨false, plainLink.text, [1, 2]⟩, ⟨true, secureLink.text, [3]⟩]

theorem answersFor_sampleClients : AnswersFor sampleDocuments afterSwitch sampleClients where
  tokens_fail e he := nomatch he
  secure_fail idamToken serviceToken path e he := by
    simp only [sampleClients] at he
    split_ifs at he
    exact (Except.error.inj he).symm
  secure_answer idamToken serviceToken path body hbody := by
    simp only [sampleClients] at hbody
    split_ifs at hbody with hpath
    subst hpath
    exact ⟨_, List.mem_cons_of_mem _ List.mem_cons_self, rfl, hrefPath_text secureLink,
      (Except.ok.inj hbody).symm⟩
  plain_answer authorisation serviceToken userId role path metadata hmetadata := by
    simp only [sampleClients] at hmetadata
    -- only the path of the one document is answered
    split_ifs at hmetadata with hpath
    subst hpath
    obtain rfl := Except.ok.inj hmetadata
    refine ⟨_, List.mem_cons_self, rfl, hrefPath_text plainLink, _, _, rfl,
      hrefPath_text binaryLink, ?_⟩
    intro authorisation serviceToken userId role body hbody
    simp only [sampleClients, if_true] at hbody
    exact (Except.ok.inj hbody).symm

/-- A letter is stored before the switch, -/
def firstPhase : List StoreEvent := [.store beforeSwitch { pdf := [1, 2] }]

/-- and downloaded after it, when the secure store has taken another. -/
def secondPhase : List StoreEvent :=
  [.store afterSwitch { pdf := [3] }, .download afterSwitch sampleClients plainLink.text]

theorem switchedRun_sample : SwitchedRun firstPhase secondPhase where
  plain := by simp [firstPhase, StoreEvent.Selects, beforeSwitch, Env.answering]
  secure := by simp [secondPhase, StoreEvent.Selects, afterSwitch]
  links := by
    show WellLinked sampleDocuments
    -- two links without escapes, and with different paths
    refine wellLinked_of_plainLinks (fun document hmem => ?_) (by decide +kernel)
    simp only [sampleDocuments, List.mem_cons, List.not_mem_nil, or_false] at hmem
    rcases hmem with rfl | rfl
    · exact ⟨plainLink, rfl⟩
    · exact ⟨secureLink, rfl⟩
  answered := ⟨answersFor_sampleClients, trivial⟩

/-- The secure store does not know the path of the letter, and the plain store returns it. -/
theorem download_beforeSwitch :
    download afterSwitch sampleClients plainLink.text = .ok [1, 2] := by
  have hrun : firstPhase ++ secondPhase =
      [.store beforeSwitch { pdf := [1, 2] }, .store afterSwitch { pdf := [3] }] ++
        [.download afterSwitch sampleClients plainLink.text] := rfl
  have hreturned : resultOf (storeDocument beforeSwitch { pdf := [1, 2] }) World.sample =
      .ok (some (documentOf beforeSwitch { pdf := [1, 2] }
        { documentUrl := some plainLink.text })) := rfl
  refine (download_storedDocument switchedRun_sample hrun List.mem_cons_self hreturned rfl).2 ?_
  exact ⟨_, hrefPath_text plainLink, some [1, 2], "", ⟨some binaryLink.text⟩, _, _, rfl,
    by simp [sampleClients], rfl, hrefPath_text binaryLink, by simp [sampleClients]⟩

end SscsPdfEmail.Service
