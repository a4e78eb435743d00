import SscsPdfEmail.Service.ServiceRuns
import SscsPdfEmail.Service.MergedLetters
import SscsPdfEmail.Service.ReasonableAdjustmentRuns
import SscsPdfEmail.Service.StoreRoundTrip

/-!
# Link Integrity

A case is full of links to documents in the stores.  No operation of the services puts a link
into the case, or into the case data object of the caller, that does not lead to a document that
a store holds, in whatever order they are called and whatever fails on the way (`Sound.run`).
What a link leads to can be downloaded, and is the file that was merged (`links_download`), from
the plain store always and from the secure one while it is selected.

The state is a world together with what the stores hold.  Events are calls of the services, the
caller reading the case again, and other parties storing documents.  `AllLinks` quantifies over
the links of a case; it is kept by adding entries, letters and documents whose links are good,
which is all that the operations do to a case.
-/

namespace SscsPdfEmail.Service

open SscsPdfEmail.Domain
open CcdPdfService CcdNotificationsPdfService PdfStoreService

/-! ## Links -/

/-- All links of a case are of one kind. -/
structure AllLinks (p : Option DocumentLink → Prop) (caseData : SscsCaseData) : Prop where
  correspondence : ∀ c ∈ caseData.correspondences, p (c.value.bind (·.documentLink))
  letters : ∀ party, ∀ c ∈ (caseData.lettersOf party).getD [],
    p (c.value.bind (·.documentLink))
  sscs : ∀ d ∈ caseData.sscsDocument.getD [], p (d.value.bind (·.documentLink))
  scanned : ∀ d ∈ caseData.scannedDocuments.getD [], p (d.value.bind (·.url))

theorem AllLinks.imp {p q : Option DocumentLink → Prop} {caseData : SscsCaseData}
    (h : AllLinks p caseData) (hpq : ∀ link, p link → q link) : AllLinks q caseData where
  correspondence c hc := hpq _ (h.correspondence c hc)
  letters party c hc := hpq _ (h.letters party c hc)
  sscs d hd := hpq _ (h.sscs d hd)
  scanned d hd := hpq _ (h.scanned d hd)

/-- The link leads to a document that a store holds. -/
def LinksTo (held : List HeldDocument) (link : Option DocumentLink) : Prop :=
  ∃ document ∈ held, link.bind (·.documentUrl) = some document.href

theorem LinksTo.mono {held held' : List HeldDocument} (hsub : held ⊆ held')
    {link : Option DocumentLink} (h : LinksTo held link) : LinksTo held' link := by
  obtain ⟨document, hmem, hlink⟩ := h
  exact ⟨document, hsub hmem, hlink⟩

/-! ## New links -/

/-- A document that `storeDocument` returns is held under its link. -/
theorem linksTo_of_outcome {env : Env} {params : UpdateDocParams} {document : SscsDocument}
    (h : outcome env params = .ok (some document)) :
    LinksTo (StoreEvent.store env params).held.toList (document.value.bind (·.documentLink)) := by
  have hheld : (StoreEvent.store env params).held =
      (documentUrlOf document).map fun href =>
        ⟨env.secureDocStoreEnabled, href, params.pdf⟩ := by
    simp only [StoreEvent.held, h]
  unfold outcome at h
  split at h
  · rename_i uploaded uploads hanswer
    cases h
    -- the link of either store has the address that the store gave out
    have hlink : (selectedLink env params uploaded).documentUrl = some uploaded.selfHref := by
      unfold selectedLink
      split <;> rfl
    have hurl : documentUrlOf (documentOf env params (selectedLink env params uploaded)) =
        some uploaded.selfHref := hlink
    rw [hurl] at hheld
    rw [hheld]
    exact ⟨_, List.mem_singleton_self _, hlink⟩
  · cases h
  · split at h <;> cases h

section Merging

variable (common : SscsCommon) {p : Option DocumentLink → Prop} {entries : List Correspondence}
  {caseData : SscsCaseData}

/-- New entries keep the kind of the links if they are of that kind. -/
theorem AllLinks.addCorrespondences (h : AllLinks p caseData)
    (hentries : ∀ c ∈ entries, p (c.value.bind (·.documentLink))) :
    AllLinks p (addCorrespondences common entries caseData) where
  correspondence c hc := by
    have hmem : c ∈ caseData.correspondences ++ entries :=
      (common.sortReverseOrder_perm _).mem_iff.mp hc
    -- sorting makes up no entries
    rcases List.mem_append.mp hmem with hold | hnew
    · exact h.correspondence c hold
    · exact hentries c hnew
  letters := h.letters
  sscs := h.sscs
  scanned := h.scanned

theorem AllLinks.addLetters (hflag : common.UpdatesOnlyFlag) (h : AllLinks p caseData)
    (hentries : ∀ c ∈ entries, p (c.value.bind (·.documentLink))) (party : LetterType) :
    AllLinks p (addLetters common entries party caseData) := by
  have hletters := lettersOf_addLetters common caseData entries party
  obtain ⟨flag, hflag⟩ := hflag
    { caseData with
      reasonableAdjustmentsLetters :=
        some (buildCorrespondenceByParty common caseData entries party) }
  -- sscs-common only sets the flag
  have hframe : CcdNotificationsPdfService.addLetters common entries party caseData =
      { caseData with
        reasonableAdjustmentsLetters :=
          some (buildCorrespondenceByParty common caseData entries party)
        reasonableAdjustmentsOutstanding := flag } := hflag
  refine ⟨?_, ?_, ?_, ?_⟩
  · rw [hframe]
    exact h.correspondence
  · intro other c hc
    rw [hletters] at hc
    -- the letters of one party have grown by the new entries
    split at hc
    · have hmem : c ∈ (caseData.lettersOf party).getD [] ++ entries :=
        (common.sortReverseOrder_perm _).mem_iff.mp hc
      rcases List.mem_append.mp hmem with hold | hnew
      · exact h.letters party c hold
      · exact hentries c hnew
    · exact h.letters other c hc
  · rw [hframe]
    exact h.sscs
  · rw [hframe]
    exact h.scanned

/-- An element on the right of a pairing has a partner. -/
theorem exists_of_mem_right {α β : Type} {r : α → β → Prop} {l : List α} {l' : List β}
    (h : List.Forall₂ r l l') {b : β} (hb : b ∈ l') : ∃ a ∈ l, r a b := by
  induction h with
  | nil => cases hb
  | cons hfirst _ ih =>
    rcases List.mem_cons.mp hb with rfl | hmem
    · exact ⟨_, List.mem_cons_self, hfirst⟩
    · obtain ⟨a, ha, hr⟩ := ih hmem
      exact ⟨a, List.mem_cons_of_mem _ ha, hr⟩

/-- So do documents, scanned or not. -/
theorem AllLinks.of_routedTo {statements others : List SscsDocument} {final : SscsCaseData}
    (h : AllLinks p caseData) (hrouted : RoutedTo statements others caseData final)
    (hstatements : ∀ d ∈ statements, p (d.value.bind (·.documentLink)))
    (hothers : ∀ d ∈ others, p (d.value.bind (·.documentLink))) : AllLinks p final := by
  obtain ⟨added, hadded, hscanned⟩ := hrouted.scanned
  refine ⟨?_, ?_, ?_, ?_⟩
  · rw [hrouted.frame]
    exact h.correspondence
  · rw [hrouted.frame]
    exact h.letters
  · intro d hd
    rw [hrouted.sscs] at hd
    rcases List.mem_append.mp hd with hold | hnew
    · exact h.sscs d hold
    · exact hothers d hnew
  · intro d hd
    rw [hscanned] at hd
    rcases List.mem_append.mp hd with hold | hnew
    · exact h.scanned d hold
    -- a scanned document has the link of the one it was made from
    · obtain ⟨document, hdocument, details, scannedDetails, hvalue, hscannedValue, -, hurl, -⟩ :=
        exists_of_mem_right hadded hnew
      have hlink := hstatements document hdocument
      rw [hvalue] at hlink
      rw [hscannedValue]
      show p scannedDetails.url
      rw [hurl]
      exact hlink

end Merging

/-- What is held after a store call was uploaded in it. -/
theorem exists_upload_of_held {env : Env} {params : UpdateDocParams} {document : HeldDocument}
    (h : document ∈ (StoreEvent.store env params).held.toList) :
    ∃ file ∈ uploadsOf env params, file.content = document.content := by
  simp only [StoreEvent.held] at h
  split at h
  · -- the store holds what it answered for, and was sent just that
    rename_i stored houtcome
    obtain ⟨response, hanswer⟩ := answerOf_of_outcome_some houtcome
    obtain ⟨href, -, rfl⟩ := Option.map_eq_some_iff.mp (Option.mem_toList.mp h)
    rw [uploadsOf, hanswer]
    exact ⟨_, List.mem_singleton_self _, rfl⟩
  · cases h

/-! ## Calls -/

namespace Merge

/-- What the stores hold in addition after a merge. -/
def held (m : Merge) : List HeldDocument :=
  -- a merge that fails before it stores leaves nothing behind
  if m.stores then
    match m.pdf with
    | .ok pdf =>
      match storeParamsOf pdf m.correspondence with
      | .ok params => (StoreEvent.store m.env params).held.toList
      | .error _ => []
    | .error _ => []
  else []

theorem exists_upload_of_mem_held {m : Merge} {document : HeldDocument} (h : document ∈ m.held) :
    ∃ file ∈ m.uploads, file.content = document.content := by
  unfold held at h
  split at h
  · rename_i hstores
    rw [uploads, if_pos hstores, entriesUploads]
    -- up to the store, uploads and held documents are computed alike
    cases hpdf : m.pdf with
    | error e =>
      rw [hpdf] at h
      cases h
    | ok pdf =>
      simp only [hpdf, uploadsFor] at h ⊢
      cases hparams : storeParamsOf pdf m.correspondence with
      | error e =>
        rw [hparams] at h
        cases h
      | ok params =>
        rw [hparams] at h
        exact exists_upload_of_held h
  · cases h

/-- The entry of a merge has the link of its document. -/
theorem linksTo_of_mem_entry {m : Merge} (hstores : m.stores = true) {c : Correspondence}
    (hc : c ∈ m.entry.toList) : LinksTo m.held (c.value.bind (·.documentLink)) := by
  unfold entry at hc
  cases hstored : m.storedDocument with
  | error e =>
    rw [hstored] at hc
    cases hc
  | ok stored =>
    rw [hstored] at hc
    obtain ⟨document, rfl, rfl⟩ := Option.map_eq_some_iff.mp (Option.mem_toList.mp hc)
    obtain ⟨pdf, hpdf, hstored⟩ := bind_eq_ok.mp hstored
    obtain ⟨params, hparams, houtcome⟩ := bind_eq_ok.mp hstored
    have hheld : m.held = (StoreEvent.store m.env params).held.toList := by
      simp only [held, hstores, hpdf, hparams, if_true]
    obtain ⟨value, hvalue⟩ := Option.isSome_iff_exists.mp (value_isSome_of_storeParamsOf hparams)
    -- the entry is given the link of the stored document
    have hlink : (entryOf m.correspondence document).value.bind (·.documentLink) =
        document.value.bind (·.documentLink) := by
      simp only [entryOf, setDocumentLink, hvalue, Option.map_some, Option.bind_some]
    rw [hheld, hlink]
    exact linksTo_of_outcome houtcome

/-- A merge that gets as far as CCD has been through the document store. -/
theorem stores_of_submits {m : Merge} {w : World} (h : m.submits w = true) : m.stores = true := by
  have hreaches := (Bool.and_eq_true_iff.mp h).2
  have htokens : m.env.idamTokens.toBool = true := (Bool.and_eq_true_iff.mp hreaches).1
  simp [stores, htokens]

theorem allLinks_call {common : SscsCommon} (hflag : common.UpdatesOnlyFlag) (m : Merge)
    {p : Option DocumentLink → Prop} {w : World} (hcase : AllLinks p w.caseData)
    (hobject : AllLinks p w.callerCaseData)
    (hnew : m.stores = true → ∀ c ∈ m.entry.toList, p (c.value.bind (·.documentLink))) :
    AllLinks p (worldAfter (m.call common) w).caseData ∧
      AllLinks p (worldAfter (m.call common) w).callerCaseData := by
  constructor
  · rw [caseData_worldAfter_call, acceptedAt_eq]
    split
    · rename_i haccepted
      have hentries := hnew (stores_of_submits (Bool.and_eq_true_iff.mp haccepted).1)
      have hbase : AllLinks p (m.base w) := by
        unfold base
        split
        · exact hobject
        · exact hcase
      cases hparty : m.letterType with
      | none =>
        rw [apply_of_correspondence common hparty]
        exact hbase.addCorrespondences common hentries
      | some party =>
        rw [apply_of_party common hparty]
        exact hbase.addLetters common hflag hentries party
    · exact hcase
  · have hcaller : (worldAfter (m.call common) w).callerCaseData = m.callerAfter common w := by
      rcases m.worldAfter_call common w with ⟨-, hw⟩ | ⟨-, update, -, hw⟩
      · rw [hw]
        rfl
      · rw [hw]
        rfl
    rw [hcaller, callerAfter]
    split
    · rename_i entries hn hg hentries
      have hstores : m.stores = true := by simp [stores, letterType, hn]
      rw [m.entries_eq hentries]
      exact hobject.addCorrespondences common (hnew hstores)
    · exact hobject

end Merge

namespace MergeDoc

/-- What the stores hold in addition after a call. -/
def held (m : MergeDoc) : List HeldDocument := (StoreEvent.store m.env m.params).held.toList

theorem linksTo_of_document {m : MergeDoc} {document : SscsDocument}
    (h : m.updateDocCall.document = some document) :
    LinksTo m.held (document.value.bind (·.documentLink)) := by
  apply linksTo_of_outcome
  unfold UpdateDocCall.document at h
  split at h
  · rename_i hstored _
    cases h
    exact hstored
  · cases h

theorem allLinks_call (m : MergeDoc) {p : Option DocumentLink → Prop} {w : World}
    (hcase : AllLinks p w.caseData) (hobject : AllLinks p w.callerCaseData)
    (hnew : ∀ document, m.updateDocCall.document = some document →
      p (document.value.bind (·.documentLink))) :
    AllLinks p (worldAfter m.call w).caseData ∧
      AllLinks p (worldAfter m.call w).callerCaseData := by
  cases hrecorded : m.updateDocCall.recorded w.callerCaseData with
  | error e =>
    rw [worldAfter_call_of_not_recorded hrecorded]
    exact ⟨hcase, hobject⟩
  | ok caseData =>
    have hlinks : AllLinks p caseData := by
      apply hobject.of_routedTo (UpdateDocCall.routedTo_of_recorded hrecorded)
      · intro d hd
        apply hnew
        unfold UpdateDocCall.statementDocument at hd
        split at hd
        · exact Option.mem_toList.mp hd
        · cases hd
      · intro d hd
        apply hnew
        unfold UpdateDocCall.otherDocument at hd
        split at hd
        · cases hd
        · exact Option.mem_toList.mp hd
    rw [worldAfter_call_of_recorded hrecorded]
    refine ⟨?_, hlinks⟩
    show AllLinks p (if m.env.accepts then caseData else w.caseData)
    split
    · exact hlinks
    · exact hcase

end MergeDoc

/-- What the stores hold in addition after a call for an object. -/
def Operation.held {Value : Type} (o : Operation Value) (object : SscsCaseData) :
    List HeldDocument :=
  match o with
  | .merge m => m.held
  | .document m => m.held
  | .generate d =>
    match d.generated object.ccdCaseId with
    | .ok (_, m) => m.held
    | .error _ => []

/-! ## Runs -/

/-- The world of the services, and the document stores. -/
structure System where
  world : World
  /-- What the two stores hold. -/
  held : List HeldDocument
  /-- The documents among them that other parties have stored. -/
  elsewhere : List HeldDocument

namespace System

variable {Value : Type}

inductive Event (Value : Type) where
  | call (o : Operation Value)
  /-- The caller reads the case again. -/
  | refresh
  /-- Another party stores a document. -/
  | elsewhere (document : HeldDocument)

section Runs

variable (common : SscsCommon)

def step (s : System) : Event Value → System
  | .call o =>
    { s with
      world := worldAfter (o.call common) s.world
      held := s.held ++ o.held s.world.callerCaseData }
  | .refresh => { s with world := s.world.refreshCaller }
  | .elsewhere document =>
    { s with held := s.held ++ [document], elsewhere := s.elsewhere ++ [document] }

def run (s : System) (events : List (Event Value)) : System := events.foldl (step common) s

end Runs

/-- The documents of others apart, what the stores hold was uploaded by the services. -/
def Backed (s : System) (document : HeldDocument) : Prop :=
  document ∈ s.elsewhere ∨ ∃ file ∈ s.world.uploads, file.content = document.content

/-- No link of the case or of the caller's object leads nowhere. -/
structure Sound (s : System) : Prop where
  caseData : AllLinks (LinksTo s.held) s.world.caseData
  object : AllLinks (LinksTo s.held) s.world.callerCaseData
  backed : ∀ document ∈ s.held, s.Backed document

variable {common : SscsCommon} {s : System}

/-- A call that keeps the kind of the links if its new links are of that kind. -/
theorem Sound.call_of (hs : s.Sound) {w' : World} {held : List HeldDocument}
    {uploads : List ByteArrayMultipartFile}
    (hlinks : ∀ p : Option DocumentLink → Prop, AllLinks p s.world.caseData →
      AllLinks p s.world.callerCaseData → (∀ link, LinksTo held link → p link) →
        AllLinks p w'.caseData ∧ AllLinks p w'.callerCaseData)
    (huploads : w'.uploads = s.world.uploads ++ uploads)
    (hheld : ∀ document ∈ held, ∃ file ∈ uploads, file.content = document.content) :
    Sound { s with world := w', held := s.held ++ held } := by
  -- documents are never removed, so old links stay good
  have hold := List.subset_append_left s.held held
  have hnew := List.subset_append_right s.held held
  obtain ⟨hcase, hobject⟩ := hlinks (LinksTo (s.held ++ held))
    (hs.caseData.imp fun _ => LinksTo.mono hold) (hs.object.imp fun _ => LinksTo.mono hold)
    fun _ => LinksTo.mono hnew
  refine ⟨hcase, hobject, fun document hmem => ?_⟩
  have hmono : ∀ file ∈ s.world.uploads, file ∈ w'.uploads := by
    intro file hfile
    rw [huploads]
    exact List.mem_append_left uploads hfile
  rcases List.mem_append.mp hmem with hmem | hmem
  · rcases hs.backed document hmem with helsewhere | ⟨file, hfile, hcontent⟩
    · exact Or.inl helsewhere
    · exact Or.inr ⟨file, hmono file hfile, hcontent⟩
  · -- a new document was uploaded in this call
    obtain ⟨file, hfile, hcontent⟩ := hheld document hmem
    refine Or.inr ⟨file, ?_, hcontent⟩
    show file ∈ w'.uploads
    rw [huploads]
    exact List.mem_append_right s.world.uploads hfile

theorem Sound.document (hs : s.Sound) (m : MergeDoc) :
    Sound { s with world := worldAfter m.call s.world, held := s.held ++ m.held } := by
  refine hs.call_of ?_ (m.uploads_worldAfter_call s.world) fun _ => exists_upload_of_held
  intro p hcase hobject hnew
  exact m.allLinks_call hcase hobject fun document hdocument =>
    hnew _ (MergeDoc.linksTo_of_document hdocument)

theorem Sound.merge (hflag : common.UpdatesOnlyFlag) (hs : s.Sound) (m : Merge) :
    Sound { s with world := worldAfter (m.call common) s.world, held := s.held ++ m.held } := by
  refine hs.call_of ?_ (m.uploads_worldAfter_call common s.world)
    fun _ => Merge.exists_upload_of_mem_held
  intro p hcase hobject hnew
  exact m.allLinks_call hflag hcase hobject fun hstores c hc =>
    hnew _ (Merge.linksTo_of_mem_entry hstores hc)

theorem Sound.step (hflag : common.UpdatesOnlyFlag) (hs : s.Sound) (event : Event Value) :
    (s.step common event).Sound := by
  -- one case for each thing that can happen between the caller, the services and the stores
  cases event with
  | refresh => exact ⟨hs.caseData, hs.caseData, hs.backed⟩
  | elsewhere document =>
    have hold := List.subset_append_left s.held [document]
    refine ⟨hs.caseData.imp fun _ => LinksTo.mono hold,
      hs.object.imp fun _ => LinksTo.mono hold, fun found hmem => ?_⟩
    rcases List.mem_append.mp hmem with hmem | hmem
    · rcases hs.backed found hmem with helsewhere | hupload
      · exact Or.inl (List.mem_append_left [document] helsewhere)
      · exact Or.inr hupload
    · exact Or.inl (List.mem_append_right s.elsewhere hmem)
  | call o =>
    cases o with
    | merge m => exact hs.merge hflag m
    | document m => exact hs.document m
    | generate d =>
      simp only [System.step, Operation.worldAfter_call_generate, GenerateDocument.worldAfter_call,
        Operation.held]
      -- what cannot be generated is not stored
      cases d.generated s.world.callerCaseData.ccdCaseId with
      | error e =>
        simp only [List.append_nil]
        exact hs
      | ok generated => exact hs.document generated.2

theorem Sound.run (hflag : common.UpdatesOnlyFlag) (hs : s.Sound) (events : List (Event Value)) :
    (s.run common events).Sound := by
  induction events generalizing s with
  | nil => exact hs
  | cons event events ih => exact ih (hs.step hflag event)

/-! ## Downloads -/

/-- The link leads to a document of the stores, and a download of it fails or returns the
document; it returns it if the store that holds it answers. -/
def Downloads (s : System) (env : Env) (clients : DownloadClients) (link : Option DocumentLink) :
    Prop :=
  ∃ document ∈ s.held, link.bind (·.documentUrl) = some document.href ∧ s.Backed document ∧
    (∀ bytes, download env clients document.href = .ok bytes → bytes = document.content) ∧
    ((document.secure = true → env.secureDocStoreEnabled = true) →
      HolderAnswers env clients document →
        download env clients document.href = .ok document.content)

theorem Sound.downloads (hs : s.Sound) (hlinks : WellLinked s.held) {env : Env}
    {clients : DownloadClients} (hanswers : AnswersFor s.held env clients)
    {link : Option DocumentLink} (hlink : LinksTo s.held link) : s.Downloads env clients link := by
  obtain ⟨document, hmem, hurl⟩ := hlink
  refine ⟨document, hmem, hurl, hs.backed document hmem, ?_, ?_⟩
  · intro bytes hdownload
    obtain ⟨uri, rest, hcreate, -, hgetPath⟩ := hlinks.absolute document hmem
    have hpath := hrefPath_of_getPath hcreate hgetPath
    obtain ⟨found, hfound, hsame, rfl⟩ := hanswers.download_ok hpath hdownload
    -- the path of the link is that of no other document
    rw [hlinks.eq_of_hrefPath hfound hmem (hsame.trans hpath.symm)]
  · intro hselected hholder
    exact hanswers.download_of_holderAnswers hlinks hmem hselected hholder

/-- **Link integrity**: after any run of the services from a sound state, every link of the case
and of the caller's object can be followed to the document it was made for. -/
theorem links_download (hflag : common.UpdatesOnlyFlag) (hs : s.Sound)
    (events : List (Event Value)) (hlinks : WellLinked (s.run common events).held) {env : Env}
    {clients : DownloadClients} (hanswers : AnswersFor (s.run common events).held env clients) :
    AllLinks ((s.run common events).Downloads env clients) (s.run common events).world.caseData ∧
      AllLinks ((s.run common events).Downloads env clients)
        (s.run common events).world.callerCaseData := by
  -- a link that leads to a held document can be downloaded, and all do
  have hrun := hs.run hflag events
  exact ⟨hrun.caseData.imp fun _ => hrun.downloads hlinks hanswers,
    hrun.object.imp fun _ => hrun.downloads hlinks hanswers⟩

/-- A letter and a document, stored before and after the switch. -/
def sampleEvents : List (Event Unit) :=
  [.call (.merge { Merge.sample .v2 (.letter [1, 2] none) with env := beforeSwitch }),
    .call (.document ⟨afterSwitch, .untyped (some "Letter.pdf") [3] (some 1)⟩)]

def start : System := ⟨.sample, [], []⟩

theorem sound_start : start.Sound := by
  have hnone : AllLinks (LinksTo []) World.sample.caseData := by
    constructor <;>
      simp [World.sample, SscsCaseData.correspondences, SscsCaseData.lettersOf]
  exact ⟨hnone, hnone, fun document h => absurd h List.not_mem_nil⟩

theorem links_download_sample :
    AllLinks ((start.run .bySentOn sampleEvents).Downloads afterSwitch sampleClients)
        (start.run .bySentOn sampleEvents).world.caseData ∧
      AllLinks ((start.run .bySentOn sampleEvents).Downloads afterSwitch sampleClients)
        (start.run .bySentOn sampleEvents).world.callerCaseData := by
  have hheld : (start.run .bySentOn sampleEvents).held = sampleDocuments := rfl
  refine links_download SscsCommon.bySentOn_updatesOnlyFlag sound_start sampleEvents ?_ ?_
  · rw [hheld]
    exact switchedRun_sample.links
  · rw [hheld]
    exact answersFor_sampleClients

end System

end SscsPdfEmail.Service
