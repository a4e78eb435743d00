import SscsPdfEmail.Domain.Java
import SscsPdfEmail.Library.StableSort
import Mathlib.Data.Int.Order.Basic

/-!
# Case Data

The records of sscs-common that the services read and write, under the names they have there.  A
record keeps the fields that some modelled function uses; everything else in a case travels in
`otherFields`, so that a frame condition speaks of it as well.  Every field of a Java object may
be null, and lists may be null or empty, which the services do not always treat alike.

The two pieces of sscs-common behaviour that the services rely on, the order of correspondences
and the reasonable-adjustments flag, are the parameters collected in `SscsCommon`, with what is
documented of them.  `SscsCommon.bySentOn` is an instance: the newest first by date and time, and
the flag set while a letter awaits its adjustment.
-/

namespace SscsPdfEmail.Domain

open SscsPdfEmail.Library

/-! ## Documents -/

structure DocumentLink where
  documentUrl : Option String := none
  documentBinaryUrl : Option String := none
  documentFilename : Option String := none
  documentHash : Option String := none
deriving DecidableEq, Repr

inductive SscsDocumentTranslationStatus where
  | translationRequired
  | otherStatus (name : String)
deriving DecidableEq, Repr

structure SscsDocumentDetails where
  documentFileName : Option String := none
  documentDateAdded : Option String := none
  documentLink : Option DocumentLink := none
  documentType : Option String := none
  documentTranslationStatus : Option SscsDocumentTranslationStatus := none
  originalSenderOtherPartyId : Option String := none
  originalSenderOtherPartyName : Option String := none
deriving DecidableEq, Repr

structure SscsDocument where
  value : Option SscsDocumentDetails
deriving DecidableEq, Repr

structure ScannedDocumentDetails where
  fileName : Option String := none
  url : Option DocumentLink := none
  scannedDate : Option String := none
  originalSenderOtherPartyId : Option String := none
  originalSenderOtherPartyName : Option String := none
  type : Option String := none
deriving DecidableEq, Repr

structure ScannedDocument where
  value : Option ScannedDocumentDetails
deriving DecidableEq, Repr

/-! ## Correspondence -/

inductive CorrespondenceType where
  | email
  | letter
  | otherType (name : String)
deriving DecidableEq, Repr

/-- `Enum.name()`. -/
def CorrespondenceType.name : CorrespondenceType → String
  | .email => "Email"
  | .letter => "Letter"
  | .otherType name => name

structure CorrespondenceDetails where
  sentOn : Option String := none
  «from» : Option String := none
  «to» : Option String := none
  body : Option String := none
  subject : Option String := none
  eventType : Option String := none
  correspondenceType : Option CorrespondenceType := none
  documentLink : Option DocumentLink := none
  reasonableAdjustmentStatus : Option String := none
deriving DecidableEq, Repr

structure Correspondence where
  value : Option CorrespondenceDetails
deriving DecidableEq, Repr

/-- The party a reasonable-adjustment letter is addressed to. -/
inductive LetterType where
  | appellant
  | appointee
  | representative
  | jointParty
  | otherParty
deriving DecidableEq, Repr

structure ReasonableAdjustmentsLetters where
  appellant : Option (List Correspondence) := none
  appointee : Option (List Correspondence) := none
  representative : Option (List Correspondence) := none
  jointParty : Option (List Correspondence) := none
  otherParty : Option (List Correspondence) := none
deriving DecidableEq, Repr

/-- The list kept for one party. -/
def ReasonableAdjustmentsLetters.ofParty (letters : ReasonableAdjustmentsLetters) :
    LetterType → Option (List Correspondence)
  | .appellant => letters.appellant
  | .appointee => letters.appointee
  | .representative => letters.representative
  | .jointParty => letters.jointParty
  | .otherParty => letters.otherParty

/-! ## Cases -/

inductive YesNo where
  | yes
  | no
deriving DecidableEq, Repr

def YesNo.getValue : YesNo → String
  | .yes => "Yes"
  | .no => "No"

structure BenefitType where
  code : Option String := none
deriving DecidableEq, Repr

structure Appeal where
  benefitType : Option BenefitType := none
deriving DecidableEq, Repr

/-- `SscsCaseData`.  `otherFields` holds the fields that no modelled function touches, by
name. -/
structure SscsCaseData where
  ccdCaseId : Option String := none
  appeal : Option Appeal := none
  correspondence : Option (List Correspondence) := none
  reasonableAdjustmentsLetters : Option ReasonableAdjustmentsLetters := none
  reasonableAdjustmentsOutstanding : Option YesNo := none
  scannedDocuments : Option (List ScannedDocument) := none
  sscsDocument : Option (List SscsDocument) := none
  evidenceHandled : Option String := none
  translationWorkOutstanding : Option String := none
  otherFields : List (String × String) := []
deriving DecidableEq, Repr

/-- The correspondence list, null read as empty. -/
def SscsCaseData.correspondences (caseData : SscsCaseData) : List Correspondence :=
  caseData.correspondence.getD []

/-- The letters kept for a party; null when the container or the list is. -/
def SscsCaseData.lettersOf (caseData : SscsCaseData) (party : LetterType) :
    Option (List Correspondence) :=
  caseData.reasonableAdjustmentsLetters.bind (·.ofParty party)

/-- `SscsCaseDetails`, of which the services use only the data. -/
structure SscsCaseDetails where
  data : Option SscsCaseData := none
deriving DecidableEq, Repr

/-! ## Behaviour of sscs-common -/

/-- What the services take from sscs-common: `Correspondence.compareTo`, with the laws that
`Comparable` asks of it, and `SscsCaseData.updateReasonableAdjustmentsOutstanding`, which
leaves the letters themselves alone. -/
structure SscsCommon where
  compareTo : Correspondence → Correspondence → ℤ
  compareTo_swap : ∀ a b, (compareTo a b).sign = -(compareTo b a).sign
  compareTo_trans : ∀ a b c, compareTo a b ≤ 0 → compareTo b c ≤ 0 → compareTo a c ≤ 0
  updateReasonableAdjustmentsOutstanding : SscsCaseData → SscsCaseData
  update_reasonableAdjustmentsLetters : ∀ caseData,
    (updateReasonableAdjustmentsOutstanding caseData).reasonableAdjustmentsLetters =
      caseData.reasonableAdjustmentsLetters

namespace SscsCommon

variable (common : SscsCommon)

/-- The flag is the only field that `updateReasonableAdjustmentsOutstanding` writes. -/
def UpdatesOnlyFlag : Prop :=
  ∀ caseData, ∃ flag, common.updateReasonableAdjustmentsOutstanding caseData =
    { caseData with reasonableAdjustmentsOutstanding := flag }

/-- `Comparator.reverseOrder()` puts `a` before `b`, or leaves the two tied. -/
def newestFirst (a b : Correspondence) : Prop := common.compareTo b a ≤ 0

instance : DecidableRel common.newestFirst :=
  fun a b => inferInstanceAs (Decidable (common.compareTo b a ≤ 0))

instance : IsTrans Correspondence common.newestFirst :=
  ⟨fun a b c hab hbc => common.compareTo_trans c b a hbc hab⟩

instance : Std.Total common.newestFirst := by
  refine ⟨fun a b => ?_⟩
  have hswap := common.compareTo_swap a b
  -- the sign of one comparison gives that of the other
  rcases lt_trichotomy (common.compareTo b a) 0 with hlt | heq | hgt
  · exact Or.inl hlt.le
  · exact Or.inl heq.le
  · rw [Int.sign_eq_one_of_pos hgt] at hswap
    exact Or.inr (Int.sign_eq_neg_one_iff_neg.mp hswap).le

/-- `list.sort(Comparator.reverseOrder())`, a stable sort. -/
def sortReverseOrder (list : List Correspondence) : List Correspondence :=
  list.insertionSort common.newestFirst

theorem sortReverseOrder_perm (list : List Correspondence) :
    (common.sortReverseOrder list).Perm list :=
  List.perm_insertionSort _ list

theorem sortReverseOrder_pairwise (list : List Correspondence) :
    (common.sortReverseOrder list).Pairwise common.newestFirst :=
  List.pairwise_insertionSort _ list

@[simp] theorem length_sortReverseOrder (list : List Correspondence) :
    (common.sortReverseOrder list).length = list.length :=
  List.length_insertionSort _ list

theorem filter_sortReverseOrder (list : List Correspondence) (c : Correspondence) :
    (common.sortReverseOrder list).filter (tiesWith common.newestFirst c) =
      list.filter (tiesWith common.newestFirst c) :=
  filter_tiesWith_insertionSort c list

/-- Sorting after every addition is sorting once at the end. -/
theorem sortReverseOrder_append (xs ys : List Correspondence) :
    common.sortReverseOrder (common.sortReverseOrder xs ++ ys) =
      common.sortReverseOrder (xs ++ ys) :=
  insertionSort_insertionSort_append xs ys

end SscsCommon

/-! ## A concrete instance -/

/-- Three-letter English month names, as in `22 Jan 2021 11:00`. -/
def monthNames : List String :=
  ["Jan", "Feb", "Mar", "Apr", "May", "Jun", "Jul", "Aug", "Sep", "Oct", "Nov", "Dec"]

/-- Minutes since year zero of a `d MMM yyyy HH:mm` text, months and years counted as the
longest ones; zero for any other text. -/
def sentOnMinutes (sentOn : String) : ℕ :=
  match sentOn.toList.splitOn ' ' with
  | [day, month, year, time] =>
    let number := fun digits : List Char => Nat.ofDigitChars 10 digits 0
    -- months of 31 days, which is enough to compare dates
    let days := (number year * 12 + monthNames.idxOf (String.ofList month)) * 31 + number day
    match time.splitOn ':' with
    | [hour, minute] => (days * 24 + number hour) * 60 + number minute
    | _ => 0
  | _ => 0

def Correspondence.sentOnMinutes (c : Correspondence) : ℤ :=
  ((c.value.bind (·.sentOn)).map Domain.sentOnMinutes).getD 0

/-- A letter still to be acted on. -/
def Correspondence.isOutstanding (c : Correspondence) : Bool :=
  c.value.bind (·.reasonableAdjustmentStatus) == some "REQUIRED"

/-- Correspondences ordered by the time they were sent, and a flag that is set while some
letter is outstanding. -/
def SscsCommon.bySentOn : SscsCommon where
  compareTo a b := a.sentOnMinutes - b.sentOnMinutes
  compareTo_swap a b := by rw [← Int.sign_neg, Int.neg_sub]
  compareTo_trans a b c hab hbc := by omega
  updateReasonableAdjustmentsOutstanding caseData :=
    let outstanding := fun party : LetterType =>
      ((caseData.lettersOf party).getD []).any Correspondence.isOutstanding
    { caseData with
      reasonableAdjustmentsOutstanding :=
        if outstanding .appellant || outstanding .appointee || outstanding .representative ||
          outstanding .jointParty || outstanding .otherParty then some .yes else some .no }
  update_reasonableAdjustmentsLetters _ := rfl

theorem SscsCommon.bySentOn_updatesOnlyFlag : SscsCommon.bySentOn.UpdatesOnlyFlag :=
  fun _ => ⟨_, rfl⟩

example : sentOnMinutes "22 Oct 2020 11:33" < sentOnMinutes "22 Jan 2021 11:33" := by decide

end SscsPdfEmail.Domain
