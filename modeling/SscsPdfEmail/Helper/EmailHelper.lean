import SscsPdfEmail.Domain.Java

/-!
# E-Mail Ids

`EmailHelper` makes an id for the e-mails about an appellant, out of the last name and the last
three characters of the national insurance number.

Two appellants share the id exactly when their last names and these three characters are the same
(`generateUniqueEmailId_eq_iff`): the digits are always as many, so an id can be taken apart
again although the last name may hold any characters.  A missing last name is written as `null`
and cannot be told from the name `null`.  There is an id exactly for an appellant that is
identified by a name object and a number of three characters or more
(`generateUniqueEmailId_eq_ok_iff`); a shorter number makes the call fail, as a missing one does.
-/

namespace SscsPdfEmail.Helper

open SscsPdfEmail.Domain

structure Name where
  lastName : Option String

structure Identity where
  nino : Option String

structure Appellant where
  name : Option Name
  identity : Option Identity

/-- `String.substring(beginIndex)`. -/
def substringFrom (text : String) (beginIndex : ℤ) : Except JavaException String :=
  if 0 ≤ beginIndex ∧ beginIndex ≤ text.length then
    .ok (String.ofList (text.toList.drop beginIndex.toNat))
  else .error .stringIndexOutOfBounds

namespace EmailHelper

/-- `String.format("%s_%s", ...)`. -/
def format (lastName : Option String) (digits : String) : String :=
  formatNullable lastName ++ "_" ++ digits

/-- `generateUniqueEmailId`. -/
def generateUniqueEmailId (appellant : Option Appellant) : Except JavaException String := do
  let appellant ← nonNull appellant
  let appellantLastName := (← nonNull appellant.name).lastName
  let nino ← nonNull (← nonNull appellant.identity).nino
  let digits ← substringFrom nino ((nino.length : ℤ) - 3)
  return format appellantLastName digits

/-- What an id is made of: the last name, if there is one, and the last three characters of the
national insurance number. -/
def Identifies (appellant : Option Appellant) (lastName : Option String) (digits : List Char) :
    Prop :=
  ∃ nino, appellant = some ⟨some ⟨lastName⟩, some ⟨some nino⟩⟩ ∧ digits.length = 3 ∧
    digits <:+ nino.toList

theorem substringFrom_eq_ok_iff {text digits : String} :
    substringFrom text ((text.length : ℤ) - 3) = .ok digits ↔
      digits.toList.length = 3 ∧ digits.toList <:+ text.toList := by
  have hlength : text.toList.length = text.length := rfl
  rw [List.suffix_iff_eq_drop]
  unfold substringFrom
  split
  · rename_i hlong
    have hstart : ((text.length : ℤ) - 3).toNat = text.length - 3 := by omega
    have hdrop : (text.toList.drop (text.length - 3)).length = 3 := by
      rw [List.length_drop]
      omega
    rw [hstart, Except.ok.injEq]
    constructor
    · rintro rfl
      rw [String.toList_ofList, hdrop, hlength]
      exact ⟨rfl, rfl⟩
    · rintro ⟨hthree, hdigits⟩
      rw [hthree, hlength] at hdigits
      rw [← hdigits, String.ofList_toList]
  · rename_i hshort
    refine iff_of_false (by simp) ?_
    rintro ⟨hthree, hdigits⟩
    -- a text of fewer characters has no end of three
    have hle := congrArg List.length hdigits
    rw [List.length_drop] at hle
    omega

theorem generateUniqueEmailId_eq_ok_iff {appellant : Option Appellant} {id : String} :
    generateUniqueEmailId appellant = .ok id ↔
      ∃ lastName digits, Identifies appellant lastName digits ∧
        id = format lastName (String.ofList digits) := by
  constructor
  · intro h
    obtain ⟨⟨name, identity⟩, happellant, h⟩ := bind_eq_ok.mp h
    obtain ⟨⟨lastName⟩, hname, h⟩ := bind_eq_ok.mp h
    obtain ⟨⟨nino⟩, hidentity, h⟩ := bind_eq_ok.mp h
    obtain ⟨nino', hnino, h⟩ := bind_eq_ok.mp h
    obtain ⟨digits, hdigits, hid⟩ := bind_eq_ok.mp h
    -- each getter that was followed has found something
    obtain rfl := nonNull_eq_ok.mp happellant
    obtain rfl := nonNull_eq_ok.mp hname
    obtain rfl := nonNull_eq_ok.mp hidentity
    obtain rfl := nonNull_eq_ok.mp hnino
    refine ⟨lastName, digits.toList, ⟨nino', rfl, substringFrom_eq_ok_iff.mp hdigits⟩, ?_⟩
    rw [String.ofList_toList]
    exact (Except.ok.inj hid).symm
  · rintro ⟨lastName, digits, ⟨nino, rfl, hdigits⟩, rfl⟩
    -- the call gets as far as the digits, which are there
    have hsubstring : substringFrom nino ((nino.length : ℤ) - 3) = .ok (String.ofList digits) :=
      substringFrom_eq_ok_iff.mpr (by rwa [String.toList_ofList])
    unfold generateUniqueEmailId
    simp only [nonNull, bind, Except.bind, hsubstring]
    rfl

/-- The last three characters can be told from the name, whatever the name holds. -/
theorem format_eq_iff {lastName lastName' : Option String} {digits digits' : List Char}
    (hlength : digits.length = digits'.length) :
    format lastName (String.ofList digits) = format lastName' (String.ofList digits') ↔
      formatNullable lastName = formatNullable lastName' ∧ digits = digits' := by
  constructor
  · intro h
    have hlist := congrArg String.toList h
    simp only [format, String.toList_append, String.toList_ofList] at hlist
    -- the digits are as many on both sides, so the two ids are split at the same place
    obtain ⟨hname, hdigits⟩ := List.append_inj' hlist hlength
    exact ⟨String.toList_inj.mp (List.append_cancel_right hname), hdigits⟩
  · rintro ⟨hname, rfl⟩
    rw [format, format, hname]

/-- Two appellants with an id share it exactly when it is made of the same. -/
theorem generateUniqueEmailId_eq_iff {appellant appellant' : Option Appellant}
    {lastName lastName' : Option String} {digits digits' : List Char}
    (h : Identifies appellant lastName digits) (h' : Identifies appellant' lastName' digits') :
    generateUniqueEmailId appellant = generateUniqueEmailId appellant' ↔
      formatNullable lastName = formatNullable lastName' ∧ digits = digits' := by
  have hid := generateUniqueEmailId_eq_ok_iff.mpr ⟨lastName, digits, h, rfl⟩
  have hid' := generateUniqueEmailId_eq_ok_iff.mpr ⟨lastName', digits', h', rfl⟩
  -- both are the last three characters
  have hlength : digits.length = digits'.length := by
    obtain ⟨-, -, hthree, -⟩ := h
    obtain ⟨-, -, hthree', -⟩ := h'
    exact hthree.trans hthree'.symm
  rw [hid, hid', Except.ok.injEq, format_eq_iff hlength]

example : (generateUniqueEmailId (some ⟨some ⟨some "Smith"⟩, some ⟨some "ABC1234YZ"⟩⟩)).toOption =
    some "Smith_4YZ" := by decide

end EmailHelper

end SscsPdfEmail.Helper
