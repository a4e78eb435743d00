import Mathlib.Data.List.DropRight
import Mathlib.Data.Nat.Digits.Defs
import SscsPdfEmail.Domain.Java

/-!
# ISO Dates and Times

The part of `java.time` that the document services use: local dates and date-times, their ISO
text (`DateTimeFormatter.ISO_DATE`, `ISO_DATE_TIME`), and the parsers `LocalDate.parse` and
`LocalDateTime.parse`, which invert it (`LocalDate.parse_formatIsoDate`,
`LocalDateTime.parse_formatIsoDateTime`).

A date carries the proof that its month has that day, a time that its fields are in range, so
only dates that exist are written or read.  Years may be signed and have up to ten digits.  The
formatter and the parser are not the same grammar: zeros at the end of a fraction are left out
and seconds always written, while the parser takes seconds and fraction as optional.

Texts are built and read as character lists, so that both directions are structural and a
concrete date can be evaluated.
-/

namespace SscsPdfEmail.Domain

/-! ## Calendar dates -/

/-- Proleptic Gregorian leap years (`IsoChronology.isLeapYear`). -/
def isLeapYear (year : ℤ) : Bool :=
  decide (year % 4 = 0) && (decide (year % 100 ≠ 0) || decide (year % 400 = 0))

/-- Length of a month; months outside `1..12` have no days. -/
def lengthOfMonth (year : ℤ) (month : ℕ) : ℕ :=
  match month with
  | 2 => if isLeapYear year then 29 else 28
  | 4 | 6 | 9 | 11 => 30
  | 1 | 3 | 5 | 7 | 8 | 10 | 12 => 31
  | _ => 0

/-- `java.time.LocalDate`: only calendar dates within the supported years exist. -/
structure LocalDate where
  year : ℤ
  month : ℕ
  dayOfMonth : ℕ
  year_range : -999999999 ≤ year ∧ year ≤ 999999999
  day_range : 1 ≤ dayOfMonth ∧ dayOfMonth ≤ lengthOfMonth year month
deriving DecidableEq, Repr

/-- `java.time.LocalTime` to the nanosecond. -/
structure LocalTime where
  hour : Fin 24
  minute : Fin 60
  second : Fin 60
  nano : Fin 1000000000
deriving DecidableEq, Repr

/-- `LocalTime.MIDNIGHT`. -/
def LocalTime.midnight : LocalTime := ⟨0, 0, 0, 0⟩

/-- `java.time.LocalDateTime`. -/
structure LocalDateTime where
  toLocalDate : LocalDate
  toLocalTime : LocalTime
deriving DecidableEq, Repr

/-- `LocalDate.of`, `none` where it throws `DateTimeException`. -/
def LocalDate.of (year : ℤ) (month dayOfMonth : ℕ) : Option LocalDate :=
  if hyear : -999999999 ≤ year ∧ year ≤ 999999999 then
    if hday : 1 ≤ dayOfMonth ∧ dayOfMonth ≤ lengthOfMonth year month then
      some ⟨year, month, dayOfMonth, hyear, hday⟩
    else none
  else none

def LocalDate.atStartOfDay (date : LocalDate) : LocalDateTime := ⟨date, .midnight⟩

/-! ## ISO text -/

/-- The decimal digits of a number, padded with zeros to a minimum width. -/
def paddedDigits (width n : ℕ) : List Char :=
  let digits := Nat.toDigits 10 n
  List.replicate (width - digits.length) '0' ++ digits

/-- `appendValue(YEAR, 4, 10, SignStyle.EXCEEDS_PAD)`: a plus sign only when the year
needs more than four digits. -/
def isoYear (year : ℤ) : List Char :=
  if year < 0 then '-' :: paddedDigits 4 year.natAbs
  else if 9999 < year then '+' :: paddedDigits 4 year.natAbs
  else paddedDigits 4 year.natAbs

/-- `DateTimeFormatter.ISO_DATE` on a value without offset. -/
def LocalDate.isoChars (date : LocalDate) : List Char :=
  isoYear date.year ++ '-' :: paddedDigits 2 date.month ++ '-' :: paddedDigits 2 date.dayOfMonth

/-- `appendFraction(NANO_OF_SECOND, 0, 9, true)`: no fraction for whole seconds, and no
trailing zeros. -/
def isoFraction (nano : ℕ) : List Char :=
  if nano = 0 then []
  else '.' :: ((paddedDigits 9 nano).reverse.dropWhile (· == '0')).reverse

/-- `DateTimeFormatter.ISO_LOCAL_TIME`. -/
def LocalTime.isoChars (time : LocalTime) : List Char :=
  paddedDigits 2 time.hour ++ ':' :: paddedDigits 2 time.minute ++
    ':' :: paddedDigits 2 time.second ++ isoFraction time.nano

/-- `format(DateTimeFormatter.ISO_DATE)`. -/
def LocalDate.formatIsoDate (date : LocalDate) : String := String.ofList date.isoChars

/-- `format(DateTimeFormatter.ISO_DATE_TIME)` on a value without offset. -/
def LocalDateTime.formatIsoDateTime (dateTime : LocalDateTime) : String :=
  String.ofList (dateTime.toLocalDate.isoChars ++ 'T' :: dateTime.toLocalTime.isoChars)

/-! ## Parsing ISO dates -/

/-- The year field of `ISO_LOCAL_DATE`: four digits without sign, more than four after a
plus sign, at least four and not zero after a minus sign. -/
def parseIsoYear (text : List Char) : Option (ℤ × List Char) :=
  match text with
  | '-' :: text =>
    let (digits, rest) := text.span Char.isDigit
    -- year zero has no minus sign
    if 4 ≤ digits.length ∧ digits.length ≤ 10 ∧
        Nat.ofDigitChars 10 digits 0 ≠ 0 then
      some (-(Nat.ofDigitChars 10 digits 0 : ℤ), rest)
    else none
  | '+' :: text =>
    let (digits, rest) := text.span Char.isDigit
    -- a plus sign is for years of more than four digits only
    if 4 < digits.length ∧ digits.length ≤ 10 then
      some (Nat.ofDigitChars 10 digits 0, rest)
    else none
  | text =>
    let (digits, rest) := text.span Char.isDigit
    if digits.length = 4 then some (Nat.ofDigitChars 10 digits 0, rest) else none

/-- A dash followed by exactly two digits. -/
def parseIsoField (text : List Char) : Option (ℕ × List Char) :=
  match text with
  | '-' :: tens :: units :: rest =>
    if tens.isDigit ∧ units.isDigit then some (Nat.ofDigitChars 10 [tens, units] 0, rest) else none
  | _ => none

/-- `LocalDate.parse` on characters, `none` where it throws `DateTimeParseException`. -/
def LocalDate.parseChars (text : List Char) : Option LocalDate := do
  let (year, rest) ← parseIsoYear text
  let (month, rest) ← parseIsoField rest
  let (dayOfMonth, rest) ← parseIsoField rest
  if rest = [] then LocalDate.of year month dayOfMonth else none

/-- `LocalDate.parse`. -/
def LocalDate.parse (text : String) : Option LocalDate := LocalDate.parseChars text.toList

/-! ## Parsing ISO date-times -/

/-- `LocalTime.of`, `none` where it throws `DateTimeException`. -/
def LocalTime.of (hour minute second nano : ℕ) : Option LocalTime :=
  if h : hour < 24 ∧ minute < 60 ∧ second < 60 ∧ nano < 1000000000 then
    some ⟨⟨hour, h.1⟩, ⟨minute, h.2.1⟩, ⟨second, h.2.2.1⟩, ⟨nano, h.2.2.2⟩⟩
  else none

/-- Exactly two digits. -/
def parseTwoDigits (text : List Char) : Option (ℕ × List Char) :=
  match text with
  | tens :: units :: rest =>
    if tens.isDigit ∧ units.isDigit then some (Nat.ofDigitChars 10 [tens, units] 0, rest) else none
  | _ => none

/-- A colon followed by exactly two digits. -/
def parseIsoTimeField (text : List Char) : Option (ℕ × List Char) :=
  match text with
  | ':' :: rest => parseTwoDigits rest
  | _ => none

/-- `appendFraction(NANO_OF_SECOND, 0, 9, true)`: nothing, or a point and up to nine
digits. -/
def parseIsoFraction (text : List Char) : ℕ × List Char :=
  match text with
  | '.' :: text =>
    let digits := (text.takeWhile Char.isDigit).take 9
    (Nat.ofDigitChars 10 digits 0 * 10 ^ (9 - digits.length), text.drop digits.length)
  | text => (0, text)

/-- `DateTimeFormatter.ISO_LOCAL_TIME`: hour and minute, and optionally the second and its
fraction. -/
def LocalTime.parseChars (text : List Char) : Option LocalTime := do
  let (hour, rest) ← parseTwoDigits text
  let (minute, rest) ← parseIsoTimeField rest
  match parseIsoTimeField rest with
  -- seconds are optional, and so is their fraction
  | some (second, rest) =>
    let (nano, rest) := parseIsoFraction rest
    if rest = [] then LocalTime.of hour minute second nano else none
  | none => if rest = [] then LocalTime.of hour minute 0 0 else none

/-- The date in front of a text. -/
def parseIsoDate (text : List Char) : Option (LocalDate × List Char) := do
  let (year, rest) ← parseIsoYear text
  let (month, rest) ← parseIsoField rest
  let (dayOfMonth, rest) ← parseIsoField rest
  let date ← LocalDate.of year month dayOfMonth
  return (date, rest)

/-- `LocalDateTime.parse` on characters, `none` where it throws `DateTimeParseException`. -/
def LocalDateTime.parseChars (text : List Char) : Option LocalDateTime := do
  let (date, rest) ← parseIsoDate text
  match rest with
  | 'T' :: rest | 't' :: rest =>
    let time ← LocalTime.parseChars rest
    return ⟨date, time⟩
  | _ => none

/-- `LocalDateTime.parse`. -/
def LocalDateTime.parse (text : String) : Option LocalDateTime :=
  LocalDateTime.parseChars text.toList

example : (LocalDateTime.parse "2021-01-22T12:30").map (·.toLocalTime) = LocalTime.of 12 30 0 0 := by
  decide

/-- What a caller of a parser gets: the value, or `DateTimeParseException`. -/
def parsed {α : Type} : Option α → Except JavaException α
  | some value => .ok value
  | none => .error .dateTimeParse

theorem parsed_eq_ok {α : Type} {value : Option α} {a : α} :
    parsed value = .ok a ↔ value = some a := by
  cases value with
  | some b => simp [parsed]
  | none => simp [parsed]

/-! ## Comparison -/

/-- The fields of a date-time, the most significant first. -/
def LocalDateTime.fields (dateTime : LocalDateTime) : List ℤ :=
  [dateTime.toLocalDate.year, dateTime.toLocalDate.month, dateTime.toLocalDate.dayOfMonth,
    dateTime.toLocalTime.hour.val, dateTime.toLocalTime.minute.val,
    dateTime.toLocalTime.second.val, dateTime.toLocalTime.nano.val]

/-- `LocalDateTime.isAfter`. -/
def LocalDateTime.isAfter (dateTime other : LocalDateTime) : Bool :=
  decide (other.fields < dateTime.fields)

/-! ## Round trip -/

theorem isDigit_of_mem_paddedDigits {width n : ℕ} {c : Char}
    (hc : c ∈ paddedDigits width n) : c.isDigit = true := by
  rcases List.mem_append.mp hc with hzero | hdigit
  · rw [List.eq_of_mem_replicate hzero]
    rfl
  · exact Nat.isDigit_of_mem_toDigits (by omega) (by omega) hdigit

theorem ofDigitChars_paddedDigits (width n : ℕ) :
    Nat.ofDigitChars 10 (paddedDigits width n) 0 = n := by
  simp [paddedDigits, Nat.ofDigitChars_append]

theorem length_paddedDigits (width n : ℕ) :
    (paddedDigits width n).length = max width (Nat.toDigits 10 n).length := by
  simp only [paddedDigits, List.length_append, List.length_replicate]
  omega

/-- Reading digits stops exactly where the padded number ends. -/
theorem span_paddedDigits_append (width n : ℕ) (c : Char) (rest : List Char)
    (hc : c.isDigit = false) :
    (paddedDigits width n ++ c :: rest).span Char.isDigit = (paddedDigits width n, c :: rest) := by
  have hdigits : ∀ d ∈ paddedDigits width n, d.isDigit = true :=
    fun d hd => isDigit_of_mem_paddedDigits hd
  exact span_append_cons rest hdigits hc

theorem parseIsoYear_isoYear (year : ℤ) (hyear : year.natAbs < 10 ^ 10) (rest : List Char) :
    parseIsoYear (isoYear year ++ '-' :: rest) = some (year, '-' :: rest) := by
  have hspan := span_paddedDigits_append 4 year.natAbs '-' rest rfl
  have hvalue := ofDigitChars_paddedDigits 4 year.natAbs
  have hlength := length_paddedDigits 4 year.natAbs
  have hten := Nat.toDigits_length 10 year.natAbs 10 (by omega) hyear
  unfold isoYear
  split
  · -- a minus sign and at least four digits, not all of them zero
    simp only [List.cons_append, parseIsoYear, hspan, hvalue, hlength]
    rw [if_pos (by omega)]
    congr 2
    omega
  · split
    · -- a plus sign only where four digits do not do
      have hwide : ¬ (Nat.toDigits 10 year.natAbs).length ≤ 4 := by
        rw [Nat.length_toDigits_le_iff (by omega) (by omega)]
        omega
      simp only [List.cons_append, parseIsoYear, hspan, hvalue, hlength]
      rw [if_pos (by omega)]
      congr 2
      omega
    · have hnarrow : (Nat.toDigits 10 year.natAbs).length ≤ 4 := by
        rw [Nat.length_toDigits_le_iff (by omega) (by omega)]
        omega
      -- the text starts with a digit, so neither sign branch applies
      have hsign : ∀ c ∈ paddedDigits 4 year.natAbs, c ≠ '-' ∧ c ≠ '+' := by
        intro c hc
        have hdigit := isDigit_of_mem_paddedDigits hc
        constructor <;> rintro rfl <;> simp at hdigit
      cases hdigits : paddedDigits 4 year.natAbs with
      | nil =>
        rw [hdigits, List.length_nil] at hlength
        omega
      | cons c digits =>
        obtain ⟨hminus, hplus⟩ := hsign c (by simp [hdigits])
        rw [hdigits] at hspan hvalue hlength
        simp only [List.cons_append] at hspan ⊢
        unfold parseIsoYear
        split
        · rename_i heq; exact absurd (List.cons.inj heq).1 hminus
        · rename_i heq; exact absurd (List.cons.inj heq).1 hplus
        · simp only [hspan, hvalue]
          rw [if_pos (by omega)]
          congr 2
          omega

theorem parseTwoDigits_paddedDigits (n : ℕ) (hn : n < 100) (rest : List Char) :
    parseTwoDigits (paddedDigits 2 n ++ rest) = some (n, rest) := by
  have hvalue := ofDigitChars_paddedDigits 2 n
  have hlength := length_paddedDigits 2 n
  have htwo := Nat.toDigits_length 10 n 2 (by omega) hn
  have hdigits : ∀ d ∈ paddedDigits 2 n, d.isDigit = true :=
    fun d hd => isDigit_of_mem_paddedDigits hd
  -- padding and the bound leave exactly two digits
  match hfield : paddedDigits 2 n with
  | [] | [_] | _ :: _ :: _ :: _ =>
    rw [hfield] at hlength
    simp only [List.length_cons, List.length_nil] at hlength
    omega
  | [tens, units] =>
    rw [hfield] at hvalue hdigits
    simp only [List.cons_append, List.nil_append, parseTwoDigits, hvalue]
    rw [if_pos ⟨hdigits tens (by simp), hdigits units (by simp)⟩]

theorem parseIsoField_eq (rest : List Char) : parseIsoField ('-' :: rest) = parseTwoDigits rest := by
  match rest with
  | [] | [_] | _ :: _ :: _ => rfl

theorem parseIsoField_paddedDigits (n : ℕ) (hn : n < 100) (rest : List Char) :
    parseIsoField ('-' :: (paddedDigits 2 n ++ rest)) = some (n, rest) := by
  rw [parseIsoField_eq]
  exact parseTwoDigits_paddedDigits n hn rest

/-- A date falls into one of the twelve months: no other has any days. -/
theorem LocalDate.month_range (date : LocalDate) : 1 ≤ date.month ∧ date.month ≤ 12 := by
  have hdays := date.day_range.1.trans date.day_range.2
  by_contra hmonth
  have hnone : lengthOfMonth date.year date.month = 0 := by
    unfold lengthOfMonth
    split <;> first | rfl | omega
  omega

theorem lengthOfMonth_le (year : ℤ) (month : ℕ) : lengthOfMonth year month ≤ 31 := by
  unfold lengthOfMonth
  split
  · split <;> omega
  all_goals omega

theorem LocalDate.of_fields (date : LocalDate) :
    LocalDate.of date.year date.month date.dayOfMonth = some date := by
  simp only [LocalDate.of, dif_pos date.year_range, dif_pos date.day_range]

/-- The date is read off the front of whatever follows it. -/
theorem parseIsoDate_isoChars (date : LocalDate) (rest : List Char) :
    parseIsoDate (date.isoChars ++ rest) = some (date, rest) := by
  have hmonth := date.month_range.2
  have hday := date.day_range.2.trans (lengthOfMonth_le date.year date.month)
  have hyear : date.year.natAbs < 10 ^ 10 := by
    have := date.year_range
    omega
  simp only [parseIsoDate, LocalDate.isoChars, List.append_assoc, List.cons_append]
  -- each field is read off where the one before it ends
  rw [parseIsoYear_isoYear date.year hyear]
  simp only [Option.bind_eq_bind, Option.bind_some,
    parseIsoField_paddedDigits date.month (by omega),
    parseIsoField_paddedDigits date.dayOfMonth (by omega), date.of_fields]
  rfl

/-- A text that holds nothing but a date is that date. -/
theorem LocalDate.parseChars_of_parseIsoDate {text : List Char} {date : LocalDate}
    (h : parseIsoDate text = some (date, [])) : LocalDate.parseChars text = some date := by
  unfold parseIsoDate at h
  simp only [Option.bind_eq_bind, Option.bind_eq_some_iff, Option.pure_def, Option.some.injEq,
    Prod.mk.injEq, Prod.exists] at h
  -- the three fields that have been read leave nothing behind
  obtain ⟨year, text₁, hyear, month, text₂, hmonth, day, rest, hday, date', hdate, rfl, rfl⟩ := h
  simp only [LocalDate.parseChars, hyear, hmonth, hday, Option.bind_eq_bind, Option.bind_some,
    if_true, hdate]

/-- **`LocalDate.parse` inverts the ISO text** of every supported date. -/
theorem LocalDate.parse_formatIsoDate (date : LocalDate) :
    LocalDate.parse date.formatIsoDate = some date := by
  have hdate := parseIsoDate_isoChars date []
  rw [List.append_nil] at hdate
  rw [LocalDate.parse, LocalDate.formatIsoDate, String.toList_ofList]
  exact LocalDate.parseChars_of_parseIsoDate hdate

/-- What is cut off a fraction are zeros. -/
theorem isoFraction_eq (nano : ℕ) (h : nano ≠ 0) :
    ∃ digits zeros, isoFraction nano = '.' :: digits ∧
      paddedDigits 9 nano = digits ++ List.replicate zeros '0' := by
  -- the fraction is the nine digits without the zeros at their end
  refine ⟨(paddedDigits 9 nano).rdropWhile (· == '0'),
    ((paddedDigits 9 nano).rtakeWhile (· == '0')).length, ?_, ?_⟩
  · rw [isoFraction, if_neg h]
    rfl
  · have hzeros : (paddedDigits 9 nano).rtakeWhile (· == '0') =
        List.replicate ((paddedDigits 9 nano).rtakeWhile (· == '0')).length '0' := by
      rw [List.eq_replicate_iff]
      refine ⟨rfl, fun c hc => ?_⟩
      exact beq_iff_eq.mp (List.mem_rtakeWhile_imp (p := (· == '0')) hc)
    rw [← hzeros, List.rdropWhile_append_rtakeWhile]

theorem parseIsoFraction_isoFraction (nano : Fin 1000000000) :
    parseIsoFraction (isoFraction nano) = (nano.val, []) := by
  by_cases hzero : nano.val = 0
  · -- whole seconds have no fraction at all
    simp [isoFraction, hzero, parseIsoFraction]
  · obtain ⟨digits, zeros, hfraction, hpadded⟩ := isoFraction_eq nano hzero
    have hnine := Nat.toDigits_length 10 nano.val 9 (by omega) (by omega)
    have hlength := length_paddedDigits 9 nano.val
    rw [hpadded, List.length_append, List.length_replicate] at hlength
    have hdigits : ∀ d ∈ digits, d.isDigit = true := by
      intro d hd
      have hmem : d ∈ paddedDigits 9 nano.val := by
        rw [hpadded]
        exact List.mem_append_left _ hd
      exact isDigit_of_mem_paddedDigits hmem
    have hvalue := ofDigitChars_paddedDigits 9 nano.val
    rw [hpadded, Nat.ofDigitChars_append, Nat.ofDigitChars_replicate_zero] at hvalue
    have hread : (digits.takeWhile Char.isDigit).take 9 = digits := by
      rw [List.takeWhile_eq_self_iff.mpr hdigits, List.take_of_length_le (by omega)]
    -- the digits cut off are made up for by the power of ten
    have hplaces : 9 - digits.length = zeros := by omega
    rw [hfraction, parseIsoFraction, hread, List.drop_length, hplaces, mul_comm, hvalue]

theorem LocalTime.of_fields (time : LocalTime) :
    LocalTime.of time.hour time.minute time.second time.nano = some time := by
  simp [LocalTime.of]

theorem LocalTime.parseChars_isoChars (time : LocalTime) :
    LocalTime.parseChars time.isoChars = some time := by
  -- minutes and seconds are two digits behind a colon
  have hfield : ∀ n < 100, ∀ rest : List Char,
      parseIsoTimeField (':' :: (paddedDigits 2 n ++ rest)) = some (n, rest) :=
    fun n hn rest => parseTwoDigits_paddedDigits n hn rest
  simp only [LocalTime.parseChars, LocalTime.isoChars, List.append_assoc, List.cons_append]
  rw [parseTwoDigits_paddedDigits time.hour (by omega)]
  simp only [Option.bind_eq_bind, Option.bind_some, hfield time.minute (by omega),
    hfield time.second (by omega), parseIsoFraction_isoFraction, if_true]
  exact time.of_fields

/-- **`LocalDateTime.parse` inverts the ISO text** of every supported date-time. -/
theorem LocalDateTime.parse_formatIsoDateTime (dateTime : LocalDateTime) :
    LocalDateTime.parse dateTime.formatIsoDateTime = some dateTime := by
  rw [LocalDateTime.parse, LocalDateTime.formatIsoDateTime, String.toList_ofList,
    LocalDateTime.parseChars, parseIsoDate_isoChars]
  simp only [Option.bind_eq_bind, Option.bind_some, LocalTime.parseChars_isoChars]
  rfl

end SscsPdfEmail.Domain
