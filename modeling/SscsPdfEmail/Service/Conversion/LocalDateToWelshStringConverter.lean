import SscsPdfEmail.Domain.Time
import SscsPdfEmail.Library.DelimitedRecord

/-!
# Welsh Dates

`LocalDateToWelshStringConverter`: a date as day, Welsh month name and year with spaces between
them.  These texts are an encoding of the dates (`welshDate`): days and month names hold no
space, months have names of their own, and the year is whatever comes last, a minus sign in front
of it included.  So no two dates share a text, and the date can be read back from it
(`welshDates`).

The two converters of texts parse an ISO date, or an ISO date-time whose time of day they leave
out, and agree with the conversion of the date that was meant.  The month names are looked up in
a table, as in the source, where a month that is not in the table would have no name.
-/

namespace SscsPdfEmail.Service.Conversion.LocalDateToWelshStringConverter

open SscsPdfEmail.Domain SscsPdfEmail.Library
open Computability

/-! ## Conversion -/

/-- `months`. -/
def months : List (ℕ × String) :=
  [(1, "Ionawr"), (2, "Chwefror"), (3, "Mawrth"), (4, "Ebrill"), (5, "Mai"), (6, "Mehefin"),
    (7, "Gorffennaf"), (8, "Awst"), (9, "Medi"), (10, "Hydref"), (11, "Tachwedd"),
    (12, "Rhagfyr")]

/-- `convert(LocalDate)`, of a date that may be null. -/
def convert (dateToConvert : Option LocalDate) : Option String :=
  dateToConvert.map fun date =>
    let day := date.dayOfMonth
    let year := date.year
    let month := date.month
    join " " [some (toString day), months.lookup month, some (toString year)]

/-- `convert(String)`. -/
def convertText (localDateFormat : Option String) : Except JavaException (Option String) := do
  let localDateFormat ← nonNull localDateFormat
  let date ← parsed (LocalDate.parse localDateFormat)
  return convert (some date)

/-- `convertDateTime`. -/
def convertDateTime (localDateTimeFormat : Option String) :
    Except JavaException (Option String) := do
  let localDateTimeFormat ← nonNull localDateTimeFormat
  let dateTime ← parsed (LocalDateTime.parse localDateTimeFormat)
  return convert (some dateTime.toLocalDate)

/-! ## Month names -/

theorem months_names_nodup : (months.map Prod.snd).Nodup := by decide

theorem space_not_mem_of_mem_months : ∀ entry ∈ months, ' ' ∉ entry.2.toList := by decide

theorem isSome_lookup_months : ∀ month ≤ 12, 1 ≤ month → (months.lookup month).isSome := by
  decide

/-- The months that have a name. -/
abbrev NamedMonth := {month : ℕ // (months.lookup month).isSome}

def NamedMonth.name (month : NamedMonth) : String := (months.lookup month.1).get month.2

theorem NamedMonth.lookup_eq (month : NamedMonth) :
    months.lookup month.1 = some month.name :=
  (Option.some_get month.2).symm

/-- The table read from names to months. -/
def monthNamed (name : String) : Option NamedMonth :=
  ((months.map Prod.swap).lookup name).bind fun month =>
    if h : (months.lookup month).isSome then some ⟨month, h⟩ else none

theorem monthNamed_name (month : NamedMonth) : monthNamed month.name = some month := by
  rw [monthNamed, lookup_swap months_names_nodup month.lookup_eq, Option.bind_some,
    dif_pos month.2]

/-- Every date falls into a month that has a name. -/
def monthOf (date : LocalDate) : NamedMonth :=
  ⟨date.month, isSome_lookup_months date.month date.month_range.2 date.month_range.1⟩

/-! ## Years -/

/-- Decimal digits, after a minus sign for a negative number. -/
def parseSignedDigits : List Char → Option ℤ
  | '-' :: digits => (parseDigits digits).map fun n : ℕ => -(n : ℤ)
  | digits => (parseDigits digits).map fun n : ℕ => (n : ℤ)

theorem parseSignedDigits_toDigits (n : ℕ) :
    parseSignedDigits (Nat.toDigits 10 n) = some (n : ℤ) := by
  unfold parseSignedDigits
  split
  · -- a number without sign does not start with one
    rename_i digits hdigits
    have hminus : '-' ∈ Nat.toDigits 10 n := hdigits ▸ List.mem_cons_self
    exact absurd hminus (not_mem_toDigits rfl n)
  · rw [parseDigits_toDigits, Option.map_some]

theorem parseSignedDigits_toString (n : ℤ) :
    parseSignedDigits (toString n).toList = some n := by
  rw [Int.toString_eq_repr, Int.repr_eq_if]
  -- a year before year 0 is written with a minus sign in front
  split
  · rename_i hnonneg
    rw [Nat.toList_repr, parseSignedDigits_toDigits, Int.toNat_of_nonneg hnonneg]
  · rename_i hnegative
    have hvalue : -((-n).toNat : ℤ) = n := by omega
    rw [String.toList_append, Nat.toList_repr, show "-".toList = ['-'] from rfl,
      List.singleton_append, parseSignedDigits]
    rw [parseDigits_toDigits, Option.map_some, hvalue]

/-! ## Welsh dates as an encoding -/

/-- Days are written in decimal digits. -/
def dayField : DelimitedField ℕ ' ' where
  encode day := (toString day).toList
  decode := parseDigits
  decode_encode day := by rw [Nat.toString_eq_repr, Nat.toList_repr, parseDigits_toDigits]
  free day := by
    rw [Nat.toString_eq_repr, Nat.toList_repr]
    exact not_mem_toDigits rfl day

/-- Months are written by name. -/
def monthField : DelimitedField NamedMonth ' ' where
  encode month := month.name.toList
  decode word := monthNamed (String.ofList word)
  decode_encode month := by rw [String.ofList_toList, monthNamed_name]
  free month := space_not_mem_of_mem_months _ (mem_of_lookup month.lookup_eq)

/-- Years are written in decimal digits, the ones before year 0 after a minus sign. -/
def yearEncoding : Encoding ℤ Char where
  encode year := (toString year).toList
  decode := parseSignedDigits
  decode_encode := parseSignedDigits_toString

/-- A date is written as its day, its month and its year. -/
def welshDate : Encoding LocalDate Char :=
  encodeThrough (dayField.before (monthField.before yearEncoding))
    (fun date => (date.dayOfMonth, monthOf date, date.year))
    (fun (dayOfMonth, month, year) => LocalDate.of year month.1 dayOfMonth)
    (fun date => date.of_fields)

/-- **Refinement**: `convert` writes the encoding of the date. -/
theorem convert_some (date : LocalDate) :
    convert (some date) = some (String.ofList (welshDate.encode date)) := by
  have hmonth : months.lookup date.month = some (monthOf date).name := (monthOf date).lookup_eq
  -- the encoding is the three fields with a blank after the first two
  have hencoded : welshDate.encode date = dayField.encode date.dayOfMonth ++
      ' ' :: (monthField.encode (monthOf date) ++ ' ' :: yearEncoding.encode date.year) := by
    rw [← DelimitedField.encode_before monthField yearEncoding (monthOf date, date.year)]
    rw [← DelimitedField.encode_before dayField (monthField.before yearEncoding)
      (date.dayOfMonth, monthOf date, date.year)]
    rfl
  -- and so is what the code joins
  have htext : (join " " [some (toString date.dayOfMonth), some (monthOf date).name,
      some (toString date.year)]).toList = welshDate.encode date := by
    rw [hencoded, join, String.toList_intercalate]
    simp [formatNullable, dayField, monthField, yearEncoding]
  rw [← htext, String.ofList_toList, ← hmonth]
  rfl

theorem convert_injective : Function.Injective convert := by
  intro dateToConvert other h
  match dateToConvert, other with
  | none, none => rfl
  | none, some date | some date, none => simp [convert] at h
  | some date, some other =>
    rw [convert_some, convert_some, Option.some.injEq] at h
    rw [welshDate.encode_injective (String.ofList_injective h)]

/-! ## Texts of dates -/

/-- A text is converted to the Welsh text of a date exactly if it is read as that date. -/
theorem convertText_eq_ok_iff (text : String) (date : LocalDate) :
    convertText (some text) = .ok (convert (some date)) ↔ LocalDate.parse text = some date := by
  show (parsed (LocalDate.parse text) >>= fun date => .ok (convert (some date))) = _ ↔ _
  simp only [bind_eq_ok, parsed_eq_ok, Except.ok.injEq, convert_injective.eq_iff,
    Option.some.injEq, exists_eq_right]

/-- The time of day is read and left out. -/
theorem convertDateTime_eq_ok_iff (text : String) (date : LocalDate) :
    convertDateTime (some text) = .ok (convert (some date)) ↔
      ∃ time, LocalDateTime.parse text = some ⟨date, time⟩ := by
  -- the time is parsed, and then the day of the date-time taken
  show (parsed (LocalDateTime.parse text) >>= fun dateTime =>
    .ok (convert (some dateTime.toLocalDate))) = _ ↔ _
  simp only [bind_eq_ok, parsed_eq_ok, Except.ok.injEq, convert_injective.eq_iff,
    Option.some.injEq]
  constructor
  · rintro ⟨⟨readDate, time⟩, hread, rfl⟩
    exact ⟨time, hread⟩
  · rintro ⟨time, hread⟩
    exact ⟨⟨date, time⟩, hread, rfl⟩

/-- **Welsh dates**: no two dates share a text, the date is read back from its text, and the
ISO texts of the date, with and without a time of day, are converted to that same text. -/
theorem welshDates :
    Function.Injective convert ∧
      ∀ date : LocalDate, ∃ text,
        convert (some date) = some text ∧
        welshDate.decode text.toList = some date ∧
        convertText (some date.formatIsoDate) = .ok (some text) ∧
        ∀ time : LocalTime,
          convertDateTime (some (LocalDateTime.mk date time).formatIsoDateTime) =
            .ok (some text) := by
  refine ⟨convert_injective, fun date => ?_⟩
  have hconvert := convert_some date
  refine ⟨_, hconvert, ?_, ?_, fun time => ?_⟩
  · rw [String.toList_ofList, welshDate.decode_encode]
  · rw [← hconvert, convertText_eq_ok_iff]
    exact LocalDate.parse_formatIsoDate date
  · rw [← hconvert, convertDateTime_eq_ok_iff]
    exact ⟨time, LocalDateTime.parse_formatIsoDateTime ⟨date, time⟩⟩

example : convertDateTime (some "2020-12-27T17:13:21.569") = .ok (some "27 Rhagfyr 2020") := by
  decide

end SscsPdfEmail.Service.Conversion.LocalDateToWelshStringConverter
