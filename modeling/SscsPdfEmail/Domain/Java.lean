import Mathlib.Algebra.Group.Int.Defs
import Mathlib.Algebra.Group.Nat.Defs
import Mathlib.Data.Int.Notation
import Mathlib.Data.List.TakeDrop
import Mathlib.Data.List.TakeWhile
import Mathlib.Data.Nat.Notation

/-!
# Java Runtime Vocabulary

The exceptions that the services raise, catch or let through, and the few string and number
functions of the Java library that they call.  Nullable references are `Option`s, byte arrays are
lists of bytes.

Exceptions are told apart as far as some handler does: an HTTP client error is a
`RestClientException`, a failure of a Feign client is not, and a `CcdException` is the one kind
that the updates of a case are protected against.  A computation that may throw is an `Except`,
and `bind_eq_ok` takes one that has not thrown apart into its steps.

Letters and digits are the ones of ASCII.  Java's own functions know more of them, which matters
neither to the names of event types nor to case ids.
-/

namespace SscsPdfEmail.Domain

/-- Contents of a `byte[]`. -/
abbrev Bytes := List UInt8

/-! ## Exceptions -/

/-- The exceptions that matter for control flow, by class. -/
inductive JavaException where
  | nullPointer
  | stringIndexOutOfBounds
  | indexOutOfBounds
  | numberFormat
  | illegalArgument
  | dateTimeParse
  | io
  /-- `CcdException` of sscs-common. -/
  | ccd
  /-- `FeignException`: any failure reported by a Feign client. -/
  | feign
  /-- `RestClientException` other than a client error: unreachable store, server error. -/
  | restClient
  /-- `HttpClientErrorException`: an HTTP 4xx answer. -/
  | httpClientError
  | unsupportedDocumentType
  | pdfGeneration
deriving DecidableEq, Repr

/-- `HttpClientErrorException` is a subclass of `RestClientException`, so a handler for the
latter catches both. -/
def JavaException.isRestClientException : JavaException → Bool
  | .restClient | .httpClientError => true
  | _ => false

/-- Dereferencing a nullable value. -/
def nonNull {α : Type} : Option α → Except JavaException α
  | some a => .ok a
  | none => .error .nullPointer

/-- A sequence of steps succeeds when each of them does. -/
theorem bind_eq_ok {α β : Type} {x : Except JavaException α} {f : α → Except JavaException β}
    {b : β} : x >>= f = .ok b ↔ ∃ a, x = .ok a ∧ f a = .ok b := by
  cases x with
  | ok a => exact ⟨fun h => ⟨a, rfl, h⟩, fun ⟨_, ha, h⟩ => Except.ok.inj ha ▸ h⟩
  | error e => exact ⟨fun h => (nomatch h), fun ⟨_, ha, _⟩ => (nomatch ha)⟩

theorem nonNull_eq_ok {α : Type} {value : Option α} {a : α} :
    nonNull value = .ok a ↔ value = some a := by
  cases value with
  | some b => simp [nonNull]
  | none => simp [nonNull]

/-! ## Strings -/

/-- `String.startsWith`. -/
def startsWith (text initial : String) : Bool := initial.toList.isPrefixOf text.toList

/-- How a nullable string is rendered by `String.format("%s", ...)` and `String.join`. -/
def formatNullable : Option String → String
  | some text => text
  | none => "null"

/-- `String.substring(from, to)`, which rejects indices outside the string. -/
def substring (text : String) (start stop : ℕ) : Except JavaException String :=
  if start ≤ stop ∧ stop ≤ text.length then
    .ok (String.ofList ((text.toList.take stop).drop start))
  else .error .stringIndexOutOfBounds

/-- `String.toLowerCase` on the ASCII letters that event names are made of. -/
def toLowerCase (text : String) : String := String.ofList (text.toList.map Char.toLower)

/-- `String.join`. -/
def join (delimiter : String) (elements : List (Option String)) : String :=
  delimiter.intercalate (elements.map formatNullable)

/-- Scanning stops at the first character that is not scanned over. -/
theorem span_append_cons {p : Char → Bool} {front : List Char} {c : Char} (rest : List Char)
    (hfront : ∀ d ∈ front, p d = true) (hc : p c = false) :
    (front ++ c :: rest).span p = (front, c :: rest) := by
  rw [List.span_eq_takeWhile_dropWhile, List.takeWhile_append_of_pos hfront,
    List.dropWhile_append_of_pos hfront]
  simp [hc]

theorem span_of_all {p : Char → Bool} {text : List Char} (h : ∀ c ∈ text, p c = true) :
    text.span p = (text, []) := by
  rw [List.span_eq_takeWhile_dropWhile, List.takeWhile_eq_self_iff.mpr h,
    List.dropWhile_eq_nil_iff.mpr h]

/-! ## Numbers -/

/-- An unsigned decimal numeral: at least one digit and nothing else. -/
def parseDigits (text : List Char) : Option ℕ :=
  if text ≠ [] ∧ text.all Char.isDigit then some (Nat.ofDigitChars 10 text 0) else none

theorem not_mem_toDigits {c : Char} (hc : c.isDigit = false) (n : ℕ) :
    c ∉ Nat.toDigits 10 n := by
  intro hmem
  have hdigit : c.isDigit = true := Nat.isDigit_of_mem_toDigits (by omega) (by omega) hmem
  rw [hc] at hdigit
  cases hdigit

theorem parseDigits_toDigits (n : ℕ) : parseDigits (Nat.toDigits 10 n) = some n := by
  have hdigits : (Nat.toDigits 10 n).all Char.isDigit = true := by
    rw [List.all_eq_true]
    intro c hc
    exact Nat.isDigit_of_mem_toDigits (by omega) (by omega) hc
  rw [parseDigits, if_pos ⟨Nat.toDigits_ne_nil, hdigits⟩, Nat.ofDigitChars_ten_toDigits]

/-- `Long.parseLong`: an optional sign, decimal digits, and a value of 64 bits.  A null
argument is rejected with the same exception as a malformed one. -/
def parseLong (text : Option String) : Except JavaException ℤ :=
  let number : Option ℤ :=
    match text.map String.toList with
    -- `Long.parseLong` treats null as a malformed number
    | none => none
    | some ('-' :: digits) => (parseDigits digits).map fun n => -(n : ℤ)
    | some ('+' :: digits) => (parseDigits digits).map fun n => (n : ℤ)
    | some digits => (parseDigits digits).map fun n => (n : ℤ)
  match number with
  -- what does not fit a `long` is rejected
  | some n => if -2 ^ 63 ≤ n ∧ n < 2 ^ 63 then .ok n else .error .numberFormat
  | none => .error .numberFormat

example : (parseLong (some "-1234")).toOption = some (-1234) := by decide

end SscsPdfEmail.Domain
