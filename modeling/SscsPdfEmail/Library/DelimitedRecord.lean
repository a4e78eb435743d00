import Mathlib.Computability.Encoding
import Mathlib.Data.List.TakeWhile

/-!
# Records of Delimited Fields

Values written one after the other with a delimiter between them, over any alphabet.  An
`Encoding` comes with a reader that gives back what was written, so two values never share a text
(`Encoding.encode_injective`).

What is written is read back as soon as no field but the last can contain the delimiter
(`DelimitedField.before`), however long the fields are: the reader cuts at the first delimiter,
which is the one that was put there.  Fields are put in front of a record one at a time, and the
laws of a record of any length follow from those of two.

One kind of field is a key of a table that gives every key a name of its own (`lookup_swap`), for
which the table is read the other way round.  Values that are first represented by something else
are covered by `encodeThrough`.
-/

namespace SscsPdfEmail.Library

open Computability

/-! ## Tables -/

section Tables

variable {κ ν : Type*} [BEq κ] [LawfulBEq κ] {table : List (κ × ν)} {key : κ} {name : ν}

theorem mem_of_lookup (h : table.lookup key = some name) : (key, name) ∈ table := by
  obtain ⟨front, back, rfl, -⟩ := List.lookup_eq_some_iff.mp h
  exact List.mem_append_right front List.mem_cons_self

/-- Where no two keys share a name, a name is looked up like a key. -/
theorem lookup_swap [BEq ν] [LawfulBEq ν] (hnames : (table.map Prod.snd).Nodup)
    (h : table.lookup key = some name) :
    (table.map Prod.swap).lookup name = some key := by
  obtain ⟨front, back, rfl, -⟩ := List.lookup_eq_some_iff.mp h
  rw [List.lookup_eq_some_iff]
  refine ⟨front.map Prod.swap, back.map Prod.swap, by simp, ?_⟩
  intro entry hentry
  obtain ⟨earlier, hearlier, rfl⟩ := List.mem_map.mp hentry
  rw [List.map_append, List.nodup_append] at hnames
  -- the name of an earlier key would occur twice
  have hne := hnames.2.2 earlier.2 (List.mem_map_of_mem hearlier) name (by simp)
  exact bne_iff_ne.mpr hne.symm

end Tables

/-! ## Fields -/

/-- An encoding whose words are free of a delimiter. -/
structure DelimitedField (α : Type*) {σ : Type*} (delimiter : σ) extends Encoding α σ where
  free : ∀ a, delimiter ∉ encode a

section Records

variable {α β σ : Type*} [DecidableEq σ] {delimiter : σ}

/-- A field, the delimiter, and the rest of the record. -/
def DelimitedField.before (field : DelimitedField α delimiter) (rest : Encoding β σ) :
    Encoding (α × β) σ where
  encode record := field.encode record.1 ++ delimiter :: rest.encode record.2
  decode word :=
    match word.dropWhile (· ≠ delimiter) with
    | _ :: back =>
      (field.decode (word.takeWhile (· ≠ delimiter))).bind fun a =>
        (rest.decode back).map fun b => (a, b)
    | [] => none
  decode_encode record := by
    have hfront : ∀ c ∈ field.encode record.1, decide (c ≠ delimiter) = true := by
      intro c hc
      exact decide_eq_true fun heq => field.free record.1 (heq ▸ hc)
    -- the field ends at the delimiter that was put there
    rw [List.dropWhile_append_of_pos hfront, List.takeWhile_append_of_pos hfront,
      List.dropWhile_cons_of_neg (by simp), List.takeWhile_cons_of_neg (by simp),
      List.append_nil]
    simp only [Encoding.decode_encode, Option.bind_some, Option.map_some]

theorem DelimitedField.encode_before (field : DelimitedField α delimiter)
    (rest : Encoding β σ) (record : α × β) :
    (field.before rest).encode record =
      field.encode record.1 ++ delimiter :: rest.encode record.2 := rfl

end Records

/-- Values written as something else that they are restored from. -/
def encodeThrough {α β σ : Type*} (encoding : Encoding β σ) (represent : α → β)
    (restore : β → Option α) (h : ∀ a, restore (represent a) = some a) : Encoding α σ where
  encode a := encoding.encode (represent a)
  decode word := (encoding.decode word).bind restore
  decode_encode a := by
    rw [Encoding.decode_encode, Option.bind_some, h]

end SscsPdfEmail.Library
