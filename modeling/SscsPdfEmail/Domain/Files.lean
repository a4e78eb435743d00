import SscsPdfEmail.Domain.Java

/-!
# File Names

What the conversion of files relies on in `FilenameUtils` of Commons IO and in
`File.createTempFile`, by their documentation.  A base name is the text behind the last separator
and in front of the last dot, an extension what follows that dot, if no separator comes after it.

`FilenameUtils` is a record of the two functions and of the laws that the converters need: a name
that was put together from a base and an extension is taken apart again.  `FilenameUtils.commons`
is the implementation, on which the laws are proved, so they ask for nothing impossible.

`IsTempName` is what may be relied on in the name of a temporary file, whose middle is made up by
the file system and whose ends may be cut to a minimum length.
-/

namespace SscsPdfEmail.Domain

/-- The directory separators of either system. -/
def isSeparator (c : Char) : Bool := c = '/' || c = '\\'

/-- A name without a path: neither separators nor null characters. -/
def IsSimpleName (name : String) : Prop :=
  ∀ c ∈ name.toList, isSeparator c = false ∧ c.toNat ≠ 0

/-- Text that can stand behind the last dot of a name. -/
def IsExtension (extension : String) : Prop :=
  ∀ c ∈ extension.toList, isSeparator c = false ∧ c ≠ '.'

/-- `FilenameUtils` of Commons IO. -/
structure FilenameUtils where
  /-- The text behind the last separator and before the last dot that follows.  A null
  character is rejected. -/
  getBaseName : String → Except JavaException String
  /-- The text behind the last dot, if no separator follows. -/
  getExtension : String → String
  getBaseName_append : ∀ name extension, IsSimpleName name → IsExtension extension →
    (∀ c ∈ extension.toList, c.toNat ≠ 0) →
      getBaseName (name ++ "." ++ extension) = .ok name
  getExtension_append : ∀ name extension, IsExtension extension →
    getExtension (name ++ "." ++ extension) = extension
  isExtension_getExtension : ∀ text, IsExtension (getExtension text)

/-- What `File.createTempFile` makes of its arguments: both may be cut, but not to fewer than
three characters after the dot of the suffix or three of the other, and characters of its own
stand between them. -/
structure IsTempName (start suffix name : String) : Prop where
  parts : ∃ start' middle suffix' : String, name = start' ++ middle ++ suffix' ∧
    start'.toList <+: start.toList ∧ 3 ≤ start'.toList.length ∧
    suffix'.toList <+: suffix.toList ∧ min 4 suffix.toList.length ≤ suffix'.toList.length
  simple : IsSimpleName name

/-! ## The functions of `FilenameUtils` -/

/-- The text behind the last separator. -/
def getName (text : List Char) : List Char :=
  (text.reverse.takeWhile fun c => !isSeparator c).reverse

/-- A text before and behind its last dot. -/
def splitExtension (text : List Char) : List Char × Option (List Char) :=
  match text.reverse.span (· ≠ '.') with
  | (extension, _ :: front) => (front.reverse, some extension.reverse)
  | (_, []) => (text, none)

theorem splitExtension_append {extension : List Char} (front : List Char)
    (h : ∀ c ∈ extension, c ≠ '.') :
    splitExtension (front ++ '.' :: extension) = (front, some extension) := by
  -- read from the end, the first dot is the one in front of the extension
  have hspan : (front ++ '.' :: extension).reverse.span (· ≠ '.') =
      (extension.reverse, '.' :: front.reverse) := by
    rw [List.reverse_append, List.reverse_cons, List.append_assoc, List.singleton_append]
    exact span_append_cons _ (by simpa using h) (by simp)
  rw [splitExtension, hspan]
  simp

/-- A text without a dot has no extension; any other splits at its last dot. -/
theorem splitExtension_cases (text : List Char) :
    splitExtension text = (text, none) ∨
      ∃ front extension, text = front ++ '.' :: extension ∧ (∀ c ∈ extension, c ≠ '.') ∧
        splitExtension text = (front, some extension) := by
  -- the text is split at the last dot, if there is one
  by_cases hdot : '.' ∈ text.reverse
  · obtain ⟨after, before, hreverse, hlast⟩ := List.eq_append_cons_of_mem hdot
    have htext : text = before.reverse ++ '.' :: after.reverse := by
      rw [← List.reverse_reverse text, hreverse]
      simp
    have hafter : ∀ c ∈ after.reverse, c ≠ '.' := by
      rintro c hc rfl
      exact hlast (List.mem_reverse.mp hc)
    refine Or.inr ⟨before.reverse, after.reverse, htext, hafter, ?_⟩
    rw [htext, splitExtension_append _ hafter]
  · have hspan : text.reverse.span (· ≠ '.') = (text.reverse, []) := by
      apply span_of_all
      intro c hc
      exact decide_eq_true fun heq => hdot (heq ▸ hc)
    exact Or.inl (by rw [splitExtension, hspan])

theorem getName_append {extension : List Char} (front : List Char)
    (h : ∀ c ∈ extension, isSeparator c = false) :
    getName (front ++ extension) = getName front ++ extension := by
  rw [getName, List.reverse_append, List.takeWhile_append_of_pos (by simpa using h),
    List.reverse_append, List.reverse_reverse, getName]

theorem mem_getName {text : List Char} {c : Char} (hc : c ∈ getName text) :
    c ∈ text ∧ isSeparator c = false := by
  rw [getName, List.mem_reverse] at hc
  exact ⟨List.mem_reverse.mp ((List.takeWhile_sublist _).subset hc),
    by simpa using List.mem_takeWhile_imp hc⟩

theorem getName_of_simple {text : List Char} (h : ∀ c ∈ text, isSeparator c = false) :
    getName text = text := by
  rw [getName, List.takeWhile_eq_self_iff.mpr (by simpa using h), List.reverse_reverse]

theorem toList_append_extension (name extension : String) :
    (name ++ "." ++ extension).toList = name.toList ++ '.' :: extension.toList := by
  simp

theorem IsExtension.not_isSeparator {extension : String} (h : IsExtension extension) :
    ∀ c ∈ '.' :: extension.toList, isSeparator c = false := by
  intro c hc
  rcases List.mem_cons.mp hc with rfl | hc
  · rfl
  · exact (h c hc).1

/-- The functions on concrete texts. -/
def FilenameUtils.commons : FilenameUtils where
  getBaseName text :=
    if text.toList.all (·.toNat ≠ 0) then
      .ok (String.ofList (splitExtension (getName text.toList)).1)
    else .error .illegalArgument
  getExtension text := String.ofList ((splitExtension (getName text.toList)).2.getD [])
  getBaseName_append name extension hname hextension hnull := by
    have hall : (name ++ "." ++ extension).toList.all (·.toNat ≠ 0) = true := by
      simp only [String.toList_append, List.all_append, List.all_eq_true, Bool.and_eq_true,
        decide_eq_true_eq]
      exact ⟨⟨fun c hc => (hname c hc).2, by simp⟩, hnull⟩
    -- neither the name nor the extension has a separator, so nothing is cut off in front
    have hsimple : ∀ c ∈ name.toList ++ '.' :: extension.toList, isSeparator c = false := by
      intro c hc
      exact (List.mem_append.mp hc).elim (fun hc => (hname c hc).1)
        (hextension.not_isSeparator c)
    rw [if_pos hall, toList_append_extension, getName_of_simple hsimple,
      splitExtension_append _ fun c hc => (hextension c hc).2, String.ofList_toList]
  getExtension_append name extension hextension := by
    rw [toList_append_extension, getName_append _ hextension.not_isSeparator,
      splitExtension_append _ fun c hc => (hextension c hc).2, Option.getD_some,
      String.ofList_toList]
  isExtension_getExtension text := by
    intro c hc
    rw [String.toList_ofList] at hc
    -- an extension is what follows the last dot of the text behind the last separator
    rcases splitExtension_cases (getName text.toList) with
      hnone | ⟨front, extension, htext, hlast, hsplit⟩
    · rw [hnone] at hc
      cases hc
    · rw [hsplit] at hc
      have hmem : c ∈ getName text.toList := by
        rw [htext]
        exact List.mem_append_right _ (List.mem_cons_of_mem _ hc)
      exact ⟨(mem_getName hmem).2, hlast c hc⟩

end SscsPdfEmail.Domain
