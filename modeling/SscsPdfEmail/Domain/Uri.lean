import SscsPdfEmail.Domain.Java

/-!
# URIs

`java.net.URI` as far as the services use it: `URI.create`, which accepts or rejects a text, and
the decoded path.  The grammar is that of the class, which departs from the standard in two
places that matter here: an authority may be empty, and visible characters outside of ASCII stand
for themselves.

The document stores are asked for the path of a link, so two links with one path could not be
told apart.  `PlainLink` describes the links that the stores hand out, a scheme, an authority and
a path without escapes; the text of such a link is accepted, and its path is the one it was made
of (`PlainLink.create_text`).  The proof follows the parser from the scheme to the path, and
needs of each part only that none of its characters ends it.
-/

namespace SscsPdfEmail.Domain

/-! ## Characters -/

def isAlpha (c : Char) : Bool := ('a' ≤ c && c ≤ 'z') || ('A' ≤ c && c ≤ 'Z')

def isAlphanumeric (c : Char) : Bool := isAlpha c || c.isDigit

/-- Value of a hexadecimal digit. -/
def hexValue (c : Char) : Option ℕ :=
  if c.isDigit then some (c.toNat - '0'.toNat)
  else if 'a' ≤ c ∧ c ≤ 'f' then some (c.toNat - 'a'.toNat + 10)
  else if 'A' ≤ c ∧ c ≤ 'F' then some (c.toNat - 'A'.toNat + 10)
  else none

def isHexDigit (c : Char) : Bool := (hexValue c).isSome

/-- `unreserved`: letters, digits and marks. -/
def isUnreserved (c : Char) : Bool := isAlphanumeric c || "-_.!~*'()".toList.contains c

/-- `uric`, apart from escapes: what queries, fragments and opaque parts are made of. -/
def isUricChar (c : Char) : Bool := isUnreserved c || ";/?:@&=+$,[]".toList.contains c

def isPathChar (c : Char) : Bool := isUnreserved c || ":@&=+$,;/".toList.contains c

def isSchemeChar (c : Char) : Bool := isAlphanumeric c || "+-.".toList.contains c

def isUserInfoChar (c : Char) : Bool := isUnreserved c || ";:&=+$,".toList.contains c

/-- `reg_name`, apart from escapes. -/
def isRegNameChar (c : Char) : Bool := isUnreserved c || "$,;:@&=+".toList.contains c

/-- `Character.isSpaceChar`, above ASCII. -/
def isSpaceChar (c : Char) : Bool :=
  [0xA0, 0x1680, 0x2028, 0x2029, 0x202F, 0x205F, 0x3000].contains c.toNat ||
    (0x2000 ≤ c.toNat && c.toNat ≤ 0x200A)

/-- A visible character outside of ASCII. -/
def isOther (c : Char) : Bool := 128 < c.toNat && !isSpaceChar c && !(c.toNat ≤ 0x9F)

/-- `checkChars`: characters of a class, visible ones outside of ASCII and escapes. -/
def checkChars (allowed : Char → Bool) : List Char → Bool
  -- a percent sign has to start an escape: it is in no class of its own
  | '%' :: high :: low :: rest => isHexDigit high && isHexDigit low && checkChars allowed rest
  | c :: rest => (allowed c || isOther c) && checkChars allowed rest
  | [] => true

/-! ## Authority -/

/-- Bytes of a decimal IPv4 address. -/
def ipv4Bytes (text : List Char) : Option ℕ :=
  let bytes := text.splitOn '.'
  if bytes.length = 4 ∧ bytes.all fun digits => (parseDigits digits).any (· ≤ 255) then some 4
  else none

/-- Bytes of the groups between the colons of an IPv6 address, all of them hexadecimal. -/
def hexGroupBytes (groups : List (List Char)) : Option ℕ :=
  if groups.all fun digits => digits ≠ [] ∧ digits.length ≤ 4 ∧ digits.all isHexDigit then
    some (2 * groups.length)
  else none

/-- The same, where the last group may be an IPv4 address. -/
def groupBytes (groups : List (List Char)) : Option ℕ :=
  match groups.getLast?.bind ipv4Bytes with
  | some bytes => (hexGroupBytes groups.dropLast).map (· + bytes)
  | none => hexGroupBytes groups

/-- The texts around the first double colon. -/
def splitDoubleColon : List Char → Option (List Char × List Char)
  | ':' :: ':' :: rest => some ([], rest)
  | c :: rest => (splitDoubleColon rest).map fun (before, after) => (c :: before, after)
  | [] => none

def colonGroups (text : List Char) : List (List Char) :=
  if text = [] then [] else text.splitOn ':'

/-- `parseIPv6Reference`: 16 bytes, or fewer around a double colon. -/
def isIPv6Address (text : List Char) : Bool :=
  match splitDoubleColon text with
  | none => groupBytes (colonGroups text) = some 16
  | some (before, after) =>
    -- an IPv4 address can only be the last group of all
    match hexGroupBytes (colonGroups before), groupBytes (colonGroups after) with
    | some front, some back => front + back < 16
    | _, _ => false

/-- An IPv6 address with an optional scope. -/
def isIPv6Literal (text : List Char) : Bool :=
  match text.span (· ≠ '%') with
  | (address, []) => isIPv6Address address
  | (address, _ :: scope) =>
    isIPv6Address address && scope ≠ [] &&
      scope.all fun c => isAlphanumeric c || c == '_' || c == '.'

/-- The part of `parseServer` that no registry name covers: an address in brackets, with
optional user information and port. -/
def isBracketedServer (text : List Char) : Bool :=
  let (userInfo, host) :=
    match text.span (· ≠ '@') with
    | (userInfo, _ :: host) => (userInfo, host)
    | (host, []) => ([], host)
  checkChars isUserInfoChar userInfo &&
    match host with
    | '[' :: rest =>
      match rest.span (· ≠ ']') with
      -- a port is optional, and may be empty
      | (literal, _ :: []) => isIPv6Literal literal
      | (literal, _ :: ':' :: port) =>
        isIPv6Literal literal && (port = [] || (parseDigits port).any (· < 2 ^ 31))
      | _ => false
    | _ => false

/-- `parseAuthority`, of a text that is not empty. -/
def isAuthority (text : List Char) : Bool :=
  checkChars isRegNameChar text || isBracketedServer text

/-! ## Parsing -/

/-- `URI`: the components that the services look at.  An opaque URI has no path. -/
structure Uri where
  scheme : Option String
  rawPath : Option String
deriving DecidableEq

namespace Uri

def isAbsolute (uri : Uri) : Bool := uri.scheme.isSome

/-- A path and an optional query. -/
def parsePath (scheme : Option String) (text : List Char) : Option Uri :=
  let (path, query) := text.span (· ≠ '?')
  if checkChars isPathChar path && checkChars isUricChar (query.drop 1) then
    some ⟨scheme, some (String.ofList path)⟩
  else none

/-- `parseHierarchical`: an optional authority, a path and an optional query. -/
def parseHierarchical (scheme : Option String) (hasFragment : Bool) :
    List Char → Option Uri
  | '/' :: '/' :: text =>
    match text.span fun c => c ≠ '/' && c ≠ '?' with
    -- an empty authority needs something behind it, if only a fragment
    | ([], []) => if hasFragment then parsePath scheme [] else none
    | ([], rest) => parsePath scheme rest
    | (authority, rest) => if isAuthority authority then parsePath scheme rest else none
  | text => parsePath scheme text

/-- What comes before the fragment: a scheme ends at a colon before any slash or question
mark. -/
def parseUnfragmented (hasFragment : Bool) (text : List Char) : Option Uri :=
  match text.span fun c => c ≠ ':' && c ≠ '/' && c ≠ '?' with
  -- a colon without a scheme in front of it
  | ([], ':' :: _) => none
  | (first :: scheme, ':' :: rest) =>
    if isAlpha first && scheme.all isSchemeChar then
      let scheme := some (String.ofList (first :: scheme))
      match rest with
      | '/' :: _ => parseHierarchical scheme hasFragment rest
      -- an opaque URI, which has to go on behind the scheme
      | _ => if rest ≠ [] && checkChars isUricChar rest then some ⟨scheme, none⟩ else none
    else none
  -- a relative reference
  | _ => parseHierarchical none hasFragment text

/-- `URI.create`. -/
def create (text : String) : Except JavaException Uri :=
  -- no component before the fragment has a number sign, so it starts at the first one
  let (unfragmented, fragment) := text.toList.span (· ≠ '#')
  let uri :=
    if checkChars isUricChar (fragment.drop 1) then
      parseUnfragmented (fragment ≠ []) unfragmented
    else none
  match uri with
  | some uri => .ok uri
  | none => .error .illegalArgument

end Uri

/-! ## Decoding -/

/-- What a malformed sequence of bytes is replaced by. -/
def replacementChar : Char := Char.ofNat 0xFFFD

/-- How many bytes follow a first byte of UTF-8, its share of the code point, and the limits
of the second byte. -/
def utf8Lead (byte : UInt8) : Option (ℕ × ℕ × ℕ × ℕ) :=
  let b := byte.toNat
  if b < 0x80 then some (0, b, 0, 0)
  else if 0xC2 ≤ b ∧ b ≤ 0xDF then some (1, b - 0xC0, 0x80, 0xBF)
  -- the limits of the second byte leave out overlong forms and what is beyond the last plane
  else if b = 0xE0 then some (2, 0, 0xA0, 0xBF)
  else if 0xE1 ≤ b ∧ b ≤ 0xEF then some (2, b - 0xE0, 0x80, 0xBF)
  else if b = 0xF0 then some (3, 0, 0x90, 0xBF)
  else if 0xF1 ≤ b ∧ b ≤ 0xF3 then some (3, b - 0xF0, 0x80, 0xBF)
  else if b = 0xF4 then some (3, 4, 0x80, 0x8F)
  else none

/-- The bytes that go on with a sequence, the first within its own limits. -/
def continuation (count low high : ℕ) (bytes : Bytes) : Bytes :=
  match count, bytes with
  | 0, _ => []
  | _, [] => []
  | count + 1, byte :: rest =>
    if low ≤ byte.toNat ∧ byte.toNat ≤ high then byte :: continuation count 0x80 0xBF rest else []

/-- UTF-8 with one replacement for each malformed sequence; a surrogate counts as one. -/
def decodeUtf8 : ℕ → Bytes → List Char
  | 0, _ => []
  | _, [] => []
  | fuel + 1, byte :: rest =>
    match utf8Lead byte with
    | none => replacementChar :: decodeUtf8 fuel rest
    | some (count, lead, low, high) =>
      -- a sequence that breaks off is replaced up to the byte that does not go on with it
      let bytes := continuation count low high rest
      let code := bytes.foldl (fun code byte => code * 64 + (byte.toNat - 0x80)) lead
      let c := if bytes.length = count ∧ code.isValidChar then Char.ofNat code else replacementChar
      c :: decodeUtf8 fuel (rest.drop bytes.length)

/-- `URI.decode`: the bytes of adjacent escapes are decoded together. -/
def decodeEscapes (pending : Bytes) : List Char → List Char
  | '%' :: high :: low :: rest =>
    let byte := UInt8.ofNat ((hexValue high).getD 0 * 16 + (hexValue low).getD 0)
    decodeEscapes (pending ++ [byte]) rest
  -- the first character that is not escaped ends the bytes before it
  | c :: rest => decodeUtf8 pending.length pending ++ c :: decodeEscapes [] rest
  | [] => decodeUtf8 pending.length pending

namespace Uri

/-- `URI.getPath`: the decoded path, null for an opaque URI. -/
def getPath (uri : Uri) : Option String :=
  uri.rawPath.map fun path => String.ofList (decodeEscapes [] path.toList)

end Uri

/-- `replaceFirst("/", "")`. -/
def removeFirstSlash (text : String) : String := String.ofList (text.toList.erase '/')

/-! ## Plain Links -/

/-- Text without a percent sign stands for itself. -/
theorem decodeEscapes_of_plain {text : List Char} (h : ∀ c ∈ text, c ≠ '%') :
    decodeEscapes [] text = text := by
  -- by induction on the text, with no bytes pending at any character
  induction text with
  | nil => rfl
  | cons c text ih =>
    have hc : c ≠ '%' := h c List.mem_cons_self
    have hrest := ih fun d hd => h d (List.mem_cons_of_mem c hd)
    rw [decodeEscapes]
    · rw [hrest]
      rfl
    · intro high low rest hpercent
      exact absurd hpercent hc

theorem checkChars_of_all {allowed : Char → Bool} {text : List Char}
    (h : ∀ c ∈ text, allowed c = true ∧ c ≠ '%') : checkChars allowed text = true := by
  induction text with
  | nil => rfl
  | cons c text ih =>
    obtain ⟨hallowed, hc⟩ := h c List.mem_cons_self
    have hrest := ih fun d hd => h d (List.mem_cons_of_mem c hd)
    rw [checkChars]
    · rw [hallowed, hrest]
      rfl
    · -- the case of an escape does not arise
      intro high low rest hpercent
      exact absurd hpercent hc

theorem ne_of_isSchemeChar {c : Char} (h : isSchemeChar c = true) :
    c ≠ ':' ∧ c ≠ '/' ∧ c ≠ '?' ∧ c ≠ '#' := by
  refine ⟨?_, ?_, ?_, ?_⟩ <;> rintro rfl <;> exact absurd h (by decide)

theorem ne_of_isRegNameChar {c : Char} (h : isRegNameChar c = true) :
    c ≠ '/' ∧ c ≠ '?' ∧ c ≠ '#' ∧ c ≠ '%' := by
  refine ⟨?_, ?_, ?_, ?_⟩ <;> rintro rfl <;> exact absurd h (by decide)

theorem ne_of_isPathChar {c : Char} (h : isPathChar c = true) :
    c ≠ '?' ∧ c ≠ '#' ∧ c ≠ '%' := by
  refine ⟨?_, ?_, ?_⟩ <;> rintro rfl <;> exact absurd h (by decide)

/-- A link as document stores give them out: `scheme://authority/path`, without escapes. -/
structure PlainLink where
  /-- First character of the scheme. -/
  initial : Char
  scheme : List Char
  authority : List Char
  path : List Char
  isAlpha_initial : isAlpha initial = true
  isSchemeChar_scheme : ∀ c ∈ scheme, isSchemeChar c = true
  authority_ne_nil : authority ≠ []
  isRegNameChar_authority : ∀ c ∈ authority, isRegNameChar c = true
  isPathChar_path : ∀ c ∈ path, isPathChar c = true

namespace PlainLink

variable (link : PlainLink)

def afterScheme : List Char := link.authority ++ '/' :: link.path

def text : String :=
  String.ofList (link.initial :: link.scheme ++ ':' :: '/' :: '/' :: link.afterScheme)

def uri : Uri where
  scheme := some (String.ofList (link.initial :: link.scheme))
  rawPath := some (String.ofList ('/' :: link.path))

theorem isPathChar_slash_path : ∀ c ∈ '/' :: link.path, isPathChar c = true := by
  intro c hc
  rcases List.mem_cons.mp hc with rfl | hpath
  · decide
  · exact link.isPathChar_path c hpath

theorem isSchemeChar_initial_scheme :
    ∀ c ∈ link.initial :: link.scheme, isSchemeChar c = true := by
  intro c hc
  rcases List.mem_cons.mp hc with rfl | hscheme
  · simp [isSchemeChar, isAlphanumeric, link.isAlpha_initial]
  · exact link.isSchemeChar_scheme c hscheme

theorem parsePath_path (scheme : Option String) :
    Uri.parsePath scheme ('/' :: link.path) = some ⟨scheme, some (String.ofList ('/' :: link.path))⟩ := by
  -- a path of such a link has no query
  have hspan : ('/' :: link.path).span (· ≠ '?') = ('/' :: link.path, []) :=
    span_of_all fun c hc => by
      simpa using (ne_of_isPathChar (link.isPathChar_slash_path c hc)).1
  have hchars : checkChars isPathChar ('/' :: link.path) = true :=
    checkChars_of_all fun c hc =>
      ⟨link.isPathChar_slash_path c hc, (ne_of_isPathChar (link.isPathChar_slash_path c hc)).2.2⟩
  simp only [Uri.parsePath, hspan, hchars]
  rfl

theorem parseHierarchical_afterScheme (scheme : Option String) :
    Uri.parseHierarchical scheme false ('/' :: '/' :: link.afterScheme) =
      some ⟨scheme, some (String.ofList ('/' :: link.path))⟩ := by
  have hspan : link.afterScheme.span (fun c => c ≠ '/' && c ≠ '?') =
      (link.authority, '/' :: link.path) :=
    span_append_cons link.path (fun c hc => by
      obtain ⟨hslash, hquestion, -, -⟩ :=
        ne_of_isRegNameChar (link.isRegNameChar_authority c hc)
      simp [hslash, hquestion]) rfl
  have hchars : checkChars isRegNameChar link.authority = true :=
    checkChars_of_all fun c hc =>
      ⟨link.isRegNameChar_authority c hc,
        (ne_of_isRegNameChar (link.isRegNameChar_authority c hc)).2.2.2⟩
  have hauthority : isAuthority link.authority = true := by
    rw [isAuthority, hchars]
    rfl
  rw [Uri.parseHierarchical, hspan]
  -- the authority is not empty, so it is the one that is looked at
  cases hcases : link.authority with
  | nil => exact absurd hcases link.authority_ne_nil
  | cons c authority =>
    rw [hcases] at hauthority
    simp only [hauthority, if_true]
    exact link.parsePath_path scheme

/-- Nothing in the link starts a fragment. -/
theorem ne_hash_of_mem {c : Char}
    (h : c ∈ link.initial :: link.scheme ++ ':' :: '/' :: '/' :: link.afterScheme) : c ≠ '#' := by
  -- part by part: no character class of the link has the number sign
  rcases List.mem_append.mp h with hscheme | hrest
  · exact (ne_of_isSchemeChar (link.isSchemeChar_initial_scheme c hscheme)).2.2.2
  · simp only [afterScheme, List.mem_cons, List.mem_append] at hrest
    rcases hrest with rfl | rfl | rfl | hauthority | rfl | hpath
    · decide
    · decide
    · decide
    · exact (ne_of_isRegNameChar (link.isRegNameChar_authority c hauthority)).2.2.1
    · decide
    · exact (ne_of_isPathChar (link.isPathChar_path c hpath)).2.1

/-- **Plain links** are accepted, and their path is the text behind the authority. -/
theorem create_text : Uri.create link.text = .ok link.uri := by
  have hfragment : (link.initial :: link.scheme ++ ':' :: '/' :: '/' :: link.afterScheme).span
      (· ≠ '#') = (link.initial :: link.scheme ++ ':' :: '/' :: '/' :: link.afterScheme, []) :=
    span_of_all fun c hc => by simpa using link.ne_hash_of_mem hc
  -- the scheme ends at the colon, since none of its characters is one
  have hscheme : (link.initial :: link.scheme ++ ':' :: '/' :: '/' :: link.afterScheme).span
      (fun c => c ≠ ':' && c ≠ '/' && c ≠ '?') =
        (link.initial :: link.scheme, ':' :: '/' :: '/' :: link.afterScheme) :=
    span_append_cons _ (fun c hc => by
      obtain ⟨hcolon, hslash, hquestion, -⟩ :=
        ne_of_isSchemeChar (link.isSchemeChar_initial_scheme c hc)
      simp [hcolon, hslash, hquestion]) rfl
  have hall : link.scheme.all isSchemeChar = true :=
    List.all_eq_true.mpr link.isSchemeChar_scheme
  have hparsed : Uri.parseUnfragmented false
      (link.initial :: link.scheme ++ ':' :: '/' :: '/' :: link.afterScheme) = some link.uri := by
    rw [Uri.parseUnfragmented, hscheme]
    simp only [link.isAlpha_initial, hall, Bool.and_self, if_true]
    exact link.parseHierarchical_afterScheme _
  unfold Uri.create text
  rw [String.toList_ofList, hfragment]
  simp only [List.drop_nil, checkChars, if_true, ne_eq, not_true_eq_false, decide_false, hparsed]

theorem getPath_uri : link.uri.getPath = some (String.ofList ('/' :: link.path)) := by
  have hplain : ∀ c ∈ '/' :: link.path, c ≠ '%' := fun c hc =>
    (ne_of_isPathChar (link.isPathChar_slash_path c hc)).2.2
  show some (String.ofList (decodeEscapes [] (String.ofList ('/' :: link.path)).toList)) = _
  rw [String.toList_ofList, decodeEscapes_of_plain hplain]

end PlainLink

end SscsPdfEmail.Domain
