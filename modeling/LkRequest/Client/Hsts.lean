import LkRequest.Error
import LkRequest.Library.Text
import Mathlib.Data.Finset.Basic

/-!
# The HSTS store

`hsts.rs`: the policy that learns hosts from `Strict-Transport-Security` headers, with its host
matching and its reader of the `max-age` directive, and the hop of the redirect loop that hands it
the headers. Beside it stands the header syntax of RFC 6797 §6.1, which the code's reader is
compared with.
-/

namespace LkRequest.Client

open Library List Option Text

/-! ## Hosts -/

/-- `normalize_host`. -/
def normalizeHost (host : Text) : Text := Text.lower (host.rdropWhile (· == '.'))

/-- `host_matches`: the host is the entry, or ends in it at a label boundary. -/
def hostMatches (host entry : Text) : Bool :=
  host == entry ||
    match Text.stripSuffix? host entry with
    | some front => front.getLast? == some '.'
    | none => false

/-! ## The reader of `max-age` -/

/-- The value of a directive named `max-age`: `none` if the directive has another name or none. -/
def maxAgeValue? (directive : Text) : Option Text :=
  match Text.splitOnce '=' directive with
  | some (name, value) =>
    if Text.equalsIgnoreCase (Text.trim name) "max-age".toList then some value else none
  | none => none

/-- `parse_max_age`: the first directive of that name decides. -/
def parseMaxAge (header : Text) : Option Nat :=
  match (header.splitOn ';').findSome? maxAgeValue? with
  | some value => Text.parseU64 (Text.trimMatches (· == '"') (Text.trim value))
  | none => none

/-! ## The store -/

/-- `DynamicHsts`. -/
structure DynamicHsts where
  hosts : Finset Text

namespace DynamicHsts

def withSeed (hosts : List Text) : DynamicHsts := ⟨(hosts.map normalizeHost).toFinset⟩

def shouldUpgrade (store : DynamicHsts) (host : Text) : Bool :=
  decide (∃ entry ∈ store.hosts, hostMatches (normalizeHost host) entry)

def recordSts (store : DynamicHsts) (host stsHeader : Text) : DynamicHsts :=
  match parseMaxAge stsHeader with
  | some maxAge =>
    if 0 < maxAge then ⟨insert (normalizeHost host) store.hosts⟩
    else ⟨store.hosts.erase (normalizeHost host)⟩
  | none => store

end DynamicHsts

/-! ## Responses -/

inductive Scheme where
  | https
  | http
  deriving DecidableEq

/-- The bytes of a header value as characters. -/
def headerChars (value : Bytes) : Text := value.map fun byte => Char.ofNat byte.toNat

/-- A header value as bytes; `HeaderValue::to_str` reads visible ASCII and tabs. -/
def headerToStr (value : Bytes) : Option Text :=
  if value.all fun byte => (32 ≤ byte && byte < 127) || byte == 9 then some (headerChars value)
  else none

/-- A response to one hop of `send`: the host and scheme of the hop's URL and the first
`Strict-Transport-Security` header. -/
structure StsResponse where
  scheme : Scheme
  host : Text
  stsHeader : Option Bytes

/-- The text that `send_with_redirects` hands to `record_sts`. -/
def StsResponse.stsText (response : StsResponse) : Option Text :=
  response.stsHeader.bind headerToStr

/-- The part of `send_with_redirects` that learns from a response. It does not look at the
scheme. -/
def DynamicHsts.learn (store : DynamicHsts) (response : StsResponse) : DynamicHsts :=
  match response.stsText with
  | some sts => store.recordSts response.host sts
  | none => store

/-- The store after a sequence of responses. -/
def DynamicHsts.learnAll (store : DynamicHsts) (responses : List StsResponse) : DynamicHsts :=
  responses.foldl learn store

/-! ## The header syntax of RFC 6797 -/

namespace Rfc6797

/-- The characters of a `token`. -/
def isTokenChar (c : Char) : Bool :=
  33 ≤ c.toNat && c.toNat < 127 && !"()<>@,;:\\\"/[]?=\x7b\x7d".toList.contains c

/-- The directives of a header: the text between the semicolons that are outside quoted strings. -/
def splitDirectives (quoted escaped : Bool) : Text → List Text
  | [] => [[]]
  | c :: rest =>
    if c = ';' ∧ quoted = false then [] :: splitDirectives false false rest
    else
      let quoted' := if c = '"' ∧ escaped = false then !quoted else quoted
      let escaped' := quoted && !escaped && c == '\\'
      match splitDirectives quoted' escaped' rest with
      | piece :: more => (c :: piece) :: more
      | [] => [[c]]

/-- The content of a quoted string, after its opening quote; the closing quote ends the text. -/
def unquote : Text → Option Text
  | [] => none
  | '"' :: rest => if rest = [] then some [] else none
  | '\\' :: c :: rest => if c.toNat < 128 then (unquote rest).map (c :: ·) else none
  | c :: rest =>
    if c ≠ '\\' ∧ (32 ≤ c.toNat ∧ c.toNat ≠ 127 ∨ c = '\t') then (unquote rest).map (c :: ·)
    else none

structure Directive where
  name : Text
  value : Option Text

/-- A directive: a token, and after an equals sign a token or a quoted string. -/
def parseDirective (piece : Text) : Option Directive :=
  let trimmed := Text.trim piece
  let name := trimmed.takeWhile isTokenChar
  if name = [] then none
  else
    match (trimmed.dropWhile isTokenChar).dropWhile Text.isBlank with
    | [] => some ⟨Text.lower name, none⟩
    | '=' :: rest =>
      match rest.dropWhile Text.isBlank with
      | '"' :: quoted => (unquote quoted).map fun content => ⟨Text.lower name, some content⟩
      | value =>
        if value ≠ [] ∧ value.all isTokenChar then some ⟨Text.lower name, some value⟩ else none
    | _ => none

/-- The directives of a header, if each of them conforms to the syntax; an empty place between two
semicolons is none. -/
def parseDirectives (header : Text) : Option (List Directive) :=
  ((splitDirectives false false header).filter fun piece => Text.trim piece ≠ []).mapM
    parseDirective

/-- What a well-formed header asserts. -/
structure Assertion where
  maxAge : Nat
  includeSubDomains : Bool
  deriving DecidableEq

/-- The `delta-seconds` of a directive. -/
def Directive.deltaSeconds? (directive : Directive) : Option Nat :=
  match directive.value with
  | some digits =>
    if digits ≠ [] ∧ digits.all Char.isDigit then some (Text.decimal digits) else none
  | none => none

/-- A well-formed header: no directive occurs twice, `max-age` is there with its number of seconds,
and `includeSubDomains` has no value. -/
def parse (header : Text) : Option Assertion :=
  match parseDirectives header with
  | none => none
  | some directives =>
    if (directives.map Directive.name).Nodup then
      match directives.find? (·.name = "max-age".toList) with
      | none => none
      | some maxAge =>
        match maxAge.deltaSeconds?, directives.find? (·.name = "includesubdomains".toList) with
        | some seconds, none => some ⟨seconds, false⟩
        | some seconds, some ⟨_, none⟩ => some ⟨seconds, true⟩
        | _, _ => none
    else none

end Rfc6797

/-! ## Host matching -/

/-- The domain is the host, or a superdomain of it at a label boundary. -/
def Covers (domain host : Text) : Prop := host = domain ∨ ∃ front, host = front ++ '.' :: domain

theorem hostMatches_iff (host entry : Text) :
    hostMatches host entry = true ↔ Covers entry host := by
  constructor
  · intro hmatch
    rcases Bool.or_eq_true_iff.mp hmatch with heq | hsuffix
    · exact .inl (beq_iff_eq.mp heq)
    · by_cases hending : entry <:+ host
      · obtain ⟨front, rfl⟩ := hending
        rw [stripSuffix?, if_pos (suffix_append front entry)] at hsuffix
        have hfront : front.getLast? = some '.' := by simpa using hsuffix
        obtain ⟨labels, rfl⟩ := getLast?_eq_some_iff.mp hfront
        exact .inr ⟨labels, by simp⟩
      · rw [stripSuffix?, if_neg hending] at hsuffix
        cases hsuffix
  · rintro (rfl | ⟨front, rfl⟩)
    · simp [hostMatches]
    · have hending : entry <:+ front ++ '.' :: entry := ⟨front ++ ['.'], by simp⟩
      have hlen : (front ++ '.' :: entry).length - entry.length = (front ++ ['.']).length := by
        simp only [length_append, length_cons, length_nil]
        omega
      have htake : (front ++ '.' :: entry).take (front ++ ['.']).length = front ++ ['.'] := by
        rw [show front ++ '.' :: entry = (front ++ ['.']) ++ entry by simp, take_left']
        rfl
      rw [hostMatches, stripSuffix?, if_pos hending, hlen, htake]
      simp

namespace DynamicHsts

theorem shouldUpgrade_iff (store : DynamicHsts) (host : Text) :
    store.shouldUpgrade host = true ↔
      ∃ domain, Covers domain (normalizeHost host) ∧ domain ∈ store.hosts := by
  simp only [shouldUpgrade, decide_eq_true_eq, hostMatches_iff]
  exact exists_congr fun domain => and_comm

end DynamicHsts

/-! ## What the store holds after a run -/

/-- The seconds that a response asserts for a domain, as the code reads them. -/
def StsResponse.readFor (domain : Text) (response : StsResponse) : Option Nat :=
  if normalizeHost response.host = domain then response.stsText.bind parseMaxAge else none

/-- A domain is held after the responses: the last header that could be read decides, and where
there is none, what was held before. -/
def heldAfter (domain : Text) (before : Prop) (responses : List StsResponse) : Prop :=
  match (responses.filterMap (StsResponse.readFor domain)).getLast? with
  | some seconds => 0 < seconds
  | none => before

namespace DynamicHsts

/-- One response changes what the store says about the domain it is for, and nothing else. -/
theorem mem_learn (store : DynamicHsts) (response : StsResponse) (domain : Text) :
    domain ∈ (store.learn response).hosts ↔
      match response.readFor domain with
      | some seconds => 0 < seconds
      | none => domain ∈ store.hosts := by
  cases hsts : response.stsText with
  | none => simp [learn, StsResponse.readFor, hsts]
  | some sts =>
    cases hage : parseMaxAge sts with
    | none => simp [learn, recordSts, StsResponse.readFor, hsts, hage]
    | some seconds =>
      by_cases hdomain : normalizeHost response.host = domain
      · by_cases hseconds : 0 < seconds <;>
          simp [learn, recordSts, StsResponse.readFor, hsts, hage, hdomain, hseconds]
      · by_cases hseconds : 0 < seconds <;>
          simp [learn, recordSts, StsResponse.readFor, hsts, hage, hdomain, hseconds,
            Ne.symm hdomain]

theorem mem_learnAll (store : DynamicHsts) (responses : List StsResponse) (domain : Text) :
    domain ∈ (store.learnAll responses).hosts ↔
      heldAfter domain (domain ∈ store.hosts) responses := by
  induction responses generalizing store with
  | nil => rfl
  | cons response rest ih =>
    have hstep : store.learnAll (response :: rest) = (store.learn response).learnAll rest := rfl
    rw [hstep, ih, heldAfter, heldAfter]
    cases hread : response.readFor domain with
    | none => simp [hread, mem_learn]
    | some seconds =>
      rw [filterMap_cons, hread, getLast?_cons]
      cases (rest.filterMap (StsResponse.readFor domain)).getLast? with
      | none => simp [mem_learn, hread]
      | some later => simp

end DynamicHsts

/-! ## The code's reader against the syntax -/

namespace Rfc6797

variable {c : Char} {piece : Text} {directive : Directive} {value header : Text}
  {assertion : Assertion}

theorem not_isBlank_of_isTokenChar (htoken : isTokenChar c) : ¬ isBlank c := by
  intro hblank
  simp only [isBlank, Bool.or_eq_true, beq_iff_eq] at hblank
  rcases hblank with ((rfl | rfl) | rfl) | rfl <;> cases htoken

theorem ne_equals_of_isTokenChar (htoken : isTokenChar c) : c ≠ '=' := by
  rintro rfl
  cases htoken

theorem ne_equals_of_isBlank (hblank : isBlank c) : c ≠ '=' := by
  rintro rfl
  cases hblank

/-- How a value stands behind its equals sign, white space trimmed. -/
def Written (value written : Text) : Prop :=
  written = value ∨ ∃ quoted, written = '"' :: quoted ∧ unquote quoted = some value

/-- The parts of a text that begins with a token: the token, white space, and what follows. -/
theorem takeWhile_parts (text : Text) :
    text = text.takeWhile isTokenChar ++
      (text.dropWhile isTokenChar).takeWhile isBlank ++
        (text.dropWhile isTokenChar).dropWhile isBlank := by
  rw [append_assoc, takeWhile_append_dropWhile, takeWhile_append_dropWhile]

theorem trim_token {front name middle : Text} (hfront : ∀ c ∈ front, isBlank c)
    (hname : ∀ c ∈ name, isTokenChar c) (hmiddle : ∀ c ∈ middle, isBlank c) :
    trim (front ++ name ++ middle) = name := by
  apply trimMatches_append hfront hmiddle
  · exact fun c hc => not_isBlank_of_isTokenChar (hname c (mem_of_mem_head? hc))
  · exact fun c hc => not_isBlank_of_isTokenChar (hname c (mem_of_getLast? hc))

/-- What follows the equals sign, trimmed: the text ends where the directive ends. -/
theorem trim_value {rest back : Text} (hback : ∀ c ∈ back, isBlank c)
    (hlast : ∀ c ∈ (rest.dropWhile isBlank).getLast?, ¬ isBlank c) :
    trim (rest ++ back) = rest.dropWhile isBlank := by
  have hrest : rest ++ back = rest.takeWhile isBlank ++ rest.dropWhile isBlank ++ back := by
    rw [takeWhile_append_dropWhile]
  rw [hrest]
  apply trimMatches_append
  · exact fun _ => mem_takeWhile_imp
  · exact hback
  · intro c hc
    have hne : rest.dropWhile isBlank ≠ [] := by
      intro hnil
      simp [hnil] at hc
    have hnot := head_dropWhile_not isBlank hne
    rw [mem_def, head?_eq_some_head hne] at hc
    rw [← some.inj hc, hnot]
    simp
  · exact hlast

/-- A directive with a value, as `split_once` takes it apart. -/
theorem parseDirective_split (hparse : parseDirective piece = some directive) :
    (directive.value = none ∧ splitOnce '=' piece = none) ∨
      ∃ name written value, directive.value = some value ∧
        splitOnce '=' piece = some (name, written) ∧
        lower (trim name) = directive.name ∧ Written value (trim written) := by
  obtain ⟨front, back, hpiece, hfront, hback⟩ := exists_trimMatches isBlank piece
  have hlast : ∀ c ∈ (trim piece).getLast?, ¬ isBlank c :=
    fun _ => not_getLast_trimMatches
  change piece = front ++ trim piece ++ back at hpiece
  have hparts := takeWhile_parts (trim piece)
  have hname : ∀ c ∈ (trim piece).takeWhile isTokenChar, isTokenChar c :=
    fun _ => mem_takeWhile_imp
  have hmiddle : ∀ c ∈ ((trim piece).dropWhile isTokenChar).takeWhile isBlank,
      isBlank c := fun _ => mem_takeWhile_imp
  simp only [parseDirective] at hparse
  generalize (trim piece).takeWhile isTokenChar = name at hparts hname hparse
  generalize ((trim piece).dropWhile isTokenChar).takeWhile isBlank = middle
    at hparts hmiddle
  generalize ((trim piece).dropWhile isTokenChar).dropWhile isBlank = after
    at hparts hparse
  have hfrontEquals : '=' ∉ front ++ name ++ middle := by
    simp only [mem_append, not_or]
    exact ⟨⟨fun h => ne_equals_of_isBlank (hfront _ h) rfl,
      fun h => ne_equals_of_isTokenChar (hname _ h) rfl⟩,
      fun h => ne_equals_of_isBlank (hmiddle _ h) rfl⟩
  rw [if_neg (by rintro rfl; simp at hparse)] at hparse
  rw [hparts] at hpiece hlast
  split at hparse
  · -- A name alone.
    obtain rfl := some.inj hparse
    refine .inl ⟨rfl, ?_⟩
    apply splitOnce_eq_none
    rw [hpiece, append_nil, ← append_assoc, mem_append, not_or]
    exact ⟨hfrontEquals, fun h => ne_equals_of_isBlank (hback _ h) rfl⟩
  · -- A name and a value.
    next rest =>
    have hsplit : splitOnce '=' piece = some (front ++ name ++ middle, rest ++ back) := by
      rw [hpiece, ← splitOnce_append hfrontEquals]
      simp
    have hvalue : ∀ c ∈ (rest.dropWhile isBlank).getLast?, ¬ isBlank c := by
      intro c hc
      apply hlast
      obtain ⟨init, hinit⟩ := getLast?_eq_some_iff.mp hc
      have hrest := takeWhile_append_dropWhile (p := isBlank) (l := rest)
      rw [hinit] at hrest
      apply getLast?_eq_some_iff.mpr
      refine ⟨name ++ middle ++ '=' :: (rest.takeWhile isBlank ++ init), ?_⟩
      calc name ++ middle ++ '=' :: rest
          = name ++ middle ++ '=' :: (rest.takeWhile isBlank ++ (init ++ [c])) := by rw [hrest]
        _ = name ++ middle ++ '=' :: (rest.takeWhile isBlank ++ init) ++ [c] := by
            simp only [append_assoc, cons_append]
    have hwritten : trim (rest ++ back) = rest.dropWhile isBlank :=
      trim_value hback hvalue
    have htoken : lower (trim (front ++ name ++ middle)) = lower name := by
      rw [trim_token hfront hname hmiddle]
    refine .inr ⟨front ++ name ++ middle, rest ++ back, ?_⟩
    split at hparse
    · next quoted hquoted =>
      obtain ⟨content, hcontent, rfl⟩ := map_eq_some_iff.mp hparse
      exact ⟨content, rfl, hsplit, htoken, .inr ⟨quoted, by rw [hwritten, hquoted], hcontent⟩⟩
    · split at hparse
      · obtain rfl := some.inj hparse
        exact ⟨_, rfl, hsplit, htoken, .inl hwritten⟩
      · cases hparse
  · cases hparse

theorem maxAgeValue?_of_blank (hblank : trim piece = []) : maxAgeValue? piece = none := by
  have hall : ∀ c ∈ piece, isBlank c := by
    obtain ⟨front, back, hpiece, hfront, hback⟩ := exists_trimMatches isBlank piece
    change piece = front ++ trim piece ++ back at hpiece
    rw [hblank, append_nil] at hpiece
    intro c hc
    rw [hpiece, mem_append] at hc
    exact hc.elim (hfront c) (hback c)
  rw [maxAgeValue?, splitOnce_eq_none fun h => ne_equals_of_isBlank (hall _ h) rfl]

/-- A quoted string without escapes is its content and the closing quote. -/
theorem eq_of_unquote {quoted content : Text} (hescape : '\\' ∉ quoted)
    (hunquote : unquote quoted = some content) : quoted = content ++ ['"'] := by
  induction quoted generalizing content with
  | nil => simp [unquote] at hunquote
  | cons c rest ih =>
    rw [mem_cons, not_or] at hescape
    by_cases hquote : c = '"'
    · subst hquote
      by_cases hend : rest = []
      · simp [unquote, hend] at hunquote
        simp [hend, hunquote]
      · simp [unquote, hend] at hunquote
    · rw [unquote] at hunquote
      · split at hunquote
        · obtain ⟨more, hmore, rfl⟩ := map_eq_some_iff.mp hunquote
          rw [ih hescape.2 hmore]
          rfl
        · cases hunquote
      · exact hquote
      · exact fun _ _ h _ => hescape.1 h.symm

/-- The number behind `max-age`, as the code reads it. -/
theorem parseU64_written {digits written : Text} (hwritten : Written digits written)
    (hescape : '\\' ∉ written) (hne : digits ≠ []) (hdigits : digits.all Char.isDigit)
    (hbound : decimal digits < 2 ^ 64) :
    parseU64 (trimMatches (· == '"') written) = some (decimal digits) := by
  have hall : ∀ c ∈ digits, c.isDigit := all_eq_true.mp hdigits
  have hquote : ∀ c ∈ digits, ¬ (c == '"') = true := by
    intro c hc hquote
    obtain rfl := beq_iff_eq.mp hquote
    exact absurd (hall _ hc) (by decide)
  have htrim : trimMatches (· == '"') written = digits := by
    have hends : ∀ front back : Text, (∀ c ∈ front, (c == '"') = true) →
        (∀ c ∈ back, (c == '"') = true) →
        trimMatches (· == '"') (front ++ digits ++ back) = digits :=
      fun front back hfront hback => trimMatches_append hfront hback
        (fun c hc => hquote c (mem_of_mem_head? hc))
        (fun c hc => hquote c (mem_of_getLast? hc))
    rcases hwritten with rfl | ⟨quoted, rfl, hunquote⟩
    · simpa using hends [] [] (by simp) (by simp)
    · rw [mem_cons, not_or] at hescape
      rw [eq_of_unquote hescape.2 hunquote]
      simpa using hends ['"'] ['"'] (by simp) (by simp)
  have hsign : ∀ rest, digits ≠ '+' :: rest := by
    rintro rest rfl
    exact absurd (hall '+' mem_cons_self) (by decide)
  rw [htrim, parseU64, if_pos ⟨hne, hdigits, hbound⟩]
  exact hsign

/-- A directive of another name is passed over. -/
theorem maxAgeValue?_of_ne
    (hparse : parseDirective piece = some directive) (hname : directive.name ≠ "max-age".toList) :
    maxAgeValue? piece = none := by
  rcases parseDirective_split hparse with ⟨-, hsplit⟩ | ⟨name, written, value, -, hsplit, hlower, -⟩
  · rw [maxAgeValue?, hsplit]
  · have hne : ¬ equalsIgnoreCase (trim name) "max-age".toList = true := by
      intro hequal
      apply hname
      rw [← hlower, beq_iff_eq.mp hequal]
      decide
    rw [maxAgeValue?, hsplit]
    exact if_neg hne

/-- The first directive named `max-age` is the one whose value the code takes. -/
theorem findSome?_maxAge {pieces : List Text} {directives : List Directive} {maxAge : Directive}
    (hparse : (pieces.filter fun piece => trim piece ≠ []).mapM parseDirective =
      some directives) (hfind : directives.find? (·.name = "max-age".toList) = some maxAge)
    (hvalue : maxAge.value = some value) :
    ∃ piece ∈ pieces, ∃ name written, splitOnce '=' piece = some (name, written) ∧
      pieces.findSome? maxAgeValue? = some written ∧ Written value (trim written) := by
  induction pieces generalizing directives with
  | nil =>
    obtain rfl := some.inj hparse
    cases hfind
  | cons piece rest ih =>
    by_cases hblank : trim piece = []
    · rw [filter_cons_of_neg (by simp [hblank])] at hparse
      obtain ⟨found, hmem, name, written, hsplit, hsome, hwritten⟩ := ih hparse hfind
      refine ⟨found, mem_cons_of_mem _ hmem, name, written, hsplit, ?_, hwritten⟩
      rw [findSome?_cons, maxAgeValue?_of_blank hblank]
      exact hsome
    · rw [filter_cons_of_pos (by simp [hblank]), mapM_cons] at hparse
      obtain ⟨directive, hdirective, hparse⟩ := bind_eq_some_iff.mp hparse
      obtain ⟨later, hlater, hparse⟩ := bind_eq_some_iff.mp hparse
      obtain rfl := some.inj hparse
      by_cases hname : directive.name = "max-age".toList
      · rw [find?_cons_of_pos (by rw [decide_eq_true_eq]; exact hname)] at hfind
        obtain rfl := some.inj hfind
        -- The directive hands over its value as it is written.
        rcases parseDirective_split hdirective with
          ⟨hnone, -⟩ | ⟨name, written, found, hfound, hsplit, hlower, hwritten⟩
        · exact absurd (hnone.symm.trans hvalue) (by simp)
        · obtain rfl := some.inj (hfound.symm.trans hvalue)
          have hequal : equalsIgnoreCase (trim name) "max-age".toList = true := by
            rw [equalsIgnoreCase, hlower, hname]
            decide
          refine ⟨piece, mem_cons_self, name, written, hsplit, ?_, hwritten⟩
          rw [findSome?_cons, maxAgeValue?, hsplit]
          simp only [if_pos hequal]
      · rw [find?_cons_of_neg (by rw [decide_eq_true_eq]; exact hname)] at hfind
        obtain ⟨found, hmem, name, written, hsplit, hsome, hwritten⟩ := ih hlater hfind
        refine ⟨found, mem_cons_of_mem _ hmem, name, written, hsplit, ?_, hwritten⟩
        rw [findSome?_cons, maxAgeValue?_of_ne hdirective hname]
        exact hsome

/-- A header that the code takes apart at the right places: no semicolon stands in a quoted string
and nothing is escaped. -/
def Plain (header : Text) : Prop :=
  splitDirectives false false header = header.splitOn ';' ∧ '\\' ∉ header

instance (header : Text) : Decidable (Plain header) := inferInstanceAs (Decidable (_ ∧ _))

/-- A well-formed header has a directive `max-age`, and its digits are the seconds asserted. -/
theorem exists_maxAge_of_parse (hparse : parse header = some assertion) :
    ∃ directives maxAge digits, parseDirectives header = some directives ∧
      directives.find? (·.name = "max-age".toList) = some maxAge ∧
      maxAge.value = some digits ∧ digits ≠ [] ∧ digits.all Char.isDigit ∧
      assertion.maxAge = decimal digits := by
  rw [parse] at hparse
  split at hparse
  · cases hparse
  next directives hdirectives =>
  split at hparse
  swap
  · cases hparse
  split at hparse
  · cases hparse
  next maxAge hfind =>
  have hseconds : maxAge.deltaSeconds? = some assertion.maxAge := by
    split at hparse
    · next hseconds _ =>
      rw [hseconds, ← some.inj hparse]
    · next hseconds _ =>
      rw [hseconds, ← some.inj hparse]
    · cases hparse
  rw [Directive.deltaSeconds?] at hseconds
  split at hseconds
  · next digits hvalue =>
    split at hseconds
    · next hdigits =>
      exact ⟨directives, maxAge, digits, hdirectives, hfind, hvalue, hdigits.1, hdigits.2,
        (some.inj hseconds).symm⟩
    · cases hseconds
  · cases hseconds

/-- On a plain, well-formed header whose seconds fit 64 bits, the code reads what it asserts. -/
theorem parseMaxAge_of_parse (hparse : parse header = some assertion) (hplain : Plain header)
    (hbound : assertion.maxAge < 2 ^ 64) : parseMaxAge header = some assertion.maxAge := by
  obtain ⟨directives, maxAge, digits, hdirectives, hfind, hvalue, hne, hdigits, hage⟩ :=
    exists_maxAge_of_parse hparse
  rw [parseDirectives, hplain.1] at hdirectives
  obtain ⟨piece, hpiece, name, written, hsplit, hsome, hwritten⟩ :=
    findSome?_maxAge hdirectives hfind hvalue
  have hescape : '\\' ∉ trim written := by
    intro hmem
    apply hplain.2
    apply mem_of_mem_splitOn hpiece
    exact mem_of_splitOnce hsplit (mem_of_mem_trimMatches hmem)
  rw [parseMaxAge, hsome, hage]
  exact parseU64_written hwritten hescape hne hdigits (hage ▸ hbound)

/-- A header value that the code reads as it is meant: a plain, well-formed header, or one that is
not well-formed and from which the code reads nothing. -/
def Clear (value : Bytes) : Prop :=
  (∀ assertion ∈ parse (headerChars value),
    (headerToStr value).isSome ∧ Plain (headerChars value) ∧ assertion.maxAge < 2 ^ 64) ∧
  (parse (headerChars value) = none → (headerToStr value).bind parseMaxAge = none)

instance (value : Bytes) : Decidable (Clear value) := inferInstanceAs (Decidable (_ ∧ _))

theorem parseMaxAge_of_clear {value : Bytes} (hclear : Clear value) :
    (headerToStr value).bind parseMaxAge = (parse (headerChars value)).map Assertion.maxAge := by
  cases hparse : parse (headerChars value) with
  | none => exact hclear.2 hparse
  | some assertion =>
    obtain ⟨hvisible, hplain, hbound⟩ := hclear.1 assertion hparse
    have htext : headerToStr value = some (headerChars value) := by
      rw [headerToStr] at hvisible ⊢
      split at hvisible
      next hall => exact if_pos hall
      · cases hvisible
    rw [htext]
    exact parseMaxAge_of_parse hparse hplain hbound

/-! ## The rule for upgrades -/

/-- What a response received over `https` asserts for a domain. -/
def assertionFor (domain : Text) (response : StsResponse) : Option Assertion :=
  if response.scheme = .https ∧ normalizeHost response.host = domain then
    response.stsHeader.bind fun value => parse (headerChars value)
  else none

/-- The latest well-formed header for the domain asserts a positive number of seconds, for
subdomains also `includeSubDomains`; a seeded domain without such a header counts. -/
def Asserted (seeds : List Text) (responses : List StsResponse) (domain : Text)
    (subdomains : Bool) : Prop :=
  match (responses.filterMap (assertionFor domain)).getLast? with
  | some assertion => 0 < assertion.maxAge ∧ (subdomains → assertion.includeSubDomains)
  | none => domain ∈ seeds.map normalizeHost

/-- The host is to be upgraded after the responses, by the rules of RFC 6797. -/
def MustUpgrade (seeds : List Text) (responses : List StsResponse) (host : Text) : Prop :=
  Asserted seeds responses (normalizeHost host) false ∨
    ∃ domain, (∃ front, normalizeHost host = front ++ '.' :: domain) ∧
      Asserted seeds responses domain true

end Rfc6797

namespace DynamicHsts

theorem mem_withSeed (seeds : List Text) (domain : Text) :
    domain ∈ (withSeed seeds).hosts ↔ domain ∈ seeds.map normalizeHost := by
  rw [withSeed, List.mem_toFinset]

/-- What a response says about the domain is clear. What it says over plain `http` is left out. -/
def ClearFor (response : StsResponse) : Prop :=
  ∀ value ∈ response.stsHeader, (response.scheme = .https → Rfc6797.Clear value) ∧
    (response.scheme = .http → (headerToStr value).bind parseMaxAge = none)

instance (response : StsResponse) : Decidable (ClearFor response) :=
  inferInstanceAs (Decidable (∀ value ∈ response.stsHeader, _))

/-- The code reads of a clear response what RFC 6797 reads of it. -/
theorem readFor_of_clearFor {response : StsResponse} {domain : Text}
    (hclear : normalizeHost response.host = domain → ClearFor response) :
    response.readFor domain =
      (Rfc6797.assertionFor domain response).map Rfc6797.Assertion.maxAge := by
  by_cases hdomain : normalizeHost response.host = domain
  · have hvalue := hclear hdomain
    rw [StsResponse.readFor, if_pos hdomain, StsResponse.stsText, Rfc6797.assertionFor]
    cases hheader : response.stsHeader with
    | none => simp
    | some value =>
      have hread := hvalue value hheader
      cases hscheme : response.scheme with
      | https =>
        rw [if_pos ⟨rfl, hdomain⟩]
        exact Rfc6797.parseMaxAge_of_clear (hread.1 hscheme)
      | http =>
        rw [if_neg (by simp)]
        exact hread.2 hscheme
  · rw [StsResponse.readFor, if_neg hdomain, Rfc6797.assertionFor,
      if_neg fun hboth => hdomain hboth.2, map_none]

theorem heldAfter_iff_asserted {domain : Text} {seeds : List Text} {responses : List StsResponse}
    (hclear : ∀ response ∈ responses, normalizeHost response.host = domain → ClearFor response) :
    heldAfter domain (domain ∈ seeds.map normalizeHost) responses ↔
      Rfc6797.Asserted seeds responses domain false := by
  have hread : responses.filterMap (StsResponse.readFor domain) =
      (responses.filterMap (Rfc6797.assertionFor domain)).map Rfc6797.Assertion.maxAge := by
    rw [map_filterMap]
    exact filterMap_congr fun response hresponse =>
      readFor_of_clearFor (hclear response hresponse)
  rw [heldAfter, hread, getLast?_map, Rfc6797.Asserted]
  cases (responses.filterMap (Rfc6797.assertionFor domain)).getLast? with
  | none => rfl
  | some assertion => simp

/-- The store upgrades exactly the hosts under a domain whose latest well-formed
`Strict-Transport-Security` header over `https` has a positive `max-age`, or that was seeded and has
sent none since. The directive `includeSubDomains` plays no part. -/
theorem shouldUpgrade_learnAll_iff (seeds : List Text) (responses : List StsResponse) (host : Text)
    (hclear : ∀ response ∈ responses, Covers (normalizeHost response.host) (normalizeHost host) →
      ClearFor response) :
    ((withSeed seeds).learnAll responses).shouldUpgrade host = true ↔
      ∃ domain, Covers domain (normalizeHost host) ∧
        Rfc6797.Asserted seeds responses domain false := by
  rw [shouldUpgrade_iff]
  apply exists_congr
  intro domain
  apply and_congr_right
  intro hcovers
  rw [mem_learnAll, mem_withSeed]
  apply heldAfter_iff_asserted
  intro response hresponse hdomain
  exact hclear response hresponse (hdomain ▸ hcovers)

/-- Two headers of one host, the second of which takes the first back. -/
def takenBack : List StsResponse :=
  [⟨.https, "a.com".toList, some (utf8 "max-age=31536000; includeSubDomains")⟩,
    ⟨.https, "A.com.".toList, some (utf8 "preload; MAX-AGE = \"0\"")⟩]

theorem shouldUpgrade_takenBack :
    ((withSeed ["b.org".toList]).learnAll takenBack).shouldUpgrade "x.b.org".toList = true ∧
    ((withSeed ["b.org".toList]).learnAll takenBack).shouldUpgrade "a.com".toList = false ∧
    ((((withSeed ["b.org".toList]).learnAll takenBack).shouldUpgrade "a.com".toList = true) ↔
      ∃ domain, Covers domain (normalizeHost "a.com".toList) ∧
        Rfc6797.Asserted ["b.org".toList] takenBack domain false) := by
  have hclear : ∀ response ∈ takenBack, ClearFor response := by decide +kernel
  refine ⟨by decide +kernel, by decide +kernel, ?_⟩
  exact shouldUpgrade_learnAll_iff ["b.org".toList] takenBack "a.com".toList
    fun response hresponse _ => hclear response hresponse

/-- A header without `includeSubDomains` upgrades the subdomains all the same. -/
theorem shouldUpgrade_without_includeSubDomains : let responses : List StsResponse :=
      [⟨.https, "example.com".toList, some (utf8 "max-age=31536000")⟩]
    ((withSeed []).learnAll responses).shouldUpgrade "api.example.com".toList = true ∧
      ¬ Rfc6797.MustUpgrade [] responses "api.example.com".toList := by
  refine ⟨by decide +kernel, ?_⟩
  have hother : ∀ domain subdomains, domain ≠ "example.com".toList →
      ¬ Rfc6797.Asserted [] [⟨.https, "example.com".toList, some (utf8 "max-age=31536000")⟩]
        domain subdomains := by
    intro domain subdomains hdomain hasserted
    have hhost : ¬ normalizeHost "example.com".toList = domain := by
      rw [show normalizeHost "example.com".toList = "example.com".toList by decide +kernel]
      exact Ne.symm hdomain
    have hnone : Rfc6797.assertionFor domain
        ⟨.https, "example.com".toList, some (utf8 "max-age=31536000")⟩ = none :=
      if_neg fun h => hhost h.2
    rw [Rfc6797.Asserted, filterMap_cons, hnone] at hasserted
    exact not_mem_nil hasserted
  rintro (hself | ⟨domain, -, hsuper⟩)
  · exact hother _ _ (by decide +kernel) hself
  · by_cases hdomain : domain = "example.com".toList
    · subst hdomain
      have hread : [StsResponse.mk .https "example.com".toList
          (some (utf8 "max-age=31536000"))].filterMap
            (Rfc6797.assertionFor "example.com".toList) = [⟨31536000, false⟩] := by decide +kernel
      rw [Rfc6797.Asserted, hread] at hsuper
      exact absurd (hsuper.2 rfl) (by decide)
    · exact hother _ _ hdomain hsuper

end DynamicHsts

end LkRequest.Client
