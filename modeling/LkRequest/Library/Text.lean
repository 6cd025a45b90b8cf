import LkRequest.Library.Bytes
import Mathlib.Data.List.Infix
import Mathlib.Data.List.DropRight

/-!
# Texts

A text is a list of characters. The operations are those of a Rust `str` that the client uses on
names and header values: ASCII lower case, trimming, splitting at a character, and the test for a
substring. A substring that does not hold a separator lies on one side of it.
-/

namespace LkRequest.Library

open List Option

abbrev Text := List Char

namespace Text

/-! ## Operations -/

/-- `to_ascii_lowercase`. -/
def lower (text : Text) : Text := text.map Char.toLower

/-- `eq_ignore_ascii_case`. -/
def equalsIgnoreCase (left right : Text) : Bool := lower left == lower right

/-- `trim_matches` of the characters that satisfy a predicate. -/
def trimMatches (p : Char → Bool) (text : Text) : Text := (text.dropWhile p).rdropWhile p

/-- The white space of ASCII. -/
def isBlank (c : Char) : Bool := c == ' ' || c == '\t' || c == '\n' || c == '\r'

/-- `trim`, on a text of ASCII characters. -/
def trim (text : Text) : Text := trimMatches isBlank text

/-- `split_once` at a character. -/
def splitOnce (separator : Char) : Text → Option (Text × Text)
  | [] => none
  | c :: rest =>
    if c = separator then some ([], rest)
    else (splitOnce separator rest).map fun parts => (c :: parts.1, parts.2)

/-- `strip_suffix`. -/
def stripSuffix? (text ending : Text) : Option Text :=
  if ending <:+ text then some (text.take (text.length - ending.length)) else none

/-- `contains` of a text. -/
def contains (text needle : Text) : Bool := decide (needle <:+: text)

/-- The value of a list of decimal digits. -/
def decimal (digits : Text) : Nat :=
  digits.foldl (fun value digit => value * 10 + (digit.toNat - 48)) 0

/-- The `Display` of a number. -/
def ofNat (n : Nat) : Text := Nat.toDigits 10 n

/-- `str::parse::<u64>`: an optional plus sign, then decimal digits of a value below `2^64`. -/
def parseU64 (text : Text) : Option Nat :=
  let digits := match text with
    | '+' :: rest => rest
    | other => other
  if digits ≠ [] ∧ digits.all Char.isDigit ∧ decimal digits < 2 ^ 64 then some (decimal digits)
  else none

/-! ## Decoding -/

/-- The length of a UTF-8 sequence by its first byte; zero for a byte that starts none. -/
def utf8Width (first : UInt8) : Nat :=
  if first < 0x80 then 1
  else if 0xc2 ≤ first ∧ first ≤ 0xdf then 2
  else if 0xe0 ≤ first ∧ first ≤ 0xef then 3
  else if 0xf0 ≤ first ∧ first ≤ 0xf4 then 4
  else 0

def isContinuation (byte : UInt8) : Bool := 0x80 ≤ byte && byte ≤ 0xbf

/-- The second bytes that may follow a first byte of a longer sequence. -/
def isSecond (first second : UInt8) : Bool :=
  if first = 0xe0 then 0xa0 ≤ second && second ≤ 0xbf
  else if first = 0xed then 0x80 ≤ second && second ≤ 0x9f
  else if first = 0xf0 then 0x90 ≤ second && second ≤ 0xbf
  else if first = 0xf4 then 0x80 ≤ second && second ≤ 0x8f
  else isContinuation second

/-- The character with the low bits of continuation bytes appended to a leading part. -/
def ofUtf8 (leading : Nat) (continuation : Bytes) : Char :=
  Char.ofNat (continuation.foldl (fun value byte => value * 64 + byte.toNat % 64) leading)

/-- The replacement character. -/
def replacement : Char := Char.ofNat 0xfffd

/-- `String::from_utf8_lossy`: every maximal part of an invalid sequence is replaced. -/
def fromUtf8Lossy : Bytes → Text
  | [] => []
  | first :: rest =>
    match utf8Width first with
    | 1 => ofUtf8 first.toNat [] :: fromUtf8Lossy rest
    | 2 =>
      match rest with
      | second :: rest2 =>
        if isContinuation second then
          ofUtf8 (first.toNat % 32) [second] :: fromUtf8Lossy rest2
        else replacement :: fromUtf8Lossy (second :: rest2)
      | [] => [replacement]
    | 3 =>
      match rest with
      | second :: rest2 =>
        if isSecond first second then
          match rest2 with
          | third :: rest3 =>
            if isContinuation third then
              ofUtf8 (first.toNat % 16) [second, third] :: fromUtf8Lossy rest3
            else replacement :: fromUtf8Lossy (third :: rest3)
          | [] => [replacement]
        else replacement :: fromUtf8Lossy (second :: rest2)
      | [] => [replacement]
    | 4 =>
      match rest with
      | second :: rest2 =>
        if isSecond first second then
          match rest2 with
          | third :: rest3 =>
            if isContinuation third then
              match rest3 with
              | fourth :: rest4 =>
                if isContinuation fourth then
                  ofUtf8 (first.toNat % 8) [second, third, fourth] :: fromUtf8Lossy rest4
                else replacement :: fromUtf8Lossy (fourth :: rest4)
              | [] => [replacement]
            else replacement :: fromUtf8Lossy (third :: rest3)
          | [] => [replacement]
        else replacement :: fromUtf8Lossy (second :: rest2)
      | [] => [replacement]
    | _ => replacement :: fromUtf8Lossy rest

/-! ## Substrings and separators -/

variable {c : Char}

theorem isDigit_of_mem_ofNat {n : Nat} (hc : c ∈ ofNat n) : c.isDigit :=
  Nat.isDigit_of_mem_toDigits (by decide) (by decide) hc

variable {left text : Text} {separator : Char}

variable {right : Text}

theorem infix_append_cons_iff {needle : Text} (hseparator : separator ∉ needle) :
    needle <:+: left ++ separator :: right ↔ needle <:+: left ∨ needle <:+: right := by
  constructor
  · rintro ⟨front, back, hsplit⟩
    rw [append_assoc] at hsplit
    rcases append_eq_append_iff.mp hsplit with ⟨middle, hfront, hrest⟩ | ⟨middle, hfront, hrest⟩
    · -- The needle starts on the left: it ends there, since it does not hold the separator.
      rcases append_eq_append_iff.mp hrest with
        ⟨tail, hmiddle, -⟩ | ⟨tail, hneedle, htail⟩
      · exact .inl ⟨front, tail, by rw [hfront, hmiddle, append_assoc]⟩
      · cases tail with
        | nil => exact .inl ⟨front, [], by rw [hfront, hneedle]; simp⟩
        | cons c more =>
          obtain ⟨rfl, -⟩ := cons.inj htail
          exact absurd (by rw [hneedle]; simp) hseparator
    · cases middle with
      | nil =>
        cases needle with
        | nil => exact .inl nil_infix
        | cons c more =>
          obtain ⟨rfl, -⟩ := cons.inj hrest.symm
          exact absurd mem_cons_self hseparator
      | cons c more =>
        obtain ⟨-, rfl⟩ := cons.inj hrest
        exact .inr ⟨more, back, append_assoc more needle back⟩
  · rintro (hleft | hright)
    · exact infix_append_of_infix_left hleft
    · exact infix_append_of_infix_right (infix_cons hright)

/-! ## Splitting -/

theorem splitOnce_append (hleft : separator ∉ left)
    (right : Text) : splitOnce separator (left ++ separator :: right) = some (left, right) := by
  induction left with
  | nil => simp [splitOnce]
  | cons c rest ih =>
    rw [mem_cons, not_or] at hleft
    simp [splitOnce, Ne.symm hleft.1, ih hleft.2]

theorem splitOnce_eq_none (htext : separator ∉ text) : splitOnce separator text = none := by
  induction text with
  | nil => rfl
  | cons c rest ih =>
    rw [mem_cons, not_or] at htext
    simp [splitOnce, Ne.symm htext.1, ih htext.2]

theorem mem_of_splitOnce (hsplit : splitOnce separator text = some (left, right)) (hc : c ∈ right) :
    c ∈ text := by
  induction text generalizing left with
  | nil => simp [splitOnce] at hsplit
  | cons d rest ih =>
    by_cases hd : d = separator
    · simp [splitOnce, hd] at hsplit
      rw [hsplit.2]
      exact mem_cons_of_mem d hc
    · rw [splitOnce, if_neg hd] at hsplit
      obtain ⟨⟨front, back⟩, hparts, heq⟩ := map_eq_some_iff.mp hsplit
      obtain ⟨-, rfl⟩ := Prod.mk.inj heq
      exact mem_cons_of_mem d (ih hparts)

theorem mem_of_mem_splitOn {piece : Text} (hpiece : piece ∈ text.splitOn separator)
    (hc : c ∈ piece) :
    c ∈ text := by
  induction text generalizing piece with
  | nil =>
    obtain rfl : piece = [] := by simpa using hpiece
    cases hc
  | cons d rest ih =>
    rw [splitOn_cons_eq_if_modifyHead] at hpiece
    split at hpiece
    · rcases mem_cons.mp hpiece with rfl | hrest
      · cases hc
      · exact mem_cons_of_mem d (ih hrest hc)
    · cases hparts : rest.splitOn separator with
      | nil => simp [hparts] at hpiece
      | cons head more =>
        rw [hparts, modifyHead_cons, mem_cons] at hpiece
        rcases hpiece with rfl | hmore
        · rcases mem_cons.mp hc with rfl | hhead
          · exact mem_cons_self
          · exact mem_cons_of_mem d (ih (by rw [hparts]; exact mem_cons_self) hhead)
        · exact mem_cons_of_mem d
            (ih (by rw [hparts]; exact mem_cons_of_mem _ hmore) hc)

/-! ## Trimming -/

section Trimming

variable {p : Char → Bool} {text back : Text}

/-- A trimmed text stands between two parts that were trimmed away. -/
theorem exists_trimMatches (p : Char → Bool) (text : Text) :
    ∃ front back, text = front ++ trimMatches p text ++ back ∧
      (∀ c ∈ front, p c) ∧ ∀ c ∈ back, p c := by
  refine ⟨text.takeWhile p, (text.dropWhile p).rtakeWhile p, ?_, ?_, ?_⟩
  · rw [append_assoc, trimMatches, rdropWhile_append_rtakeWhile, takeWhile_append_dropWhile]
  · exact fun _ => mem_takeWhile_imp
  · exact fun _ => mem_rtakeWhile_imp

theorem mem_of_mem_trimMatches (hc : c ∈ trimMatches p text) : c ∈ text := by
  obtain ⟨front, back, htext, -, -⟩ := exists_trimMatches p text
  rw [htext]
  simp [hc]

theorem rdropWhile_append_of_all (hback : ∀ c ∈ back, p c) :
    (text ++ back).rdropWhile p = text.rdropWhile p := by
  rw [rdropWhile, rdropWhile, reverse_append, dropWhile_append_of_pos (by simpa using hback)]

/-- A text whose ends are not trimmed comes back from between two trimmed parts. -/
theorem trimMatches_append {front core : Text} (hfront : ∀ c ∈ front, p c)
    (hback : ∀ c ∈ back, p c) (hhead : ∀ c ∈ core.head?, ¬ p c)
    (hlast : ∀ c ∈ core.getLast?, ¬ p c) : trimMatches p (front ++ core ++ back) = core := by
  rw [trimMatches, append_assoc, dropWhile_append_of_pos hfront]
  cases core with
  | nil =>
    have hempty : (([] : Text) ++ back).dropWhile p = [] :=
      dropWhile_eq_nil_iff.mpr (by simpa using hback)
    rw [hempty, rdropWhile_nil]
  | cons c rest =>
    have hc : p c = false := by simpa using hhead c (by simp)
    rw [cons_append, dropWhile_cons, if_neg (by simp [hc]), ← cons_append,
      rdropWhile_append_of_all hback]
    apply rdropWhile_eq_self_iff.mpr
    intro hne
    exact hlast _ (getLast?_eq_some_getLast hne)

theorem not_getLast_trimMatches (hlast : c ∈ (trimMatches p text).getLast?) : ¬ p c := by
  have hne : trimMatches p text ≠ [] := by
    intro hnil
    simp [hnil] at hlast
  have hnot := rdropWhile_last_not p (text.dropWhile p) hne
  rw [mem_def, getLast?_eq_some_getLast hne] at hlast
  rw [← some.inj hlast]
  exact hnot

end Trimming

end Text

end LkRequest.Library
