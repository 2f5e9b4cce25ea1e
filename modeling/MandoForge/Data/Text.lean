/-
Module: MandoForge.Data.Text
Purpose: The string operations of the source's standard library that decide how
  a key, a mode or a path is read.
Trusted boundary: `isWhitespace` lists the Unicode White_Space characters.
Main exports: trim, eqIgnoreAsciiCase
-/
import Mathlib.Data.List.Basic

namespace MandoForge

/-- `char::is_whitespace`: the Unicode White_Space property. -/
def isWhitespace (c : Char) : Bool :=
  let n := c.toNat
  (0x9 ≤ n && n ≤ 0xD) || n == 0x20 || n == 0x85 || n == 0xA0 || n == 0x1680 ||
    (0x2000 ≤ n && n ≤ 0x200A) || n == 0x2028 || n == 0x2029 || n == 0x202F ||
    n == 0x205F || n == 0x3000

/-- Drop a prefix and a suffix of whitespace. -/
def trimChars (chars : List Char) : List Char :=
  ((chars.dropWhile isWhitespace).reverse.dropWhile isWhitespace).reverse

/-- `str::trim`. -/
def trim (text : String) : String :=
  String.ofList (trimChars text.toList)

/-- `str::to_ascii_lowercase`. -/
def toAsciiLowercase (text : String) : String :=
  String.ofList (text.toList.map Char.toLower)

/-- `str::eq_ignore_ascii_case`. -/
def eqIgnoreAsciiCase (left right : String) : Bool :=
  decide (toAsciiLowercase left = toAsciiLowercase right)

/-- The pieces of a character list between separators; always at least one. -/
def splitChars (separator : Char) : List Char → List (List Char)
  | [] => [[]]
  | c :: rest =>
      if c = separator then
        [] :: splitChars separator rest
      else
        match splitChars separator rest with
        | [] => [[c]]
        | piece :: pieces => (c :: piece) :: pieces

/-- `str::split('.')`. -/
def splitOnDot (text : String) : List String :=
  (splitChars '.' text.toList).map String.ofList

/-- `map(str::trim).filter(|value| !value.is_empty())`, which the source writes
at every place where a blank string counts as missing. -/
def nonEmptyTrimmed (text : String) : Option String :=
  let trimmed := trim text
  if trimmed = "" then none else some trimmed

theorem dropWhile_isWhitespace_idem (chars : List Char) :
    (chars.dropWhile isWhitespace).dropWhile isWhitespace =
      chars.dropWhile isWhitespace := by
  induction chars with
  | nil => rfl
  | cons c rest inductionHypothesis =>
      cases space : isWhitespace c with
      | true => simpa [List.dropWhile_cons, space] using inductionHypothesis
      | false => simp [space]

/-- A prefix of a list that starts without whitespace starts without
whitespace. -/
theorem dropWhile_isWhitespace_of_prefix {front chars : List Char}
    (isPrefix : front <+: chars)
    (trimmed : chars.dropWhile isWhitespace = chars) :
    front.dropWhile isWhitespace = front := by
  obtain ⟨rest, rfl⟩ := isPrefix
  cases front with
  | nil => rfl
  | cons c front =>
      cases space : isWhitespace c with
      | false => simp [space]
      | true =>
          have shorter := (List.dropWhile_suffix isWhitespace (l := front ++ rest)).length_le
          simp only [List.cons_append, List.dropWhile_cons, space, if_true] at trimmed
          have := congrArg List.length trimmed
          simp only [List.length_cons] at this
          omega

theorem trimChars_idem (chars : List Char) :
    trimChars (trimChars chars) = trimChars chars := by
  have isPrefix : trimChars chars <+: chars.dropWhile isWhitespace := by
    have := (List.dropWhile_suffix isWhitespace
      (l := (chars.dropWhile isWhitespace).reverse)).reverse
    simpa [trimChars] using this
  have front := dropWhile_isWhitespace_of_prefix isPrefix
    (dropWhile_isWhitespace_idem chars)
  have back : (trimChars chars).reverse.dropWhile isWhitespace =
      (trimChars chars).reverse := by
    simp only [trimChars, List.reverse_reverse, dropWhile_isWhitespace_idem]
  rw [trimChars, front, back, List.reverse_reverse]

theorem trim_idem (text : String) : trim (trim text) = trim text := by
  simp [trim, trimChars_idem]

theorem nonEmptyTrimmed_of_eq_some {raw text : String}
    (found : nonEmptyTrimmed raw = some text) : nonEmptyTrimmed text = some text := by
  simp only [nonEmptyTrimmed] at found ⊢
  split at found
  · cases found
  · rename_i nonEmpty
    cases found
    simp only [trim_idem]
    rw [if_neg nonEmpty]

theorem toLower_idem (c : Char) : c.toLower.toLower = c.toLower := by
  by_cases isUpper : c.val ≥ 'A'.val ∧ c.val ≤ 'Z'.val
  · have value : c.toLower.val = c.val + ('a'.val - 'A'.val) :=
      congrArg Char.val (dif_pos isUpper)
    have notUpper : ¬(c.toLower.val ≥ 'A'.val ∧ c.toLower.val ≤ 'Z'.val) := by
      rintro ⟨-, isBelow⟩
      obtain ⟨above, below⟩ := isUpper
      rw [value] at isBelow
      simp only [ge_iff_le, UInt32.le_iff_toNat_le, UInt32.toNat_add] at *
      simp at *
      omega
    exact dif_neg notUpper
  · have stays : c.toLower = c := dif_neg isUpper
    rw [stays, stays]

theorem toAsciiLowercase_idem (text : String) :
    toAsciiLowercase (toAsciiLowercase text) = toAsciiLowercase text := by
  have twice : Char.toLower ∘ Char.toLower = Char.toLower := funext toLower_idem
  rw [toAsciiLowercase, toAsciiLowercase, String.toList_ofList, List.map_map, twice]

/-- Case makes no character a space. -/
theorem isWhitespace_toLower (c : Char) : isWhitespace c.toLower = isWhitespace c := by
  by_cases isUpper : c.val ≥ 'A'.val ∧ c.val ≤ 'Z'.val
  · have value : c.toLower.val = c.val + ('a'.val - 'A'.val) :=
      congrArg Char.val (dif_pos isUpper)
    obtain ⟨above, below⟩ := isUpper
    have lower : c.toLower.toNat = c.toNat + 32 := by
      simp only [Char.toNat, value, ge_iff_le, UInt32.le_iff_toNat_le, UInt32.toNat_add] at *
      simp at *
      omega
    have inRange : 65 ≤ c.toNat ∧ c.toNat ≤ 90 := by
      simp only [Char.toNat, ge_iff_le, UInt32.le_iff_toNat_le] at *
      simp at *
      omega
    unfold isWhitespace
    rw [lower]
    grind
  · rw [show c.toLower = c from dif_neg isUpper]

theorem dropWhile_map_toLower (chars : List Char) :
    (chars.map Char.toLower).dropWhile isWhitespace =
      (chars.dropWhile isWhitespace).map Char.toLower := by
  induction chars with
  | nil => rfl
  | cons c rest inductionHypothesis =>
      rw [List.map_cons, List.dropWhile_cons, List.dropWhile_cons, isWhitespace_toLower]
      cases isWhitespace c with
      | true => exact inductionHypothesis
      | false => rfl

theorem toAsciiLowercase_trim (text : String) :
    toAsciiLowercase (trim text) = trim (toAsciiLowercase text) := by
  simp only [toAsciiLowercase, trim, trimChars, String.toList_ofList, dropWhile_map_toLower,
    ← List.map_reverse]
theorem eqIgnoreAsciiCase_symm {left right : String}
    (same : eqIgnoreAsciiCase left right = true) : eqIgnoreAsciiCase right left = true := by
  simpa [eqIgnoreAsciiCase, eq_comm] using same

theorem eqIgnoreAsciiCase_trans {left middle right : String}
    (first : eqIgnoreAsciiCase left middle = true) (second : eqIgnoreAsciiCase middle right = true) :
    eqIgnoreAsciiCase left right = true := by
  simp only [eqIgnoreAsciiCase, decide_eq_true_eq] at *
  exact first.trans second

end MandoForge
