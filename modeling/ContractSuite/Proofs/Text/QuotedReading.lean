import ContractSuite.Text.Digits
import ContractSuite.Text.Quoted
import Mathlib.Data.List.Basic
import Mathlib.Data.Nat.Init

namespace ContractSuite.Text

/-- Holds of the controls, line breaks among them. -/
def isControl (c : Char) : Bool :=
  c.toNat ≤ 0x1F || (0x7F ≤ c.toNat && c.toNat ≤ 0x9F)

/-- Holds of the separators of lines and of paragraphs, which are no controls. -/
def isLineSeparator (c : Char) : Bool :=
  c.toNat == 0x2028 || c.toNat == 0x2029

namespace Quoted

/-- What a character stands for behind a backslash, unless it announces a code point. -/
def escaped? : Char → Option Char
  | 't' => some '\t'
  | 'r' => some '\r'
  | 'n' => some '\n'
  | '"' => some '"'
  | '\\' => some '\\'
  | '0' => some '\x00'
  | _ => none

/-- Where in a quoted text a reader stands. -/
inductive Place
  | betweenCharacters
  | behindBackslash
  | beforeBrace
  /-- Inside the braces of a code point, behind digits that write this number. -/
  | inCodePoint (number : Nat)

/-- The text that is left to be read at a place, up to the closing quote at the very end. -/
def decodeFrom : Place → List Char → Option (List Char)
  | _, [] => none
  | .betweenCharacters, c :: rest =>
    if c = '"' then (if rest.isEmpty then some [] else none)
    else if c = '\\' then decodeFrom .behindBackslash rest
    else (decodeFrom .betweenCharacters rest).map (c :: ·)
  | .behindBackslash, c :: rest =>
    if c = 'u' then decodeFrom .beforeBrace rest
    else match escaped? c with
      | none => none
      | some meant => (decodeFrom .betweenCharacters rest).map (meant :: ·)
  | .beforeBrace, c :: rest => if c = '{' then decodeFrom (.inCodePoint 0) rest else none
  | .inCodePoint number, c :: rest =>
    if c = '}' then (decodeFrom .betweenCharacters rest).map (Char.ofNat number :: ·)
    else match hexDigit? c with
      | none => none
      | some digit => decodeFrom (.inCodePoint (number * 16 + digit)) rest

/-- The text that stands between double quotes. -/
def decode : List Char → Option (List Char)
  | '"' :: rest => decodeFrom .betweenCharacters rest
  | _ => none

theorem digitChar_ne_brace : ∀ d < 16, d.digitChar ≠ '}' := by
  decide

theorem decodeFrom_digit {d : Nat} (digit : d < 16) (number : Nat) (rest : List Char) :
    decodeFrom (.inCodePoint number) (d.digitChar :: rest) = decodeFrom (.inCodePoint (number * 16 + d)) rest := by
  rw [decodeFrom, if_neg (digitChar_ne_brace d digit), hexDigit?_digitChar d digit]

theorem decodeFrom_toDigits (n : Nat) (rest : List Char) :
    decodeFrom (.inCodePoint 0) (Nat.toDigits 16 n ++ rest) = decodeFrom (.inCodePoint n) rest := by
  induction n using Nat.strongRecOn generalizing rest with
  | ind n ih =>
    by_cases small : n < 16
    · rw [Nat.toDigits_of_lt_base small, List.singleton_append, decodeFrom_digit small, Nat.zero_mul, Nat.zero_add]
    · rw [Nat.toDigits_of_base_le (by decide) (by omega), List.append_assoc, ih (n / 16) (by omega),
        List.singleton_append, decodeFrom_digit (Nat.mod_lt n (by decide)), Nat.div_add_mod']

theorem decodeFrom_codePoint (c : Char) (rest : List Char) :
    decodeFrom .betweenCharacters (codePoint c ++ rest) = (decodeFrom .betweenCharacters rest).map (c :: ·) := by
  have braced : codePoint c ++ rest = '\\' :: 'u' :: '{' :: (Nat.toDigits 16 c.toNat ++ '}' :: rest) := by
    simp [codePoint]
  rw [braced, decodeFrom, if_neg (by decide), if_pos rfl, decodeFrom, if_pos rfl, decodeFrom, if_pos rfl,
    decodeFrom_toDigits, decodeFrom, if_pos rfl, Char.ofNat_toNat]

theorem decodeFrom_escape (c : Char) (rest : List Char) :
    decodeFrom .betweenCharacters (escape c ++ rest) = (decodeFrom .betweenCharacters rest).map (c :: ·) := by
  unfold escape
  split_ifs with tab carriageReturn lineFeed quote backslash nul hidden
  · rw [tab]; rfl
  · rw [carriageReturn]; rfl
  · rw [lineFeed]; rfl
  · rw [quote]; rfl
  · rw [backslash]; rfl
  · rw [nul]; rfl
  · exact decodeFrom_codePoint c rest
  · rw [List.singleton_append, decodeFrom, if_neg quote, if_neg backslash]

theorem decode_encode (s : List Char) : decode (encode s) = some s := by
  have inside (s : List Char) : decodeFrom .betweenCharacters (s.flatMap escape ++ ['"']) = some s := by
    induction s with
    | nil => rfl
    | cons c rest ih => rw [List.flatMap_cons, List.append_assoc, decodeFrom_escape, ih, Option.map_some]
  exact inside s

/-- A NUL does not run into a digit behind it, nor a backslash into what looks like a code point. -/
example : decode ['"', '\\', '0', '1', '\\', '\\', 'u', '"'] = some ['\x00', '1', '\\', 'u'] := by decide

end Quoted

theorem isUnprintable_of_mem {c : Char} {first last : Nat} (range : (first, last) ∈ unprintableRanges.toList)
    (lower : first ≤ c.toNat) (upper : c.toNat ≤ last) : isUnprintable c = true :=
  Array.any_eq_true'.mpr ⟨(first, last), Array.mem_def.mpr range, by simp [lower, upper]⟩

theorem isUnprintable_of_isControl {c : Char} (control : isControl c = true) : isUnprintable c = true := by
  simp only [isControl, Bool.or_eq_true, Bool.and_eq_true, decide_eq_true_iff] at control
  rcases control with low | ⟨lower, upper⟩
  · have range : (0x0, 0x1F) ∈ unprintableRanges.toList := by decide +kernel
    exact isUnprintable_of_mem range (Nat.zero_le _) low
  · have range : (0x7F, 0xA0) ∈ unprintableRanges.toList := by decide +kernel
    exact isUnprintable_of_mem range lower (by omega)

theorem isUnprintable_of_isLineSeparator {c : Char} (separator : isLineSeparator c = true) : isUnprintable c = true := by
  simp only [isLineSeparator, Bool.or_eq_true, beq_iff_eq] at separator
  have range : (0x2028, 0x202F) ∈ unprintableRanges.toList := by decide +kernel
  exact isUnprintable_of_mem range (by omega) (by omega)

theorem unprintableRanges_beside_ascii : ∀ range ∈ unprintableRanges.toList, range.2 < 0x20 ∨ 0x7F ≤ range.1 := by
  decide +kernel

theorem isUnprintable_of_ascii {c : Char} (lower : 0x20 ≤ c.toNat) (upper : c.toNat < 0x7F) :
    isUnprintable c = false := by
  refine Array.any_eq_false'.mpr fun range member => ?_
  have beside := unprintableRanges_beside_ascii range (Array.mem_def.mp member)
  simp only [Bool.and_eq_true, decide_eq_true_iff]
  omega

theorem isUnprintable_digitChar : ∀ d < 16, isUnprintable d.digitChar = false := by
  intro d digit
  have ascii : ∀ d < 16, 0x20 ≤ d.digitChar.toNat ∧ d.digitChar.toNat < 0x7F := by decide
  exact isUnprintable_of_ascii (ascii d digit).1 (ascii d digit).2

theorem isUnprintable_of_mem_toDigits {base : Nat} (two_le : 2 ≤ base) (le : base ≤ 16) {n : Nat} {c : Char}
    (member : c ∈ Nat.toDigits base n) : isUnprintable c = false := by
  induction n using Nat.strongRecOn with
  | ind n ih =>
    by_cases small : n < base
    · rw [Nat.toDigits_of_lt_base small, List.mem_singleton] at member
      rw [member]
      exact isUnprintable_digitChar n (by omega)
    · rw [Nat.toDigits_of_base_le two_le (by omega), List.mem_append, List.mem_singleton] at member
      rcases member with earlier | rfl
      · exact ih (n / base) (Nat.div_lt_self (by omega) two_le) earlier
      · exact isUnprintable_digitChar _ (by have := Nat.mod_lt n (by omega : 0 < base); omega)

namespace Quoted

theorem isUnprintable_of_mem_escape {c x : Char} (member : x ∈ escape c) : isUnprintable x = false := by
  -- All short escapes are printable ASCII.
  have short (named : Char) (lower : 0x20 ≤ named.toNat) (upper : named.toNat < 0x7F) (isShort : x ∈ ['\\', named]) :
      isUnprintable x = false := by
    simp only [List.mem_cons, List.not_mem_nil, or_false] at isShort
    rcases isShort with rfl | rfl
    · exact isUnprintable_of_ascii (by decide) (by decide)
    · exact isUnprintable_of_ascii lower upper
  unfold escape at member
  split_ifs at member with tab carriageReturn lineFeed quote backslash nul hidden
  · exact short 't' (by decide) (by decide) member
  · exact short 'r' (by decide) (by decide) member
  · exact short 'n' (by decide) (by decide) member
  · exact short '"' (by decide) (by decide) member
  · exact short '\\' (by decide) (by decide) member
  · exact short '0' (by decide) (by decide) member
  · simp only [codePoint, List.mem_cons, List.mem_append, List.not_mem_nil, or_false] at member
    rcases member with rfl | rfl | rfl | digit | rfl
    · exact isUnprintable_of_ascii (by decide) (by decide)
    · exact isUnprintable_of_ascii (by decide) (by decide)
    · exact isUnprintable_of_ascii (by decide) (by decide)
    · exact isUnprintable_of_mem_toDigits (by decide) (by decide) digit
    · exact isUnprintable_of_ascii (by decide) (by decide)
  · rw [List.mem_singleton.mp member]
    simpa using hidden

theorem isUnprintable_of_mem_encode {s : List Char} {x : Char} (member : x ∈ encode s) : isUnprintable x = false := by
  have quote : isUnprintable '"' = false := isUnprintable_of_ascii (by decide) (by decide)
  simp only [encode, List.mem_cons, List.mem_append, List.mem_flatMap, List.not_mem_nil, or_false] at member
  rcases member with rfl | ⟨c, -, escaped⟩ | rfl
  · exact quote
  · exact isUnprintable_of_mem_escape escaped
  · exact quote

end Quoted

end ContractSuite.Text
