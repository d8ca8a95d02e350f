import Mathlib.Data.List.Induction
import ContractSuite.Proofs.Domain.Refusal
import ContractSuite.Proofs.Text.Bytes
import ContractSuite.Url.Parser

namespace ContractSuite

namespace Text.Percent

theorem mem_decode {byte : UInt8} (sign : byte ≠ 0x25) (digit : hexValue? byte = none) {bytes : List UInt8}
    (inside : byte ∈ bytes) : byte ∈ decode bytes := by
  fun_induction decode bytes with
  | case1 | case2 | case3 => exact inside
  | case4 b c more high low highValue lowValue ih =>
    have notEscaped (x : UInt8) (v : Nat) (value : hexValue? x = some v) : byte ≠ x := by
      rintro rfl
      rw [digit] at value
      cases value
    simp only [List.mem_cons] at inside ⊢
    rcases inside with rfl | rfl | rfl | later
    · exact absurd rfl sign
    · exact absurd rfl (notEscaped _ _ lowValue)
    · exact absurd rfl (notEscaped _ _ highValue)
    · exact Or.inr (ih later)
  | case5 a b c more high low highValue lowValue other ih =>
    rcases List.mem_cons.mp inside with rfl | later
    · exact List.mem_cons_self
    · exact List.mem_cons_of_mem _ (ih later)
  | case6 a b c more other ih =>
    rcases List.mem_cons.mp inside with rfl | later
    · exact List.mem_cons_self
    · exact List.mem_cons_of_mem _ (ih later)

theorem encode_eq_nil {isEscaped : Char → Bool} {s : List Char} (empty : encode isEscaped s = []) : s = [] := by
  cases s with
  | nil => rfl
  | cons c rest =>
    unfold encode at empty
    rw [List.flatMap_cons, List.append_eq_nil_iff] at empty
    have nothing := empty.1
    split at nothing
    · rw [Utf8.encode_ofList, List.flatMap_singleton, List.flatMap_eq_nil_iff] at nothing
      obtain ⟨byte, inside⟩ := List.exists_mem_of_ne_nil _ (String.utf8EncodeChar_ne_nil (c := c))
      cases nothing byte inside
    · cases nothing

theorem mem_encode {isEscaped : Char → Bool} {c : Char} (visible : 0x20 ≤ c.toNat) (ascii : c.toNat < 0x7F)
    (plain : isEscaped c = false) {s : List Char} (inside : c ∈ s) : c ∈ encode isEscaped s := by
  refine List.mem_flatMap.mpr ⟨c, inside, ?_⟩
  rw [plain, Bool.or_false, if_neg (by simp; omega)]
  exact List.mem_singleton_self c

end Text.Percent

namespace Text

theorem digits?_append (base : Nat) (s : List Char) (c : Char) :
    digits? base (s ++ [c]) = (digits? base s).bind fun n =>
      (hexDigit? c).bind fun d => if d < base then some (n * base + d) else none := by
  unfold digits?
  rw [List.foldl_append]
  rfl

theorem digits?_of_not_digit {base : Nat} {s : List Char} {c : Char} (other : hexDigit? c = none)
    (inside : c ∈ s) : digits? base s = none := by
  induction s using List.reverseRecOn with
  | nil => cases inside
  | append_singleton front last ih =>
    rw [digits?_append]
    rcases List.mem_append.mp inside with earlier | same
    · rw [ih earlier]
      rfl
    · rw [← List.mem_singleton.mp same, other]
      cases digits? base front <;> rfl

/-- The number that decimal digits write is the one that they have been written for. -/
theorem digits?_toDigits (n : Nat) : digits? 10 (Nat.toDigits 10 n) = some n := by
  induction n using Nat.strongRecOn with
  | ind n ih =>
    by_cases small : n < 10
    · rw [Nat.toDigits_of_lt_base small, ← List.nil_append [n.digitChar], digits?_append]
      simp [digits?, hexDigit?_digitChar n (by omega), small]
    · have digit : n % 10 < 10 := Nat.mod_lt n (by decide)
      rw [Nat.toDigits_of_base_le (by decide) (by omega), digits?_append, ih (n / 10) (by omega)]
      simp only [Option.bind_some, hexDigit?_digitChar _ (Nat.lt_trans digit (by decide)), if_pos digit]
      congr 1
      omega

end Text

namespace Url

theorem readDomain_of_colon {s : List Char} (inside : ':' ∈ s) : readDomain s = .error .invalidDomain := by
  have byte : (0x3A : UInt8) ∈ Text.Utf8.encode (String.ofList s) := by
    rw [Text.Utf8.encode_ofList]
    exact List.mem_flatMap.mpr ⟨':', inside, List.mem_singleton_self _⟩
  have decoded : ':' ∈ (Text.Utf8.decodeLenient (Text.Percent.decode (Text.Utf8.encode (String.ofList s)))).toList :=
    Text.Utf8.mem_decodeLenient (by decide) (Text.Percent.mem_decode (by decide) (by decide) byte)
  unfold readDomain
  dsimp only
  rw [Domain.toAscii?_of_forbidden (by decide) (by decide) decoded]

theorem hostPart_inBrackets {port : List Char} (plain : ']' ∉ port) : hostPart true port = port := by
  induction port with
  | nil => rfl
  | cons c rest ih =>
    rw [List.mem_cons, not_or] at plain
    unfold hostPart
    rw [if_neg (by simp)]
    split
    · rw [ih plain.2]
    · rw [if_neg fun same => plain.1 same.symm, ih plain.2]

/-- Where the host ends that is read at the front of a host and a port: at the colon between them, at a colon of the
host, or nowhere if a bracket is open. -/
theorem hostPart_cases (inBrackets : Bool) (host : List Char) {port : List Char} (plain : ']' ∉ port) :
    hostPart inBrackets (host ++ ':' :: port) = host ∨
      (∃ front back, host = front ++ ':' :: back ∧ hostPart inBrackets (host ++ ':' :: port) = front) ∨
      hostPart inBrackets (host ++ ':' :: port) = host ++ ':' :: port ∧ (inBrackets = true ∨ '[' ∈ host) := by
  induction host generalizing inBrackets with
  | nil =>
    cases inBrackets with
    | false => exact Or.inl (if_pos (by simp))
    | true =>
      refine Or.inr (Or.inr ⟨hostPart_inBrackets ?_, Or.inl rfl⟩)
      simpa using plain
  | cons c rest ih =>
    by_cases ends : c = ':' ∧ !inBrackets
    · refine Or.inr (Or.inl ⟨[], rest, by rw [ends.1]; rfl, ?_⟩)
      exact if_pos ends
    · have further : hostPart inBrackets (c :: rest ++ ':' :: port) = c :: hostPart
          (if c = '[' then true else if c = ']' then false else inBrackets) (rest ++ ':' :: port) := if_neg ends
      rw [further]
      rcases ih (if c = '[' then true else if c = ']' then false else inBrackets) with
        whole | ⟨front, back, rfl, cut⟩ | ⟨all, opened⟩
      · exact Or.inl (congrArg (c :: ·) whole)
      · exact Or.inr (Or.inl ⟨c :: front, back, rfl, congrArg (c :: ·) cut⟩)
      · refine Or.inr (Or.inr ⟨congrArg (c :: ·) all, ?_⟩)
        rcases opened with opened | inRest
        · split at opened
          · next bracket => exact Or.inr (by rw [bracket]; exact List.mem_cons_self)
          · split at opened
            · cases opened
            · exact Or.inl opened
        · exact Or.inr (List.mem_cons_of_mem c inRest)

/-- The digits of a port. -/
def portDigits (port : Nat) : List Char :=
  (toString port).toList

theorem portDigits_eq (port : Nat) : portDigits port = Nat.toDigits 10 port :=
  Nat.toList_repr

theorem isDigit_of_mem_portDigits {port : Nat} {c : Char} (inside : c ∈ portDigits port) : c.isDigit = true := by
  rw [portDigits_eq] at inside
  exact Nat.isDigit_of_mem_toDigits (by decide) (by decide) inside

theorem not_mem_portDigits {c : Char} (other : c.isDigit = false) (port : Nat) : c ∉ portDigits port := by
  intro inside
  rw [isDigit_of_mem_portDigits inside] at other
  cases other

theorem readPort_of_colon (scheme : Scheme) {s : List Char} (inside : ':' ∈ s) :
    readPort scheme s = .error .invalidPort := by
  unfold readPort
  rw [Text.digits?_of_not_digit (by decide) inside]

theorem getD_readPort {scheme : Scheme} {port : Nat} {found : Option Nat}
    (read : readPort scheme (portDigits port) = .ok found) : found.getD scheme.usualPort = port := by
  have filled : (portDigits port).isEmpty = false := by
    rw [portDigits_eq, List.isEmpty_eq_false_iff]
    exact Nat.toDigits_ne_nil
  unfold readPort at read
  rw [portDigits_eq, Text.digits?_toDigits, ← portDigits_eq, filled] at read
  dsimp only at read
  split at read
  · cases read
  · split at read
    · next usual =>
      cases read
      exact (by simpa using usual : port = scheme.usualPort).symm
    · cases read
      rfl

/-- A host with an open bracket keeps the port: it is no address of version 6, as it ends in a digit, and no name. -/
theorem readHost_of_open {host : List Char} (port : Nat) (opened : '[' ∈ host) :
    ∃ fault, readHost (host ++ ':' :: portDigits port) = .error fault := by
  have unclosed (front : List Char) : (front ++ ':' :: portDigits port).getLast? ≠ some ']' := by
    intro closed
    rw [List.getLast?_append_cons] at closed
    rcases List.mem_cons.mp (List.mem_of_getLast? closed) with colon | digit
    · cases colon
    · exact not_mem_portDigits (by decide) port digit
  match host, opened with
  | first :: rest, _ =>
    by_cases bracket : first = '['
    · subst bracket
      exact ⟨.invalidV6, if_neg (unclosed rest)⟩
    · refine ⟨.invalidDomain, ?_⟩
      have named : readHost (first :: rest ++ ':' :: portDigits port)
          = readDomain (first :: rest ++ ':' :: portDigits port) := by
        unfold readHost
        split
        · next empty => cases empty
        · next opening =>
          cases opening
          exact absurd rfl bracket
        · rfl
      rw [named]
      exact readDomain_of_colon (by simp)

end Url

end ContractSuite
