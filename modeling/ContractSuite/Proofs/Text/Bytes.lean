import Mathlib.Algebra.Ring.Nat
import Mathlib.Data.List.Basic
import ContractSuite.Text.Utf8

namespace ContractSuite.Text.Utf8

theorem toList_loop_eq (bytes : ByteArray) (place : Nat) (read : List UInt8) :
    ByteArray.toList.loop bytes place read = read.reverse ++ bytes.data.toList.drop place := by
  fun_induction ByteArray.toList.loop bytes place read with
  | case1 place read inside ih =>
    have bound : place < bytes.data.toList.length := by simpa using inside
    rw [ih, List.drop_eq_getElem_cons bound]
    simp [ByteArray.get!, inside]
  | case2 place read outside =>
    rw [List.drop_eq_nil_of_le (by simpa using Nat.le_of_not_lt outside), List.append_nil]

theorem encode_eq (s : String) : encode s = s.toList.flatMap String.utf8EncodeChar := by
  have whole : s.toUTF8 = (s.toList.flatMap String.utf8EncodeChar).toByteArray := String.utf8Encode_toList.symm
  unfold encode ByteArray.toList
  rw [toList_loop_eq, whole, List.toList_data_toByteArray]
  rfl

theorem encode_ofList (s : List Char) : encode (String.ofList s) = s.flatMap String.utf8EncodeChar := by
  rw [encode_eq, String.toList_ofList]

/-- A byte of ASCII is the byte of its character. -/
theorem utf8EncodeChar_of_ascii {c : Char} (ascii : c.toNat < 0x80) :
    String.utf8EncodeChar c = [UInt8.ofNat c.toNat] :=
  if_pos (Nat.le_of_lt_succ ascii)

variable {byte : UInt8} {start : Unfinished}

theorem readFrom_whole {c : Char} (role : lead byte.toNat = .whole c) (rest : List UInt8) :
    readFrom none (byte :: rest) = some c :: readFrom none rest := by
  rw [readFrom]
  simp only [role]

theorem readFrom_first (role : lead byte.toNat = .first start) (rest : List UInt8) :
    readFrom none (byte :: rest) = readFrom (some start) rest := by
  rw [readFrom]
  simp only [role]

theorem readFrom_last (fits : start.low ≤ byte.toNat ∧ byte.toNat ≤ start.high) (last : start.missing = 1)
    (rest : List UInt8) :
    readFrom (some start) (byte :: rest) =
      some (Char.ofNat (start.bits * 64 + (byte.toNat - 0x80))) :: readFrom none rest := by
  rw [readFrom]
  simp only [if_pos fits, if_pos last]

theorem readFrom_further (fits : start.low ≤ byte.toNat ∧ byte.toNat ≤ start.high) (further : start.missing ≠ 1)
    (rest : List UInt8) :
    readFrom (some start) (byte :: rest) = readFrom
      (some { bits := start.bits * 64 + (byte.toNat - 0x80), missing := start.missing - 1 }) rest := by
  rw [readFrom]
  simp only [if_pos fits, if_neg further]

theorem readFrom_flaw (unfit : ¬(start.low ≤ byte.toNat ∧ byte.toNat ≤ start.high)) (rest : List UInt8) :
    readFrom (some start) (byte :: rest) = none :: readFrom none (byte :: rest) := by
  rw [readFrom, readFrom]
  simp only [if_neg unfit]

/-- A byte that carries the last six bits of a number. -/
def trail (n : Nat) : UInt8 :=
  UInt8.ofNat (n % 64 + 0x80)

/-- The bytes that carry so many times six bits of a number. -/
def trails (n : Nat) : Nat → List UInt8
  | 0 => []
  | count + 1 => trail (n / 64 ^ count) :: trails n count

theorem toNat_trail (n : Nat) : (trail n).toNat = n % 64 + 0x80 := by
  have bound : n % 64 + 0x80 < UInt8.size := by
    have less := Nat.mod_lt n (by decide : 0 < 64)
    exact Nat.lt_of_lt_of_le (Nat.add_lt_add_right less _) (by decide)
  exact UInt8.toNat_ofNat_of_lt' bound

/-- A character that has been begun is finished by the bytes that carry the rest of its bits. -/
theorem readFrom_trails {n count : Nat} (missing : start.missing = count + 1) (begun : start.bits = n / 64 ^ (count + 1))
    (fits : start.low ≤ (trail (n / 64 ^ count)).toNat ∧ (trail (n / 64 ^ count)).toNat ≤ start.high)
    (rest : List UInt8) :
    readFrom (some start) (trails n (count + 1) ++ rest) = some (Char.ofNat n) :: readFrom none rest := by
  induction count generalizing start with
  | zero =>
    have value : start.bits * 64 + ((trail (n / 64 ^ 0)).toNat - 0x80) = n := by
      rw [begun, toNat_trail]
      omega
    have read := readFrom_last fits missing rest
    rw [value] at read
    exact read
  | succ count ih =>
    have value : start.bits * 64 + ((trail (n / 64 ^ (count + 1))).toNat - 0x80) = n / 64 ^ (count + 1) := by
      rw [begun, toNat_trail, pow_succ 64 (count + 1), ← Nat.div_div_eq_div_mul]
      omega
    have next := toNat_trail (n / 64 ^ count)
    have read := readFrom_further fits (by omega) (trails n (count + 1) ++ rest)
    rw [value] at read
    have left : start.missing - 1 = count + 1 := by omega
    refine read.trans (ih left rfl ?_)
    dsimp only
    omega

/-- Holds when a character has been begun of which so many more bytes are to come after the next one. -/
def Begins (n count : Nat) (start : Unfinished) : Prop :=
  start.missing = count + 1 ∧ start.bits = n / 64 ^ (count + 1) ∧
    start.low ≤ n / 64 ^ count % 64 + 0x80 ∧ n / 64 ^ count % 64 + 0x80 ≤ start.high

theorem lead_two {n : Nat} (lower : 0x80 ≤ n) (upper : n < 0x800) :
    ∃ start, lead (n / 64 % 0x20 + 0xC0) = .first start ∧ Begins n 0 start := by
  unfold lead
  rw [if_neg (by omega), if_neg (by omega), if_pos (by omega)]
  refine ⟨_, rfl, rfl, ?_, ?_, ?_⟩ <;> dsimp only <;> omega

/-- The second byte is narrowed where the first would allow a spelling that is too long, or a surrogate. -/
theorem lead_three {n : Nat} (lower : 0x800 ≤ n) (upper : n < 0x10000) (valid : n < 0xD800 ∨ 0xDFFF < n) :
    ∃ start, lead (n / 4096 % 0x10 + 0xE0) = .first start ∧ Begins n 1 start := by
  unfold lead
  rw [if_neg (by omega), if_neg (by omega), if_neg (by omega)]
  split
  · refine ⟨_, rfl, rfl, ?_, ?_, ?_⟩ <;> dsimp only <;> omega
  split
  · refine ⟨_, rfl, rfl, ?_, ?_, ?_⟩ <;> dsimp only <;> omega
  rw [if_pos (by omega)]
  refine ⟨_, rfl, rfl, ?_, ?_, ?_⟩ <;> dsimp only <;> omega

theorem lead_four {n : Nat} (lower : 0x10000 ≤ n) (upper : n < 0x110000) :
    ∃ start, lead (n / 262144 % 8 + 0xF0) = .first start ∧ Begins n 2 start := by
  unfold lead
  rw [if_neg (by omega), if_neg (by omega), if_neg (by omega), if_neg (by omega), if_neg (by omega),
    if_neg (by omega)]
  split
  · refine ⟨_, rfl, rfl, ?_, ?_, ?_⟩ <;> dsimp only <;> omega
  split
  · refine ⟨_, rfl, rfl, ?_, ?_, ?_⟩ <;> dsimp only <;> omega
  rw [if_pos (by omega)]
  refine ⟨_, rfl, rfl, ?_, ?_, ?_⟩ <;> dsimp only <;> omega

/-- A character that is not ASCII is a byte that begins it and the bytes that carry the rest of its bits. -/
theorem exists_begins {c : Char} (other : 0x80 ≤ c.toNat) :
    ∃ byte count start, String.utf8EncodeChar c = byte :: trails c.toNat (count + 1) ∧
      lead byte.toNat = .first start ∧ Begins c.toNat count start := by
  have small {n : Nat} (bound : n < 256) : (UInt8.ofNat n).toNat = n := UInt8.toNat_ofNat_of_lt' bound
  have toTrail (n : Nat) : UInt8.ofNat (n % 0x40 + 0x80) = trail n := rfl
  have limits : c.toNat < 0xD800 ∨ 0xDFFF < c.toNat ∧ c.toNat < 0x110000 := c.valid
  have same : c.val.toNat = c.toNat := rfl
  unfold String.utf8EncodeChar
  simp only [same, toTrail]
  rw [if_neg (by omega)]
  split
  · obtain ⟨start, role, begins⟩ := lead_two other (by omega)
    exact ⟨_, 0, start, by simp [trails], (congrArg lead (small (by omega))).trans role, begins⟩
  split
  · obtain ⟨start, role, begins⟩ := lead_three (n := c.toNat) (by omega) (by omega) (by omega)
    exact ⟨_, 1, start, by simp [trails], (congrArg lead (small (by omega))).trans role, begins⟩
  · obtain ⟨start, role, begins⟩ := lead_four (n := c.toNat) (by omega) (by omega)
    exact ⟨_, 2, start, by simp [trails], (congrArg lead (small (by omega))).trans role, begins⟩

/-- A character is read back from its bytes, whatever follows. -/
theorem readFrom_utf8EncodeChar (c : Char) (rest : List UInt8) :
    readFrom none (String.utf8EncodeChar c ++ rest) = some c :: readFrom none rest := by
  by_cases ascii : c.toNat < 0x80
  · have small : (UInt8.ofNat c.toNat).toNat = c.toNat := UInt8.toNat_ofNat_of_lt' (by show _ < 256; omega)
    have role : lead (UInt8.ofNat c.toNat).toNat = .whole c := by
      rw [small, lead, if_pos ascii, Char.ofNat_toNat]
    rw [utf8EncodeChar_of_ascii ascii]
    exact readFrom_whole role rest
  · obtain ⟨byte, count, start, spelled, role, missing, begun, low, high⟩ := exists_begins (Nat.le_of_not_lt ascii)
    have fits := toNat_trail (c.toNat / 64 ^ count)
    rw [spelled, List.cons_append, readFrom_first role, readFrom_trails missing begun (by omega), Char.ofNat_toNat]

/-- A text is read back from its bytes. -/
theorem readFrom_encode (s : List Char) : readFrom none (s.flatMap String.utf8EncodeChar) = s.map some := by
  induction s with
  | nil => rfl
  | cons c rest ih => rw [List.flatMap_cons, readFrom_utf8EncodeChar, ih, List.map_cons]

theorem decodeLenient_encode (s : String) : decodeLenient (encode s) = s := by
  unfold decodeLenient
  rw [encode_eq, readFrom_encode, List.map_map]
  have same : (fun c : Option Char => c.getD (Char.ofNat 0xFFFD)) ∘ some = id := rfl
  rw [same, List.map_id, String.ofList_toList]

theorem low_of_lead {n : Nat} (role : lead n = .first start) : 0x80 ≤ start.low := by
  unfold lead at role
  grind

/-- A byte of ASCII is read as its character, whatever has been begun before it. -/
theorem mem_readFrom {bytes : List UInt8} (ascii : byte.toNat < 0x80) (inside : byte ∈ bytes)
    {open? : Option Unfinished} (above : ∀ start ∈ open?, 0x80 ≤ start.low) :
    some (Char.ofNat byte.toNat) ∈ readFrom open? bytes := by
  induction bytes generalizing open? with
  | nil => cases inside
  | cons first rest ih =>
    have fromStart : some (Char.ofNat byte.toNat) ∈ readFrom none (first :: rest) := by
      rcases List.mem_cons.mp inside with rfl | later
      · rw [readFrom_whole (if_pos ascii)]
        exact List.mem_cons_self
      · cases role : lead first.toNat with
        | whole c =>
          rw [readFrom_whole role]
          exact List.mem_cons_of_mem _ (ih later (by simp))
        | first start =>
          rw [readFrom_first role]
          exact ih later (by simpa using low_of_lead role)
        | flaw =>
          rw [readFrom]
          simp only [role]
          exact List.mem_cons_of_mem _ (ih later (by simp))
    cases open? with
    | none => exact fromStart
    | some start =>
      have low := above start rfl
      by_cases fits : start.low ≤ first.toNat ∧ first.toNat ≤ start.high
      · have later : byte ∈ rest := by
          rcases List.mem_cons.mp inside with rfl | later
          · omega
          · exact later
        by_cases last : start.missing = 1
        · rw [readFrom_last fits last]
          exact List.mem_cons_of_mem _ (ih later (by simp))
        · rw [readFrom_further fits last]
          exact ih later (by simp)
      · rw [readFrom_flaw fits]
        exact List.mem_cons_of_mem _ fromStart

theorem mem_decodeLenient {bytes : List UInt8} (ascii : byte.toNat < 0x80) (inside : byte ∈ bytes) :
    Char.ofNat byte.toNat ∈ (decodeLenient bytes).toList := by
  unfold decodeLenient
  rw [String.toList_ofList]
  exact List.mem_map.mpr ⟨_, mem_readFrom ascii inside (by simp), rfl⟩

end ContractSuite.Text.Utf8
