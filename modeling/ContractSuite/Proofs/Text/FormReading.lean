import ContractSuite.Proofs.Text.Bytes
import ContractSuite.Text.FormEncoded
import ContractSuite.Text.Parts

namespace ContractSuite.Text

namespace Percent

theorem decode_cons_of_ne {byte : UInt8} (plain : byte ≠ 0x25) (rest : List UInt8) :
    decode (byte :: rest) = byte :: decode rest := by
  match rest with
  | [] => rfl
  | [_] => rfl
  | b :: c :: more =>
    rw [decode]
    split
    · rw [if_neg plain]
    · rfl

theorem decode_escape {high low : UInt8} {h l : Nat} (highValue : hexValue? high = some h)
    (lowValue : hexValue? low = some l) (rest : List UInt8) :
    decode (0x25 :: high :: low :: rest) = UInt8.ofNat (h * 16 + l) :: decode rest := by
  rw [decode]
  simp only [highValue, lowValue, if_pos]

theorem upperHex_spec : ∀ n < 16, String.utf8EncodeChar (upperHex n) = [UInt8.ofNat (upperHex n).toNat] ∧
    hexValue? (UInt8.ofNat (upperHex n).toNat) = some n ∧ UInt8.ofNat (upperHex n).toNat ≠ 0x2B ∧
    (upperHex n).isAlphanum = true := by
  decide

end Percent

namespace FormEncoded

/-- What a byte of an encoded name or value means before escapes are read. -/
def spaceForPlus (byte : UInt8) : UInt8 :=
  if byte = 0x2B then 0x20 else byte

/-- The text that an encoded name or value stands for. -/
def decode (s : List Char) : String :=
  Utf8.decodeLenient (Percent.decode ((Utf8.encode (String.ofList s)).map spaceForPlus))

/-- The parameter that a part of a query gives. Its name ends at the first equals sign. -/
def readParameter (part : List Char) : String × String :=
  let name := part.takeWhile (· != '=')
  (decode name, decode (part.drop (name.length + 1)))

/-- The parameters that a query gives. Empty parts give none. -/
def read (query : String) : List (String × String) :=
  ((parts (· == '&') query.toList).filter (!·.isEmpty)).map readParameter

/-- Characters that occur in an encoded name or value. -/
def isWritten (c : Char) : Bool :=
  c.isAlphanum || ['*', '-', '.', '_', '+', '%'].contains c

theorem isPlain_spec : ∀ n < 256, isPlain (UInt8.ofNat n) = true →
    String.utf8EncodeChar (Char.ofNat n) = [UInt8.ofNat n] ∧ UInt8.ofNat n ≠ 0x2B ∧ UInt8.ofNat n ≠ 0x25 ∧
      isWritten (Char.ofNat n) = true := by
  decide +kernel

theorem encodeByte_of_isPlain {byte : UInt8} (plain : isPlain byte = true) :
    encodeByte byte = [Char.ofNat byte.toNat] ∧ String.utf8EncodeChar (Char.ofNat byte.toNat) = [byte] ∧
      byte ≠ 0x2B ∧ byte ≠ 0x25 ∧ isWritten (Char.ofNat byte.toNat) = true := by
  have spec := isPlain_spec byte.toNat byte.toNat_lt
  rw [UInt8.ofNat_toNat] at spec
  exact ⟨if_pos plain, spec plain⟩

theorem encodeByte_of_escaped {byte : UInt8} (escaped : ¬isPlain byte = true) (visible : byte ≠ 0x20) :
    encodeByte byte = ['%', Percent.upperHex (byte.toNat / 16), Percent.upperHex (byte.toNat % 16)] := by
  unfold encodeByte
  rw [if_neg escaped, if_neg visible]
  rfl

theorem digits_lt (byte : UInt8) : byte.toNat / 16 < 16 ∧ byte.toNat % 16 < 16 := by
  have bound : byte.toNat < 256 := byte.toNat_lt
  omega

theorem isWritten_of_mem_encodeByte {byte : UInt8} {c : Char} (inside : c ∈ encodeByte byte) :
    isWritten c = true := by
  have ofDigit {n : Nat} (bound : n < 16) : isWritten (Percent.upperHex n) = true := by
    unfold isWritten
    rw [(Percent.upperHex_spec n bound).2.2.2, Bool.true_or]
  by_cases plain : isPlain byte = true
  · obtain ⟨spelled, -, -, -, written⟩ := encodeByte_of_isPlain plain
    rw [spelled, List.mem_singleton] at inside
    rwa [inside]
  · by_cases space : byte = 0x20
    · subst space
      obtain rfl : c = '+' := List.mem_singleton.mp inside
      rfl
    · obtain ⟨high, low⟩ := digits_lt byte
      rw [encodeByte_of_escaped plain space] at inside
      simp only [List.mem_cons, List.not_mem_nil, or_false] at inside
      rcases inside with rfl | rfl | rfl
      · rfl
      · exact ofDigit high
      · exact ofDigit low

/-- A byte is read back from its encoding, whatever follows. -/
theorem decode_encodeByte (byte : UInt8) (rest : List UInt8) :
    Percent.decode (((encodeByte byte).flatMap String.utf8EncodeChar).map spaceForPlus ++ rest) =
      byte :: Percent.decode rest := by
  by_cases plain : isPlain byte = true
  · obtain ⟨spelled, bytes, noPlus, noPercent, -⟩ := encodeByte_of_isPlain plain
    have same : spaceForPlus byte = byte := if_neg noPlus
    rw [spelled, List.flatMap_singleton, bytes, List.map_singleton, same]
    exact Percent.decode_cons_of_ne noPercent rest
  · by_cases space : byte = 0x20
    · subst space
      exact Percent.decode_cons_of_ne (by decide) rest
    · obtain ⟨high, low⟩ := digits_lt byte
      obtain ⟨highBytes, highValue, highNoPlus, -⟩ := Percent.upperHex_spec _ high
      obtain ⟨lowBytes, lowValue, lowNoPlus, -⟩ := Percent.upperHex_spec _ low
      have whole : UInt8.ofNat (byte.toNat / 16 * 16 + byte.toNat % 16) = byte := by
        rw [Nat.div_add_mod', UInt8.ofNat_toNat]
      have sign : String.utf8EncodeChar '%' = [0x25] := rfl
      have signStays : spaceForPlus 0x25 = 0x25 := rfl
      have highStays : spaceForPlus _ = _ := if_neg highNoPlus
      have lowStays : spaceForPlus _ = _ := if_neg lowNoPlus
      rw [encodeByte_of_escaped plain space]
      simp only [List.flatMap_cons, List.flatMap_nil, sign, highBytes, lowBytes, List.cons_append, List.nil_append,
        List.map_cons, List.map_nil, signStays, highStays, lowStays]
      rw [Percent.decode_escape highValue lowValue, whole]

theorem toList_encode (s : String) : (encode s).toList = (Utf8.encode s).flatMap encodeByte :=
  String.toList_ofList

/-- An encoded text is read back. -/
theorem decode_encode (s : String) : decode (encode s).toList = s := by
  have bytesBack (bytes : List UInt8) :
      Percent.decode (((bytes.flatMap encodeByte).flatMap String.utf8EncodeChar).map spaceForPlus) = bytes := by
    induction bytes with
    | nil => rfl
    | cons byte more ih =>
      rw [List.flatMap_cons, List.flatMap_append, List.map_append, decode_encodeByte, ih]
  unfold decode
  rw [Utf8.encode_ofList, toList_encode, bytesBack, Utf8.decodeLenient_encode]

theorem isWritten_of_mem_encode {s : String} {c : Char} (inside : c ∈ (encode s).toList) : isWritten c = true := by
  rw [toList_encode, List.mem_flatMap] at inside
  obtain ⟨byte, -, inByte⟩ := inside
  exact isWritten_of_mem_encodeByte inByte

theorem not_mem_encode {c : Char} (foreign : isWritten c = false) (s : String) : c ∉ (encode s).toList := by
  intro inside
  rw [isWritten_of_mem_encode inside] at foreign
  cases foreign

theorem readParameter_encode (name value : String) :
    readParameter ((encode name).toList ++ '=' :: (encode value).toList) = (name, value) := by
  have unmarked : '=' ∉ (encode name).toList := not_mem_encode rfl name
  have front : ((encode name).toList ++ '=' :: (encode value).toList).takeWhile (· != '=') = (encode name).toList := by
    rw [List.takeWhile_append_of_pos fun c inside => by simpa using ne_of_mem_of_not_mem inside unmarked]
    simp
  unfold readParameter
  dsimp only
  rw [front]
  have back : ((encode name).toList ++ '=' :: (encode value).toList).drop ((encode name).toList.length + 1) =
      (encode value).toList := by
    rw [← List.drop_drop, List.drop_left]
    rfl
  rw [back, decode_encode, decode_encode]

/-- A parameter as it is written in a query. -/
def written (parameter : String × String) : String :=
  encode parameter.1 ++ "=" ++ encode parameter.2

theorem toList_written (parameter : String × String) :
    (written parameter).toList = (encode parameter.1).toList ++ '=' :: (encode parameter.2).toList := by
  unfold written
  rw [String.toList_append, String.toList_append, List.append_assoc]
  rfl

theorem query_eq (parameters : List (String × String)) : query parameters = "&".intercalate (parameters.map written) :=
  rfl

theorem query_singleton (parameter : String × String) : query [parameter] = written parameter := by
  rw [query_eq, List.map_singleton, String.intercalate_singleton]

theorem read_append (front back : String) : read (front ++ "&" ++ back) = read front ++ read back := by
  have cut : (front ++ "&" ++ back).toList = front.toList ++ '&' :: back.toList := by
    rw [String.toList_append, String.toList_append, List.append_assoc]
    rfl
  unfold read
  rw [cut, parts_append_cons (by decide), List.filter_append, List.map_append]

theorem read_ne_nil {query : String} {c : Char} (plain : c ≠ '&') (inside : c ∈ query.toList) :
    read query ≠ [] := by
  obtain ⟨part, isPart, inPart⟩ := exists_mem_parts (· == '&') (beq_eq_false_iff_ne.mpr plain) inside
  have filled : (!part.isEmpty) = true := by
    cases part with
    | nil => cases inPart
    | cons => rfl
  unfold read
  rw [Ne, List.map_eq_nil_iff]
  exact List.ne_nil_of_mem (List.mem_filter.mpr ⟨isPart, filled⟩)

theorem read_written (parameter : String × String) : read (written parameter) = [parameter] := by
  have foreign : isWritten '&' = false := rfl
  have whole : ∀ c ∈ (written parameter).toList, (c == '&') = false := by
    intro c inside
    rw [toList_written, List.mem_append, List.mem_cons] at inside
    rw [beq_eq_false_iff_ne]
    rintro rfl
    rcases inside with inName | same | inValue
    · exact not_mem_encode foreign parameter.1 inName
    · cases same
    · exact not_mem_encode foreign parameter.2 inValue
  have filled : (written parameter).toList.isEmpty = false := by
    rw [toList_written]
    simp
  unfold read
  rw [parts_of_no_separator whole, List.filter_cons_of_pos (by rw [filled]; rfl), List.filter_nil, List.map_singleton,
    toList_written, readParameter_encode]

/-- The parameters of a query are read back. -/
theorem read_query (parameters : List (String × String)) : read (query parameters) = parameters := by
  rw [query_eq]
  induction parameters with
  | nil => rfl
  | cons first more ih =>
    cases more with
    | nil => rw [List.map_singleton, String.intercalate_singleton, read_written]
    | cons second more =>
      rw [List.map_cons] at ih
      rw [List.map_cons, List.map_cons, String.intercalate_cons_cons, read_append, read_written, ih]
      rfl

end FormEncoded

end ContractSuite.Text
