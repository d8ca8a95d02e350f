import ContractSuite.Json.Value

namespace ContractSuite.Json

/-- White space, of any length. -/
def IsSpace (s : List Char) : Prop :=
  ∀ c ∈ s, isSpace c = true

/-- Decimal digits, at least one. -/
def IsDigits (s : List Char) : Prop :=
  s ≠ [] ∧ ∀ c ∈ s, c.isDigit = true

/-- The whole part of a number: a zero alone, or digits that do not begin with zero. -/
def IsWhole (s : List Char) : Prop :=
  s = ['0'] ∨ IsDigits s ∧ s.head? ≠ some '0'

/-- The point of a number and the digits behind it, if there is a point. -/
inductive IsFraction : List Char → Prop
  | absent : IsFraction []
  | point {s} : IsDigits s → IsFraction ('.' :: s)

/-- The exponent of a number, if there is one. -/
inductive IsExponent : List Char → Prop
  | absent : IsExponent []
  | bare {letter s} : letter = 'e' ∨ letter = 'E' → IsDigits s → IsExponent (letter :: s)
  | signed {letter sign s} : letter = 'e' ∨ letter = 'E' → sign = '+' ∨ sign = '-' → IsDigits s →
      IsExponent (letter :: sign :: s)

/-- A number without a sign. -/
inductive IsUnsigned : List Char → Prop
  | mk {whole fraction exponent} : IsWhole whole → IsFraction fraction → IsExponent exponent →
      IsUnsigned (whole ++ fraction ++ exponent)

/-- The value of hexadecimal digits. -/
def hexValue? (digits : List Char) : Option Nat :=
  digits.foldlM (fun n c => (Text.hexDigit? c).map (n * 16 + ·)) 0

/-- So many hexadecimal digits with this value. -/
def Codes (count : Nat) (digits : List Char) (value : Nat) : Prop :=
  digits.length = count ∧ hexValue? digits = some value

/-- The first half of a character beyond the first plane. -/
abbrev IsHighHalf (n : Nat) : Prop := 0xD800 ≤ n ∧ n ≤ 0xDBFF

/-- The second half of a character beyond the first plane. -/
abbrev IsLowHalf (n : Nat) : Prop := 0xDC00 ≤ n ∧ n ≤ 0xDFFF

/-- The character of two halves. -/
def joinHalves (high low : Nat) : Char :=
  Char.ofNat (0x10000 + (high - 0xD800) * 0x400 + (low - 0xDC00))

/-- A character that stands for itself between quotes. -/
def IsPlain (c : Char) : Prop := c ≠ '"' ∧ c ≠ '\\' ∧ 0x20 ≤ c.toNat

/-- What may stand between quotes. -/
inductive IsQuote : List Char → Prop
  | nil : IsQuote []
  | plain {c s} : IsPlain c → IsQuote s → IsQuote (c :: s)
  | short {c s} : (Quotation.shortEscape? c).isSome → IsQuote s → IsQuote ('\\' :: c :: s)
  | code {digits value s} : Codes 4 digits value → IsQuote s → IsQuote ('\\' :: 'u' :: digits ++ s)

/-- What stands between quotes, and the text that it spells. A half of a character spells nothing alone. -/
inductive Spells : List Char → List Char → Prop
  | nil : Spells [] []
  | plain {c s name} : IsPlain c → Spells s name → Spells (c :: s) (c :: name)
  | short {c d s name} : Quotation.shortEscape? c = some d → Spells s name → Spells ('\\' :: c :: s) (d :: name)
  | code {digits value s name} : Codes 4 digits value → ¬IsHighHalf value → ¬IsLowHalf value → Spells s name →
      Spells ('\\' :: 'u' :: digits ++ s) (Char.ofNat value :: name)
  | pair {digits high digits' low s name} : Codes 4 digits high → IsHighHalf high → Codes 4 digits' low →
      IsLowHalf low → Spells s name →
      Spells ('\\' :: 'u' :: digits ++ ('\\' :: 'u' :: digits' ++ s)) (joinHalves high low :: name)

theorem Spells.isQuote {quote name : List Char} (spells : Spells quote name) : IsQuote quote := by
  induction spells with
  | nil => exact .nil
  | plain isPlain _ ih => exact .plain isPlain ih
  | short escape _ ih => exact .short (by rw [escape]; rfl) ih
  | code codes _ _ _ ih => exact .code codes ih
  | pair codes _ codes' _ _ ih => exact .code codes (.code codes' ih)

/-- The label of a member: its name between quotes, and a colon. -/
inductive IsLabel (isName : List Char → Prop) : List Char → Prop
  | mk {before quote middle after} : IsSpace before → isName quote → IsSpace middle → IsSpace after →
      IsLabel isName (before ++ '"' :: quote ++ '"' :: middle ++ ':' :: after)

theorem IsLabel.mono {isName isName' : List Char → Prop} (imp : ∀ s, isName s → isName' s) {label : List Char}
    (isLabel : IsLabel isName label) : IsLabel isName' label := by
  cases isLabel with
  | mk before name middle after => exact .mk before (imp _ name) middle after

namespace Frame

/-- The bracket or brace at the start. -/
def opening : Frame → Char
  | list => '['
  | object => '{'

/-- The bracket or brace at the end. -/
def closing : Frame → Char
  | list => ']'
  | object => '}'

/-- What may stand in front of a value: white space, or the label of a member. -/
def IsFront : Frame → List Char → Prop
  | list => IsSpace
  | object => IsLabel IsQuote

end Frame

/-- An entry of a list or an object. -/
structure Entry where
  front : List Char
  value : List Char
  space : List Char

namespace Entry

def text (e : Entry) : List Char :=
  e.front ++ e.value ++ e.space

/-- Holds when an entry has around its value what an entry of the frame needs there. -/
def Fits (frame : Frame) (e : Entry) : Prop :=
  frame.IsFront e.front ∧ IsSpace e.space

/-- Entries, each behind a comma. -/
def further (entries : List Entry) : List Char :=
  entries.flatMap fun e => ',' :: e.text

/-- Entries with commas between them. -/
def joined : List Entry → List Char
  | [] => []
  | e :: more => e.text ++ further more

end Entry

/-- A list or an object with these entries. -/
def Frame.around (frame : Frame) (entries : List Entry) (space : List Char) : List Char :=
  frame.opening :: Entry.joined entries ++ space ++ [frame.closing]

/-- A value of a document. -/
inductive IsValue : List Char → Prop
  | null : IsValue ['n', 'u', 'l', 'l']
  | true : IsValue ['t', 'r', 'u', 'e']
  | false : IsValue ['f', 'a', 'l', 's', 'e']
  | number {s} : IsUnsigned s → IsValue s
  | negative {s} : IsUnsigned s → IsValue ('-' :: s)
  | quoted {s} : IsQuote s → IsValue ('"' :: s ++ ['"'])
  | nest {frame : Frame} {entries : List Entry} {space : List Char} : (∀ e ∈ entries, e.Fits frame) →
      (∀ e ∈ entries, IsValue e.value) → IsSpace space → IsValue (frame.around entries space)

/-- A value that counts as false. -/
inductive IsFalsy : List Char → Prop
  | null : IsFalsy ['n', 'u', 'l', 'l']
  | false : IsFalsy ['f', 'a', 'l', 's', 'e']
  | zero : IsFalsy ['0']
  | quoted : IsFalsy ['"', '"']
  | nest {frame : Frame} {space : List Char} : IsSpace space → IsFalsy (frame.around [] space)

theorem IsFalsy.isValue {s : List Char} (isFalsy : IsFalsy s) : IsValue s := by
  cases isFalsy with
  | null => exact .null
  | false => exact .false
  | zero => exact .number (.mk (Or.inl rfl) .absent .absent)
  | quoted => exact .quoted .nil
  | nest isSpace => exact .nest (List.forall_mem_nil _) (List.forall_mem_nil _) isSpace

/-- A document of which the root is as the predicate says. -/
inductive IsDocument (root : List Char → Prop) : List Char → Prop
  | mk {before value after} : IsSpace before → root value → IsSpace after →
      IsDocument root (before ++ value ++ after)

theorem IsDocument.mono {root root' : List Char → Prop} (imp : ∀ s, root s → root' s) {s : List Char}
    (isDocument : IsDocument root s) : IsDocument root' s := by
  cases isDocument with
  | mk before isRoot after => exact .mk before (imp _ isRoot) after

/-- A member of this name. -/
structure Entry.IsNamed (field : String) (holds : List Char → Prop) (e : Entry) : Prop where
  fits : e.Fits .object
  label : IsLabel (Spells · field.toList) e.front
  value : holds e.value

/-- A member that has another name. -/
structure Entry.IsOther (field : String) (e : Entry) : Prop where
  fits : e.Fits .object
  named : ∃ name, IsLabel (Spells · name) e.front
  label : ¬IsLabel (Spells · field.toList) e.front
  value : IsValue e.value

/-- An object with exactly one member of this name. -/
inductive IsObjectWith (field : String) (holds : List Char → Prop) : List Char → Prop
  | mk {earlier later : List Entry} {e : Entry} {space} : e.IsNamed field holds →
      (∀ other ∈ earlier ++ later, other.IsOther field) → IsSpace space →
      IsObjectWith field holds (Frame.object.around (earlier ++ e :: later) space)

/-- A list of exactly one item. -/
inductive IsListOf (holds : List Char → Prop) : List Char → Prop
  | mk {e : Entry} {space} : e.Fits .list → holds e.value → IsSpace space →
      IsListOf holds (Frame.list.around [e] space)

/-- A record of one field: an object with one member of its name, or a list of one item. -/
def IsRecord (field : String) (holds : List Char → Prop) (s : List Char) : Prop :=
  IsObjectWith field holds s ∨ IsListOf holds s

theorem IsRecord.mono {field : String} {holds holds' : List Char → Prop} (imp : ∀ s, holds s → holds' s)
    {s : List Char} (isRecord : IsRecord field holds s) : IsRecord field holds' s := by
  rcases isRecord with isObject | isList
  · cases isObject with
    | mk named others isSpace => exact Or.inl (.mk ⟨named.fits, named.label, imp _ named.value⟩ others isSpace)
  · cases isList with
    | mk fits held isSpace => exact Or.inr (.mk fits (imp _ held) isSpace)

theorem IsRecord.exists_field {field : String} {holds : List Char → Prop} {s : List Char}
    (isRecord : IsRecord field holds s) : ∃ v, holds v ∧ IsRecord field (· = v) s := by
  rcases isRecord with isObject | isList
  · cases isObject with
    | mk named others isSpace => exact ⟨_, named.value, Or.inl (.mk ⟨named.fits, named.label, rfl⟩ others isSpace)⟩
  · cases isList with
    | mk fits held isSpace => exact ⟨_, held, Or.inr (.mk fits rfl isSpace)⟩

theorem IsObjectWith.isValue {field : String} {holds : List Char → Prop} (imp : ∀ s, holds s → IsValue s)
    {s : List Char} (isObject : IsObjectWith field holds s) : IsValue s := by
  cases isObject with
  | @mk earlier later e space named others isSpace =>
    have values : ∀ other ∈ earlier ++ e :: later, other.Fits .object ∧ IsValue other.value := by
      intro other member
      rcases List.mem_append.mp member with before | behind
      · have isOther := others other (List.mem_append_left _ before)
        exact ⟨isOther.fits, isOther.value⟩
      · rcases List.mem_cons.mp behind with rfl | behind
        · exact ⟨named.fits, imp _ named.value⟩
        · have isOther := others other (List.mem_append_right _ behind)
          exact ⟨isOther.fits, isOther.value⟩
    exact .nest (fun other member => (values other member).1) (fun other member => (values other member).2) isSpace

theorem IsListOf.isValue {holds : List Char → Prop} (imp : ∀ s, holds s → IsValue s) {s : List Char}
    (isList : IsListOf holds s) : IsValue s := by
  cases isList with
  | @mk e space fits held isSpace =>
    exact .nest (List.forall_mem_singleton.mpr fits) (List.forall_mem_singleton.mpr (imp _ held)) isSpace

theorem IsRecord.isValue {field : String} {holds : List Char → Prop} (imp : ∀ s, holds s → IsValue s)
    {s : List Char} (isRecord : IsRecord field holds s) : IsValue s := by
  rcases isRecord with isObject | isList
  · exact isObject.isValue imp
  · exact isList.isValue imp

/-- Holds of texts that start and end with the bracket or brace of a frame. -/
def IsFramed (s : List Char) : Prop :=
  ∃ (frame : Frame) (inner : List Char), s = frame.opening :: inner ++ [frame.closing]

theorem IsRecord.isFramed {field : String} {holds : List Char → Prop} {s : List Char}
    (isRecord : IsRecord field holds s) : IsFramed s := by
  rcases isRecord with isObject | isList
  · cases isObject
    exact ⟨_, _, rfl⟩
  · cases isList
    exact ⟨_, _, rfl⟩

end ContractSuite.Json
