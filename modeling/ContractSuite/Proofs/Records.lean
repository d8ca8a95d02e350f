import ContractSuite.Report
import ContractSuite.Proofs.Json.Skipping

namespace ContractSuite

namespace Json

/-- A label names no more than one name. -/
theorem IsLabel.name_unique {name name' front : List Char} (isLabel : IsLabel (Spells · name) front)
    (isLabel' : IsLabel (Spells · name') front) : name = name' := by
  have reads {name : List Char} (isLabel : IsLabel (Spells · name) front) :
      ∃ t rest, skipSpace front = '"' :: t ∧ Quotation.read t = .ok (name, rest) := by
    cases isLabel with
    | @mk before quote middle after isBefore spells _ _ =>
      refine ⟨quote ++ '"' :: (middle ++ ':' :: after), _, ?_, Quotation.read_of_spells spells _⟩
      have skipped := skipSpace_append (c := '"') (t := quote ++ '"' :: (middle ++ ':' :: after)) isBefore (by decide)
      simpa using skipped
  obtain ⟨t, rest, skipped, read⟩ := reads isLabel
  obtain ⟨t', rest', skipped', read'⟩ := reads isLabel'
  rw [skipped] at skipped'
  cases skipped'
  rw [read] at read'
  cases read'
  rfl

end Json

namespace ExpectationReport

open Json

variable {α : Type} {shape : Shape}

/-- Members, of which one has the name unless it has been found before. -/
inductive HasOnce (field : String) (holds : List Char → Prop) : Bool → List Entry → Prop
  | nil : HasOnce field holds true []
  | named {e : Entry} {entries : List Entry} : e.IsNamed field holds → HasOnce field holds true entries →
      HasOnce field holds false (e :: entries)
  | other {isFound : Bool} {e : Entry} {entries : List Entry} : e.IsOther field →
      HasOnce field holds isFound entries → HasOnce field holds isFound (e :: entries)

namespace HasOnce

variable {field : String} {holds : List Char → Prop}

/-- Split at the one that has the name. -/
theorem split {isFound : Bool} {entries : List Entry} (once : HasOnce field holds isFound entries) :
    if isFound then ∀ e ∈ entries, e.IsOther field
    else ∃ earlier e later, entries = earlier ++ e :: later ∧ e.IsNamed field holds ∧
      ∀ other ∈ earlier ++ later, other.IsOther field := by
  induction once with
  | nil => exact List.forall_mem_nil _
  | @named e entries named _ ih => exact ⟨[], e, entries, rfl, named, ih⟩
  | @other isFound e entries isOther _ ih =>
    cases isFound with
    | true => exact List.forall_mem_cons.mpr ⟨isOther, ih⟩
    | false =>
      obtain ⟨earlier, it, later, rfl, named, others⟩ := ih
      exact ⟨e :: earlier, it, later, rfl, named, List.forall_mem_cons.mpr ⟨isOther, others⟩⟩

theorem of_others {entries : List Entry} (others : ∀ e ∈ entries, e.IsOther field) :
    HasOnce field holds true entries := by
  induction entries with
  | nil => exact .nil
  | cons e entries ih =>
    obtain ⟨isOther, later⟩ := List.forall_mem_cons.mp others
    exact .other isOther (ih later)

theorem of_split {earlier later : List Entry} {e : Entry} (named : e.IsNamed field holds)
    (others : ∀ other ∈ earlier ++ later, other.IsOther field) :
    HasOnce field holds false (earlier ++ e :: later) := by
  induction earlier with
  | nil => exact .named named (of_others others)
  | cons it earlier ih =>
    obtain ⟨isOther, more⟩ := List.forall_mem_cons.mp others
    exact .other isOther (ih more)

end HasOnce

section Soundness

variable {holds : α → List Char → Prop}

theorem completes_of_readMembers {readField : List Char → Reading α}
    (ofField : ∀ s a rest, readField s = .ok (a, rest) → TakesValue (holds a) s rest) {fuel : Nat} {found? : Option α}
    {isFirst : Bool} {s rest : List Char} {a : α}
    (taken : readMembers shape readField fuel found? isFirst s = .ok (a, rest)) :
    (∃ entries, HasOnce shape.field (holds a) found?.isSome entries ∧ Completes .object isFirst entries s rest) ∧
      ∀ b, found? = some b → b = a := by
  induction fuel generalizing found? isFirst s with
  | zero => cases taken
  | succ fuel ih =>
    unfold readMembers at taken
    split at taken
    · cases taken
    · next closed =>
      split at taken
      · cases taken
        exact ⟨⟨[], .nil, .closed (fits_of_nextMember closed)⟩, fun _ same => (Option.some.inj same).symm⟩
      · cases taken
    · next further =>
      split at taken
      · cases taken
      · next name u named =>
        split at taken
        · next isField =>
          split at taken
          · cases taken
          · next notFound =>
            split at taken
            · cases taken
            · next colon =>
              split at taken
              · cases taken
              · next value =>
                obtain ⟨⟨entries, once, completes⟩, same⟩ := ih taken
                obtain ⟨e, fits, label, held, longer⟩ :=
                  completes.cons_member further named colon (ofField _ _ _ value)
                rw [same _ rfl] at held
                rw [isField] at label
                rw [Bool.not_eq_true] at notFound
                rw [notFound]
                refine ⟨⟨e :: entries, .named ⟨fits, label, held⟩ once, longer⟩, ?_⟩
                rintro b rfl
                cases notFound
        · next otherName =>
          split at taken
          · cases taken
          · next colon =>
            split at taken
            · cases taken
            · next skipped =>
              obtain ⟨⟨entries, once, completes⟩, same⟩ := ih taken
              obtain ⟨e, fits, label, isValue, longer⟩ :=
                completes.cons_member further named colon (takesValue_of_skipValue skipped)
              have noField (isField : IsLabel (Spells · shape.field.toList) e.front) : False :=
                otherName (label.name_unique isField)
              exact ⟨⟨e :: entries, .other ⟨fits, ⟨name, label⟩, noField, isValue⟩ once, longer⟩, same⟩

theorem takes_of_readSoleItem {readField : List Char → Reading α}
    (ofField : ∀ s a rest, readField s = .ok (a, rest) → TakesValue (holds a) s rest) {s rest : List Char} {a : α}
    (taken : readSoleItem shape readField s = .ok (a, rest)) : Takes (IsListOf (holds a)) ('[' :: s) rest := by
  unfold readSoleItem at taken
  split at taken
  · cases taken
  · cases taken
  · next further =>
    obtain ⟨t, gap, front⟩ := fits_of_nextItem further
    split at taken
    · cases taken
    · next value =>
      split at taken
      · cases taken
      · next closing =>
        cases taken
        have completes : Completes .list false [] _ rest := .closed (takes_of_closeList closing)
        obtain ⟨e, isFront, held, isSpace, longer⟩ := Completes.cons gap front
          (fun _ _ => IsSpace.append) (ofField _ _ _ value) completes
        refine longer.takes_around.mono ?_
        rintro _ ⟨space, isLast, rfl⟩
        exact .mk ⟨isFront, isSpace⟩ held isLast

/-- What is read as a record is a record. -/
theorem takesValue_of_readRecord {readField : Nat → List Char → Reading α} {depth : Nat}
    (ofField : ∀ s a rest, readField depth s = .ok (a, rest) → TakesValue (holds a) s rest)
    {s rest : List Char} {a : α} (taken : readRecord shape readField (depth + 1) s = .ok (a, rest)) :
    TakesValue (IsRecord shape.field (holds a)) s rest := by
  unfold readRecord at taken
  split at taken
  · cases taken
  · next same => cases same
  · next same => cases same
  · next skipped same =>
    cases same
    exact ((takes_of_readSoleItem ofField taken).mono fun _ => Or.inr).behind_space skipped
  · next skipped same =>
    cases same
    obtain ⟨⟨entries, once, completes⟩, _⟩ := completes_of_readMembers ofField taken
    obtain ⟨earlier, e, later, rfl, named, others⟩ := once.split
    refine (completes.takes_around.mono ?_).behind_space skipped
    rintro _ ⟨space, isSpace, rfl⟩
    exact Or.inl (.mk named others isSpace)
  · cases taken

end Soundness

section Completeness

variable {good : α → Prop} {holds : List Char → Prop}

/-- The reader reads everything of which the second predicate holds, and gives what the first one holds of. -/
def ReadsAll (readField : List Char → Reading α) (good : α → Prop) (holds : List Char → Prop) : Prop :=
  ∀ space value rest, IsSpace space → holds value → EndsValue rest →
    ∃ a, good a ∧ readField (space ++ value ++ rest) = .ok (a, rest)

theorem exists_readMembers {readField : List Char → Reading α} (ofField : ReadsAll readField good holds)
    {isFound : Bool} {entries : List Entry} (once : HasOnce shape.field holds isFound entries) {found? : Option α}
    (found : found?.isSome = isFound) (goodFound : ∀ b, found? = some b → good b) {isFirst : Bool} {s rest : List Char}
    (completes : Completes .object isFirst entries s rest) {fuel : Nat} (enough : entries.length < fuel) :
    ∃ a, good a ∧ readMembers shape readField fuel found? isFirst s = .ok (a, rest) := by
  induction once generalizing found? isFirst s fuel with
  | nil =>
    obtain ⟨fuel, rfl⟩ := Nat.exists_eq_succ_of_ne_zero (Nat.ne_zero_of_lt enough)
    obtain ⟨a, rfl⟩ := Option.isSome_iff_exists.mp found
    obtain ⟨space, isSpace, rfl⟩ := completes.of_nil
    refine ⟨a, goodFound a rfl, ?_⟩
    rw [readMembers, Frame.closing, nextMember_closing isSpace]
  | @named e entries named _ ih =>
    obtain ⟨fuel, rfl⟩ := Nat.exists_eq_succ_of_ne_zero (Nat.ne_zero_of_lt enough)
    obtain rfl := Option.not_isSome_iff_eq_none.mp (Bool.eq_false_iff.mp found)
    obtain ⟨t, gap, more⟩ := completes.of_cons named.fits.2
    obtain ⟨_, _, space, opened, read, colon, isSpace⟩ := exists_label named.label gap
    obtain ⟨b, goodValue, value⟩ := ofField space e.value t isSpace named.value more.endsValue
    have goodNext (c : α) (same : some b = some c) : good c := Option.some.inj same ▸ goodValue
    obtain ⟨a, isGood, taken⟩ := ih rfl goodNext more (Nat.lt_of_succ_lt_succ enough)
    exact ⟨a, isGood, by simp [readMembers, opened, read, colon, -List.append_assoc, value, taken]⟩
  | @other isFound e entries isOther _ ih =>
    obtain ⟨fuel, rfl⟩ := Nat.exists_eq_succ_of_ne_zero (Nat.ne_zero_of_lt enough)
    obtain ⟨t, gap, more⟩ := completes.of_cons isOther.fits.2
    obtain ⟨name, label⟩ := isOther.named
    have otherName : name ≠ shape.field.toList := by
      rintro rfl
      exact isOther.label label
    obtain ⟨_, _, space, opened, read, colon, isSpace⟩ := exists_label label gap
    have skipped := skipValue_append isOther.value isSpace more.endsValue
    obtain ⟨a, isGood, taken⟩ := ih found goodFound more (Nat.lt_of_succ_lt_succ enough)
    exact ⟨a, isGood, by simp [readMembers, opened, read, otherName, colon, -List.append_assoc, skipped, taken]⟩

theorem exists_readSoleItem {readField : List Char → Reading α} (ofField : ReadsAll readField good holds)
    (isValue : ∀ value, holds value → IsValue value) {e : Entry} (fits : e.Fits .list) (held : holds e.value)
    {s rest : List Char} (completes : Completes .list true [e] s rest) :
    ∃ a, good a ∧ readSoleItem shape readField s = .ok (a, rest) := by
  obtain ⟨t, gap, closing⟩ := completes.of_cons fits.2
  obtain ⟨c, u, same, solid, notEnd⟩ := exists_head (isValue _ held)
  obtain ⟨a, isGood, value⟩ := ofField [] e.value t isSpace_nil held closing.endsValue
  have gapToValue : Gap true s (e.front ++ c :: (u ++ t)) := by simpa [same] using gap
  have further := nextItem_of_gap gapToValue fits.1 solid notEnd
  have read : readField (c :: (u ++ t)) = .ok (a, t) := by simpa [same] using value
  obtain ⟨space, isSpace, ending⟩ := closing.of_nil
  have closed : closeList t = .ok rest := ending ▸ closeList_append isSpace
  exact ⟨a, isGood, by simp [readSoleItem, further, read, closed]⟩

/-- Every record is read of which the field is. -/
theorem ReadsAll.readRecord {readField : Nat → List Char → Reading α} {depth : Nat}
    (ofField : ReadsAll (readField depth) good holds) (isValue : ∀ value, holds value → IsValue value) :
    ReadsAll (readRecord shape readField (depth + 1)) good (IsRecord shape.field holds) := by
  intro space value rest isSpace isRecord _
  have opened (frame : Frame) (entries : List Entry) (last : List Char) :
      skipSpace (space ++ frame.around entries last ++ rest) =
        frame.opening :: (Entry.joined entries ++ last ++ frame.closing :: rest) := by
    rw [← skipSpace_append isSpace frame.isSpace_opening]
    simp [Frame.around]
  rcases isRecord with isObject | isList
  · cases isObject with
    | @mk earlier later e last named others isLast =>
      have completes : Completes .object true (earlier ++ e :: later) _ rest := ⟨last, isLast, rfl⟩
      have few := Nat.le_of_add_right_le (Nat.le_of_add_right_le completes.length_le)
      have noneFound (b : α) (same : none = some b) : good b := absurd same.symm (Option.some_ne_none b)
      obtain ⟨a, isGood, taken⟩ := exists_readMembers ofField (HasOnce.of_split named others) Option.isSome_none
        noneFound completes (Nat.lt_succ_of_le few)
      refine ⟨a, isGood, ?_⟩
      unfold ExpectationReport.readRecord
      rw [opened]
      exact taken
  · cases isList with
    | @mk e last fits held isLast =>
      have completes : Completes .list true [e] _ rest := ⟨last, isLast, rfl⟩
      obtain ⟨a, isGood, taken⟩ := exists_readSoleItem ofField isValue fits held completes
      refine ⟨a, isGood, ?_⟩
      unfold ExpectationReport.readRecord
      rw [opened]
      exact taken

end Completeness

end ExpectationReport

end ContractSuite
