import ContractSuite.Proofs.Json.Legibility
import ContractSuite.Proofs.Json.Quotations
import ContractSuite.Proofs.Json.Tokens

namespace ContractSuite.Json

theorem ok_of_map {ε α β : Type} {x : Except ε α} {f : α → β} {b : β} (mapped : x.map f = .ok b) :
    ∃ a, x = .ok a ∧ f a = b := by
  cases x with
  | error _ => cases mapped
  | ok a =>
    cases mapped
    exact ⟨a, rfl, rfl⟩

theorem IsLabel.append_space {isName : List Char → Prop} {front space : List Char} (isLabel : IsLabel isName front)
    (isSpace : IsSpace space) : IsLabel isName (front ++ space) := by
  cases isLabel with
  | mk before name middle after => simpa using IsLabel.mk before name middle (after.append isSpace)

theorem Frame.IsFront.append_space {frame : Frame} (front space : List Char) (isFront : frame.IsFront front)
    (isSpace : IsSpace space) : frame.IsFront (front ++ space) := by
  cases frame with
  | list => exact isFront.append isSpace
  | object => exact IsLabel.append_space isFront isSpace

theorem Frame.IsSpelledFront.append_space {frame : Frame} (front space : List Char)
    (isFront : frame.IsSpelledFront front) (isSpace : IsSpace space) : frame.IsSpelledFront (front ++ space) := by
  cases frame with
  | list => exact isFront.append isSpace
  | object => exact IsLabel.append_space isFront isSpace

/-- What is left of a list or an object: these entries and the end. In front of them stands white space behind an
earlier entry, unless there is none. -/
def Completes (frame : Frame) (isFirst : Bool) (entries : List Entry) (s rest : List Char) : Prop :=
  ∃ space, IsSpace space ∧
    if isFirst then s = Entry.joined entries ++ space ++ frame.closing :: rest
    else ∃ after, IsSpace after ∧ s = after ++ Entry.further entries ++ space ++ frame.closing :: rest

namespace Completes

variable {frame : Frame} {isFirst : Bool} {s t u rest : List Char}

theorem closed (ending : ∃ space, IsSpace space ∧ s = space ++ frame.closing :: rest) :
    Completes frame isFirst [] s rest := by
  obtain ⟨space, isSpace, rfl⟩ := ending
  cases isFirst with
  | true => exact ⟨space, isSpace, rfl⟩
  | false => exact ⟨space, isSpace, [], isSpace_nil, rfl⟩

/-- One more entry in front. White space before its value is counted with what stands in front of it. -/
theorem cons {isFront isPart : List Char → Prop} {entries : List Entry} {v : List Char} (gap : Gap isFirst s t)
    (front : Takes isFront t u)
    (append_space : ∀ front space, isFront front → IsSpace space → isFront (front ++ space))
    (value : TakesValue isPart u v) (completes : Completes frame false entries v rest) :
    ∃ e : Entry, isFront e.front ∧ isPart e.value ∧ IsSpace e.space ∧
      Completes frame isFirst (e :: entries) s rest := by
  obtain ⟨front, isFront, rfl⟩ := front
  obtain ⟨space, part, isSpace, isPart, rfl⟩ := value
  obtain ⟨last, isLast, after, isAfter, rfl⟩ := completes
  refine ⟨⟨front ++ space, part, after⟩, append_space _ _ isFront isSpace, isPart, isAfter, last, isLast, ?_⟩
  cases isFirst with
  | true =>
    subst gap
    simp [Entry.joined, Entry.text]
  | false =>
    obtain ⟨before, isBefore, rfl⟩ := gap
    exact ⟨before, isBefore, by simp [Entry.further, Entry.text]⟩

theorem takes_around {entries : List Entry} (completes : Completes frame true entries s rest) :
    Takes (fun part => ∃ space, IsSpace space ∧ part = frame.around entries space) (frame.opening :: s) rest := by
  obtain ⟨space, isSpace, rfl⟩ := completes
  exact ⟨_, ⟨space, isSpace, rfl⟩, by simp [Frame.around]⟩

end Completes

/-- Entries with such parts. -/
def Entry.Are (isFront isPart : List Char → Prop) (entries : List Entry) : Prop :=
  ∀ e ∈ entries, (isFront e.front ∧ IsSpace e.space) ∧ isPart e.value

theorem IsValue.around {frame : Frame} (entries : List Entry) (space : List Char)
    (values : Entry.Are frame.IsFront IsValue entries) (isSpace : IsSpace space) :
    IsValue (frame.around entries space) :=
  .nest (fun e member => (values e member).1) (fun e member => (values e member).2) isSpace

theorem IsLegible.around {depth : ℕ} {frame : Frame} (entries : List Entry) (space : List Char)
    (values : Entry.Are frame.IsSpelledFront (IsLegible depth) entries) (isSpace : IsSpace space) :
    IsLegible (depth + 1) (frame.around entries space) :=
  .nest (fun e member => (values e member).1) (fun e member => (values e member).2) isSpace

/-- A list or an object with such entries is left to be completed. -/
def IsOpen (isFront isPart : List Char → Prop) (frame : Frame) (isFirst : Bool) (s rest : List Char) : Prop :=
  ∃ entries, Entry.Are isFront isPart entries ∧ Completes frame isFirst entries s rest

namespace IsOpen

variable {isFront isPart : List Char → Prop} {frame : Frame} {isFirst : Bool} {s t u v rest : List Char}

theorem cons (append_space : ∀ front space, isFront front → IsSpace space → isFront (front ++ space))
    (gap : Gap isFirst s t) (front : Takes isFront t u) (value : TakesValue isPart u v)
    (isOpen : IsOpen isFront isPart frame false v rest) : IsOpen isFront isPart frame isFirst s rest := by
  obtain ⟨entries, values, completes⟩ := isOpen
  obtain ⟨e, isFront, isPart, isSpace, longer⟩ := Completes.cons gap front append_space value completes
  exact ⟨e :: entries, List.forall_mem_cons.mpr ⟨⟨⟨isFront, isSpace⟩, isPart⟩, values⟩, longer⟩

theorem closed (ending : ∃ space, IsSpace space ∧ s = space ++ frame.closing :: rest) :
    IsOpen isFront isPart frame isFirst s rest :=
  ⟨[], List.forall_mem_nil _, .closed ending⟩

/-- A bracket or brace and what completes it are a value. -/
theorem takesValue {isWhole : List Char → Prop}
    (around : ∀ entries space, Entry.Are isFront isPart entries → IsSpace space → isWhole (frame.around entries space))
    (isOpen : IsOpen isFront isPart frame true t rest) (skipped : skipSpace s = frame.opening :: t) :
    TakesValue isWhole s rest := by
  obtain ⟨entries, values, completes⟩ := isOpen
  refine (completes.takes_around.mono ?_).behind_space skipped
  rintro _ ⟨space, isSpace, rfl⟩
  exact around entries space values isSpace

end IsOpen

theorem takes_word {isPart : List Char → Prop} {c : Char} {letters s rest : List Char} (isWord : isPart (c :: letters))
    (spelled : word letters s = .ok rest) : Takes isPart (c :: s) rest := by
  obtain rfl := eq_of_word spelled
  exact ⟨_, isWord, rfl⟩

theorem takes_quoted {isPart : List Char → Prop} {quote : List Char} (isQuoted : isPart ('"' :: quote ++ ['"']))
    (rest : List Char) : Takes isPart ('"' :: quote ++ '"' :: rest) rest :=
  ⟨_, isQuoted, by simp⟩

theorem takes_negative {s rest : List Char} (takes : Takes IsUnsigned s rest) : Takes IsValue ('-' :: s) rest := by
  obtain ⟨number, isUnsigned, rfl⟩ := takes
  exact ⟨_, .negative isUnsigned, rfl⟩

/-- The label of a member, of which the quote that opens its name has been taken. -/
theorem takes_label {isName : List Char → Prop} {t s u quote rest : List Char}
    (opened : Takes (fun front => ∃ space, IsSpace space ∧ front = space ++ ['"']) t s)
    (named : s = quote ++ '"' :: u) (isName' : isName quote) (colon : colon u = .ok rest) :
    Takes (IsLabel isName) t rest := by
  obtain ⟨_, ⟨before, isBefore, rfl⟩, rfl⟩ := opened
  obtain ⟨middle, isMiddle, rfl⟩ := takes_of_colon colon
  subst named
  exact ⟨_, .mk isBefore isName' isMiddle isSpace_nil, by simp⟩

/-- One more member in front, of which the name has been read. -/
theorem Completes.cons_member {isPart : List Char → Prop} {isFirst : Bool} {s t u v w rest name : List Char}
    {entries : List Entry} (further : nextMember isFirst s = .ok (.further t))
    (named : Quotation.read t = .ok (name, u)) (colon : colon u = .ok v) (value : TakesValue isPart v w)
    (completes : Completes .object false entries w rest) :
    ∃ e : Entry, e.Fits .object ∧ IsLabel (Spells · name) e.front ∧ isPart e.value ∧
      Completes .object isFirst (e :: entries) s rest := by
  obtain ⟨between, gap, opened⟩ := fits_of_nextMember further
  obtain ⟨quote, same, spells⟩ := Quotation.spells_of_read named
  have front : Takes (IsLabel (Spells · name)) between v := takes_label opened same spells colon
  obtain ⟨e, label, isPart, isSpace, longer⟩ :=
    Completes.cons gap front (fun _ _ => IsLabel.append_space) value completes
  exact ⟨e, ⟨label.mono fun _ => Spells.isQuote, isSpace⟩, label, isPart, longer⟩

namespace Value

/-- The three readers take what they should. -/
theorem reads (fuel : Nat) :
    (∀ depth s v rest, read fuel depth s = .ok (v, rest) → TakesValue (IsLegible depth) s rest) ∧
    (∀ depth items s v rest, readItems fuel depth items s = .ok (v, rest) →
      IsOpen Frame.list.IsSpelledFront (IsLegible depth) .list items.isEmpty s rest) ∧
    (∀ depth members s v rest, readMembers fuel depth members s = .ok (v, rest) →
      IsOpen Frame.object.IsSpelledFront (IsLegible depth) .object members.isEmpty s rest) := by
  -- The readers call each other with less fuel, so that one induction has to carry all three.
  induction fuel with
  | zero => exact ⟨fun _ _ _ _ taken => (nomatch taken), fun _ _ _ _ _ taken => (nomatch taken),
      fun _ _ _ _ _ taken => (nomatch taken)⟩
  | succ fuel ih =>
    obtain ⟨ofRead, ofItems, ofMembers⟩ := ih
    refine ⟨fun depth s v rest taken => ?_, fun depth items s v rest taken => ?_,
      fun depth members s v rest taken => ?_⟩
    · unfold read at taken
      split at taken
      · cases taken
      · next skipped =>
        obtain ⟨t, spelled, same⟩ := ok_of_map taken
        cases same
        exact (takes_word .null spelled).behind_space skipped
      · next skipped =>
        obtain ⟨t, spelled, same⟩ := ok_of_map taken
        cases same
        exact (takes_word .true spelled).behind_space skipped
      · next skipped =>
        obtain ⟨t, spelled, same⟩ := ok_of_map taken
        cases same
        exact (takes_word .false spelled).behind_space skipped
      · next skipped =>
        obtain ⟨⟨chars, t⟩, quoted, same⟩ := ok_of_map taken
        cases same
        obtain ⟨quote, rfl, spells⟩ := Quotation.spells_of_read quoted
        exact (takes_quoted (.quoted ⟨_, spells⟩) rest).behind_space skipped
      · next skipped =>
        obtain ⟨⟨n, t⟩, number, same⟩ := ok_of_map taken
        cases same
        obtain ⟨numeral, inRange, digits, writes, rfl⟩ := Number.takes_of_read number
        exact Takes.behind_space ⟨_, .negative writes inRange, rfl⟩ skipped
      · next skipped =>
        split at taken
        · cases taken
        · exact (ofItems _ _ _ _ _ taken).takesValue IsLegible.around skipped
      · next skipped =>
        split at taken
        · cases taken
        · exact (ofMembers _ _ _ _ _ taken).takesValue IsLegible.around skipped
      · next skipped =>
        split at taken
        · obtain ⟨⟨n, t⟩, number, same⟩ := ok_of_map taken
          cases same
          obtain ⟨numeral, inRange, takes⟩ := Number.takes_of_read number
          exact (takes.mono fun _ writes => .number writes inRange).behind_space skipped
        · cases taken
    · unfold readItems at taken
      split at taken
      · cases taken
      · next found =>
        cases taken
        exact .closed (fits_of_nextItem found)
      · next found =>
        obtain ⟨t, gap, front⟩ := fits_of_nextItem found
        split at taken
        · cases taken
        · next value =>
          exact .cons Frame.IsSpelledFront.append_space gap front (ofRead _ _ _ _ value) (ofItems _ _ _ _ _ taken)
    · unfold readMembers at taken
      split at taken
      · cases taken
      · next found =>
        cases taken
        exact .closed (fits_of_nextMember found)
      · next found =>
        obtain ⟨t, gap, opened⟩ := fits_of_nextMember found
        split at taken
        · cases taken
        · next named =>
          obtain ⟨quote, same, spells⟩ := Quotation.spells_of_read named
          split at taken
          · cases taken
          · next colon =>
            split at taken
            · cases taken
            · next value =>
              have front : Takes (IsLabel IsSpellable) _ _ := takes_label opened same ⟨_, spells⟩ colon
              exact .cons Frame.IsSpelledFront.append_space gap front (ofRead _ _ _ _ value)
                (ofMembers _ _ _ _ _ taken)

end Value

theorem takesValue_of_readValue {depth : Nat} {s rest : List Char} {v : Value}
    (taken : readValue depth s = .ok (v, rest)) : TakesValue (IsLegible depth) s rest :=
  (Value.reads _).1 _ _ _ _ taken

section Skipping

variable {s rest : List Char}

theorem takes_of_skipScalar (taken : skipScalar s = .ok rest) : Takes IsValue s rest := by
  unfold skipScalar at taken
  split at taken
  · cases taken
  · exact takes_word .null taken
  · exact takes_word .true taken
  · exact takes_word .false taken
  · obtain ⟨quote, rfl, isQuote⟩ := Quotation.isQuote_of_skip taken
    exact takes_quoted (.quoted isQuote) rest
  · exact takes_negative (Number.takes_of_skip taken)
  · split at taken
    · exact (Number.takes_of_skip taken).mono fun _ => .number
    · cases taken

theorem fits_of_enterFrame {frame : Frame} {isFirst : Bool} {next : Next}
    (found : enterFrame frame isFirst s = .ok next) : next.Fits isFirst frame.closing frame.IsFront s := by
  cases frame with
  | list => exact fits_of_nextItem found
  | object =>
    unfold enterFrame at found
    dsimp only at found
    split at found
    · cases found
    · next closed =>
      cases found
      exact fits_of_nextMember closed
    · next opened =>
      split at found
      · cases found
      · next skipped =>
        obtain ⟨_, colon, rfl⟩ := ok_of_map found
        obtain ⟨t, gap, front⟩ := fits_of_nextMember opened
        obtain ⟨quote, same, isQuote⟩ := Quotation.isQuote_of_skip skipped
        exact ⟨t, gap, takes_label front same isQuote colon⟩

/-- What completes all lists and objects that are open, the innermost first. -/
inductive Closes : List Frame → List Char → List Char → Prop
  | nil (s : List Char) : Closes [] s s
  | cons {frame : Frame} {frames : List Frame} {s t rest : List Char} : IsOpen frame.IsFront IsValue frame false s t →
      Closes frames t rest → Closes (frame :: frames) s rest

/-- What is skipped from a value on is that value and what completes the open frames; from within a frame on it is
what completes that frame and the others. -/
theorem closes_of_skipFrom (fuel : Nat) :
    (∀ frames s rest, skipFrom fuel .atValue frames s = .ok rest →
      ∃ t, TakesValue IsValue s t ∧ Closes frames t rest) ∧
    (∀ isFirst frame frames s rest, skipFrom fuel (.inFrame isFirst) (frame :: frames) s = .ok rest →
      ∃ t, IsOpen frame.IsFront IsValue frame isFirst s t ∧ Closes frames t rest) ∧
    (∀ frames s rest, skipFrom fuel (.inFrame false) frames s = .ok rest → Closes frames s rest) := by
  induction fuel with
  | zero => exact ⟨fun _ _ _ taken => (nomatch taken), fun _ _ _ _ _ taken => (nomatch taken),
      fun _ _ _ taken => (nomatch taken)⟩
  | succ fuel ih =>
    obtain ⟨atValue, inFrame, behind⟩ := ih
    -- Whether an entry has been read yet makes no difference to what completes a frame.
    have entering (isFirst : Bool) (frame : Frame) (frames : List Frame) (s rest : List Char)
        (taken : skipFrom (fuel + 1) (.inFrame isFirst) (frame :: frames) s = .ok rest) :
        ∃ t, IsOpen frame.IsFront IsValue frame isFirst s t ∧ Closes frames t rest := by
      unfold skipFrom at taken
      split at taken
      · cases taken
      · next found => exact ⟨_, .closed (fits_of_enterFrame found), behind _ _ _ taken⟩
      · next found =>
        obtain ⟨t, gap, front⟩ := fits_of_enterFrame found
        obtain ⟨u, value, closes⟩ := atValue _ _ _ taken
        cases closes with
        | cons isOpen closes => exact ⟨_, .cons Frame.IsFront.append_space gap front value isOpen, closes⟩
    refine ⟨fun frames s rest taken => ?_, entering, fun frames s rest taken => ?_⟩
    · unfold skipFrom at taken
      split at taken
      · next skipped =>
        obtain ⟨t, isOpen, closes⟩ := inFrame _ _ _ _ _ taken
        exact ⟨t, isOpen.takesValue IsValue.around skipped, closes⟩
      · next skipped =>
        obtain ⟨t, isOpen, closes⟩ := inFrame _ _ _ _ _ taken
        exact ⟨t, isOpen.takesValue IsValue.around skipped, closes⟩
      · split at taken
        · cases taken
        · next scalar => exact ⟨_, (takes_of_skipScalar scalar).behind_space rfl, behind _ _ _ taken⟩
    · cases frames with
      | nil =>
        cases taken
        exact .nil _
      | cons frame frames =>
        obtain ⟨t, isOpen, closes⟩ := entering _ _ _ _ _ taken
        exact .cons isOpen closes

theorem takesValue_of_skipValue (taken : skipValue s = .ok rest) : TakesValue IsValue s rest := by
  obtain ⟨t, value, closes⟩ := (closes_of_skipFrom _).1 _ _ _ taken
  cases closes
  exact value

end Skipping

end ContractSuite.Json
