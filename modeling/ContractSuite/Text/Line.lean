namespace ContractSuite.Text

/-- A text cut after each line feed. Nothing is lost, and no piece is empty. -/
def pieces : List Char → List (List Char)
  | [] => []
  | c :: rest =>
    if c = '\n' then [c] :: pieces rest
    else match pieces rest with
      | [] => [[c]]
      | piece :: more => (c :: piece) :: more

/-- A piece without its line end. A carriage return that no line feed follows belongs to the line. -/
def lineBody (piece : List Char) : List Char :=
  match piece.reverse with
  | '\n' :: '\r' :: body => body.reverse
  | '\n' :: body => body.reverse
  | _ => piece

/-- The lines of a text, without their line ends. -/
def lines (text : String) : List String :=
  (pieces text.toList).map fun piece => String.ofList (lineBody piece)

theorem pieces_flatten (s : List Char) : (pieces s).flatten = s := by
  induction s with
  | nil => rfl
  | cons c rest ih =>
    rw [pieces]
    split
    · simp [ih]
    · split
      · next empty => rw [empty] at ih; simp at ih; simp [← ih]
      · next piece more found => rw [found] at ih; simp at ih; simp [← ih]

theorem pieces_append_of_lineFeed (s t : List Char) :
    pieces (s ++ '\n' :: t) = pieces (s ++ ['\n']) ++ pieces t := by
  induction s with
  | nil => simp [pieces]
  | cons c rest ih =>
    simp only [List.cons_append, pieces]
    split
    · simp [ih]
    · rw [ih]
      cases first : pieces (rest ++ ['\n']) with
      | nil =>
        have := congrArg List.flatten first
        simp [pieces_flatten] at this
      | cons piece more => simp

/-- Induction on the lines of a text. -/
@[elab_as_elim]
theorem induction_on_lines {motive : List Char → Prop} (s : List Char) (last : ∀ s, '\n' ∉ s → motive s)
    (line : ∀ s t, '\n' ∉ s → motive t → motive (s ++ '\n' :: t)) : motive s := by
  by_cases ends : '\n' ∈ s
  · obtain ⟨first, rest, rfl, within⟩ := List.eq_append_cons_of_mem ends
    exact line first rest within (induction_on_lines rest last line)
  · exact last s ends
termination_by s.length
decreasing_by simp_all; omega

theorem pieces_of_not_mem {s : List Char} (within : '\n' ∉ s) (nonempty : s ≠ []) : pieces s = [s] := by
  induction s with
  | nil => exact absurd rfl nonempty
  | cons c rest ih =>
    rw [List.mem_cons, not_or] at within
    rw [pieces, if_neg (Ne.symm within.1)]
    cases rest with
    | nil => rfl
    | cons d more => rw [ih within.2 (List.cons_ne_nil d more)]

theorem pieces_append_cons {s : List Char} (within : '\n' ∉ s) (t : List Char) :
    pieces (s ++ '\n' :: t) = (s ++ ['\n']) :: pieces t := by
  induction s with
  | nil => rw [List.nil_append, pieces, if_pos rfl, List.nil_append]
  | cons c rest ih =>
    rw [List.mem_cons, not_or] at within
    rw [List.cons_append, pieces, if_neg (Ne.symm within.1), ih within.2, List.cons_append]

theorem lineBody_of_not_mem {s : List Char} (within : '\n' ∉ s) : lineBody s = s := by
  unfold lineBody
  split
  · next ending => exact absurd (List.mem_reverse.mp (ending ▸ List.mem_cons_self)) within
  · next ending => exact absurd (List.mem_reverse.mp (ending ▸ List.mem_cons_self)) within
  · rfl

/-- A line end is a line feed, or a carriage return and a line feed. -/
theorem lineBody_append_lineFeed (s : List Char) :
    lineBody (s ++ ['\n']) = s ∨ lineBody (s ++ ['\n']) ++ ['\r'] = s := by
  rw [lineBody, List.reverse_append, List.reverse_singleton, List.singleton_append]
  split
  · next ending =>
    rw [List.cons.injEq] at ending
    right
    rw [← List.reverse_cons, ← ending.2, List.reverse_reverse]
  · next ending =>
    rw [List.cons.injEq] at ending
    left
    rw [← ending.2, List.reverse_reverse]
  · next _ other => exact absurd rfl (other s.reverse)

theorem lines_of_not_mem {s : List Char} (within : '\n' ∉ s) (nonempty : s ≠ []) :
    lines (String.ofList s) = [String.ofList s] := by
  rw [lines, String.toList_ofList, pieces_of_not_mem within nonempty, List.map_singleton,
    lineBody_of_not_mem within]

theorem lines_append_cons {s : List Char} (within : '\n' ∉ s) (t : List Char) :
    lines (String.ofList (s ++ '\n' :: t)) =
      String.ofList (lineBody (s ++ ['\n'])) :: lines (String.ofList t) := by
  rw [lines, String.toList_ofList, pieces_append_cons within, List.map_cons, lines, String.toList_ofList]

/-- A line holds no line feed. -/
theorem not_mem_of_mem_lines {text line : String} (isLine : line ∈ lines text) : '\n' ∉ line.toList := by
  obtain ⟨s, rfl⟩ : ∃ s, text = String.ofList s := ⟨text.toList, String.ofList_toList.symm⟩
  induction s using induction_on_lines with
  | last s within =>
    by_cases empty : s = []
    · subst empty
      simp [lines, pieces] at isLine
    · rw [lines_of_not_mem within empty, List.mem_singleton] at isLine
      rwa [isLine, String.toList_ofList]
  | line s t within ih =>
    rw [lines_append_cons within, List.mem_cons] at isLine
    rcases isLine with rfl | later
    · rw [String.toList_ofList]
      rcases lineBody_append_lineFeed s with body | body
      · rwa [body]
      · intro inside
        exact within (body ▸ List.mem_append_left _ inside)
    · exact ih later

/-- Holds of the texts after which a new line begins. -/
def EndsLine (text : String) : Prop :=
  text = "" ∨ text.toList.getLast? = some '\n'

instance (text : String) : Decidable (EndsLine text) :=
  inferInstanceAs (Decidable (_ ∨ _))

theorem EndsLine.lines_append {text : String} (ended : EndsLine text) (more : String) :
    lines (text ++ more) = lines text ++ lines more := by
  rcases ended with rfl | last
  · rw [String.empty_append]
    rfl
  · obtain ⟨front, split⟩ := List.getLast?_eq_some_iff.mp last
    rw [lines, String.toList_append, split, List.append_assoc, List.singleton_append,
      pieces_append_of_lineFeed, List.map_append, lines, split, lines]

/-- Lines that are put together with line feeds between them are the lines of the text. -/
theorem lines_intercalate {texts : List String} (nonempty : ∀ text ∈ texts, text ≠ "")
    (within : ∀ text ∈ texts, '\n' ∉ text.toList)
    (noReturn : ∀ text ∈ texts, text.toList.getLast? ≠ some '\r') :
    lines ("\n".intercalate texts) = texts := by
  induction texts with
  | nil => rfl
  | cons first rest ih =>
    have later := ih (fun text member => nonempty text (List.mem_cons_of_mem first member))
      (fun text member => within text (List.mem_cons_of_mem first member))
      (fun text member => noReturn text (List.mem_cons_of_mem first member))
    have here := within first List.mem_cons_self
    cases rest with
    | nil =>
      have filled : first.toList ≠ [] := by simpa using nonempty first List.mem_cons_self
      rw [String.intercalate_singleton, ← String.ofList_toList (s := first), lines_of_not_mem here filled]
    | cons second more =>
      have body : lineBody (first.toList ++ ['\n']) = first.toList := by
        rcases lineBody_append_lineFeed first.toList with same | carriage
        · exact same
        · refine absurd ?_ (noReturn first List.mem_cons_self)
          rw [← carriage, List.getLast?_concat]
      have split : "\n".intercalate (first :: second :: more) =
          String.ofList (first.toList ++ '\n' :: ("\n".intercalate (second :: more)).toList) := by
        apply String.toList_injective
        rw [String.intercalate_cons_cons]
        simp
      rw [split, lines_append_cons here, body, String.ofList_toList, String.ofList_toList, later]

end ContractSuite.Text
