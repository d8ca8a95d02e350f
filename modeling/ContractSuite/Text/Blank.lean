namespace ContractSuite.Text

/-- The characters with the property `White_Space`. -/
def isBlank (c : Char) : Bool :=
  let n := c.toNat
  (9 ≤ n && n ≤ 13) || n == 0x20 || n == 0x85 || n == 0xA0 || n == 0x1680 ||
  (0x2000 ≤ n && n ≤ 0x200A) || n == 0x2028 || n == 0x2029 || n == 0x202F || n == 0x205F ||
  n == 0x3000

/-- A text without the blanks at its end. -/
def trimRight (s : List Char) : List Char :=
  (s.reverse.dropWhile isBlank).reverse

/-- A text without the blanks at its two ends. -/
def trimBlank (s : List Char) : List Char :=
  trimRight (s.dropWhile isBlank)

/-- A string without the blanks at its two ends. -/
def trim (s : String) : String :=
  String.ofList (trimBlank s.toList)

/-- Holds of a string that has nothing but blanks. -/
def isBlankText (s : String) : Bool :=
  s.toList.all isBlank

theorem trimBlank_cons_of_isBlank {c : Char} (blank : isBlank c = true) (s : List Char) :
    trimBlank (c :: s) = trimBlank s := by
  rw [trimBlank, List.dropWhile_cons_of_pos blank, trimBlank]

theorem trimBlank_infix (s : List Char) : trimBlank s <:+: s := by
  have front := (List.dropWhile_suffix isBlank (l := (s.dropWhile isBlank).reverse)).reverse
  rw [List.reverse_reverse] at front
  exact front.isInfix.trans (List.dropWhile_suffix isBlank).isInfix

/-- Only blanks are trimmed. -/
theorem mem_trimBlank {s : List Char} {c : Char} (inside : c ∈ s) (solid : isBlank c = false) :
    c ∈ trimBlank s := by
  have kept (t : List Char) (member : c ∈ t) : c ∈ t.dropWhile isBlank := by
    rw [← List.takeWhile_append_dropWhile (p := isBlank) (l := t), List.mem_append] at member
    rcases member with front | rest
    · have blank := List.all_eq_true.mp (List.all_takeWhile (p := isBlank) (l := t)) c front
      simp [solid] at blank
    · exact rest
  rw [trimBlank, trimRight, List.mem_reverse]
  exact kept _ (List.mem_reverse.mpr (kept s inside))

/-- All blanks at the end are trimmed. -/
theorem not_isBlank_of_getLast?_trimBlank {s : List Char} {c : Char} (last : (trimBlank s).getLast? = some c) :
    isBlank c = false := by
  rw [trimBlank, trimRight, List.getLast?_reverse] at last
  have front := List.head?_dropWhile_not isBlank (s.dropWhile isBlank).reverse
  rwa [last] at front

theorem trimRight_cons {c : Char} (solid : isBlank c = false) (s : List Char) :
    trimRight (c :: s) = c :: trimRight s := by
  rw [trimRight, List.reverse_cons, List.dropWhile_append]
  split
  · next empty =>
    rw [List.isEmpty_iff] at empty
    simp [trimRight, empty, solid]
  · rw [List.reverse_append, List.reverse_singleton, List.singleton_append, trimRight]

theorem not_isBlank_of_head?_trimBlank {s : List Char} {c : Char} (first : (trimBlank s).head? = some c) :
    isBlank c = false := by
  have front := List.head?_dropWhile_not isBlank s
  rw [trimBlank] at first
  cases rest : s.dropWhile isBlank with
  | nil => simp [rest, trimRight] at first
  | cons d more =>
    have solid : isBlank d = false := by simpa [rest] using front
    rw [rest, trimRight_cons solid, List.head?_cons, Option.some.injEq] at first
    rwa [← first]

theorem trimBlank_eq_self {s : List Char} (first : ∀ c, s.head? = some c → isBlank c = false)
    (last : ∀ c, s.getLast? = some c → isBlank c = false) : trimBlank s = s := by
  have solid (t : List Char) (front : ∀ c, t.head? = some c → isBlank c = false) : t.dropWhile isBlank = t := by
    cases t with
    | nil => rfl
    | cons c more => rw [List.dropWhile_cons_of_neg (by simp [front c rfl])]
  rw [trimBlank, solid s first, trimRight, solid s.reverse (by simpa using last), List.reverse_reverse]

theorem trimBlank_trimBlank (s : List Char) : trimBlank (trimBlank s) = trimBlank s :=
  trimBlank_eq_self (fun _ => not_isBlank_of_head?_trimBlank) (fun _ => not_isBlank_of_getLast?_trimBlank)

theorem trim_eq_self_iff {s : String} : trim s = s ↔ trimBlank s.toList = s.toList := by
  rw [← String.toList_inj, trim, String.toList_ofList]

end ContractSuite.Text
