import ContractSuite.Proofs.Url.Authority

namespace ContractSuite.Url

theorem isPlace_of_mem {c : Char} {segment : List Char} (inside : c ∈ segment)
    (foreign : c.toLower ∉ ['.', '%', '2', 'e']) : isHere segment = false ∧ isAbove segment = false := by
  have lowered : c.toLower ∈ segment.map Char.toLower := List.mem_map_of_mem inside
  have differs (other : List Char) (marks : other ⊆ ['.', '%', '2', 'e']) :
      (segment.map Char.toLower == other) = false := by
    rw [beq_eq_false_iff_ne]
    rintro same
    exact foreign (marks (same ▸ lowered))
  unfold isHere isAbove
  dsimp only
  rw [differs _ (by decide), differs _ (by decide), differs _ (by decide), differs _ (by decide), differs _ (by decide),
    differs _ (by decide)]
  exact ⟨rfl, rfl⟩

theorem resolveSegments_cons {segment : List Char} (here : isHere segment = false) (above : isAbove segment = false)
    (found more : List (List Char)) : resolveSegments found (segment :: more) =
      resolveSegments (Text.Percent.encode isEscapedInPath segment :: found) more := by
  rw [resolveSegments]
  simp only [above, here, Bool.false_eq_true, if_false]

theorem mem_resolveSegments {segment last : List Char} (here : isHere segment = false)
    (above : isAbove segment = false) (lastHere : isHere last = false) (lastAbove : isAbove last = false)
    (earlier found : List (List Char)) :
    Text.Percent.encode isEscapedInPath segment ∈ resolveSegments found (earlier ++ [segment, last]) := by
  induction earlier generalizing found with
  | nil =>
    rw [List.nil_append, resolveSegments_cons here above, resolveSegments_cons lastHere lastAbove, resolveSegments]
    simp
  | cons first more ih =>
    rw [List.cons_append, resolveSegments]
    split
    · exact ih _
    · split
      · exact ih _
      · exact ih _

theorem mem_pathText {c : Char} {segment : List Char} {segments : List (List Char)} (inside : c ∈ segment)
    (isSegment : segment ∈ segments) : c ∈ (pathText segments).toList := by
  unfold pathText
  rw [String.toList_ofList]
  exact List.mem_flatMap.mpr ⟨segment, isSegment, List.mem_cons_of_mem _ inside⟩

theorem endsAuthority_eq (c : Char) : endsAuthority c = (isSlash c || !isPathChar c) := by
  unfold endsAuthority isPathChar
  rw [Bool.or_assoc, Bool.not_and]
  simp [bne]

theorem isSlash_of_inside {c : Char} (inside : endsAuthority c = false) : isSlash c = false := by
  rw [endsAuthority_eq, Bool.or_eq_false_iff] at inside
  exact inside.1

theorem isPathChar_of_inside {c : Char} (inside : endsAuthority c = false) : isPathChar c = true := by
  rw [endsAuthority_eq, Bool.or_eq_false_iff, Bool.not_eq_false'] at inside
  exact inside.2

theorem isPathChar_of_isSlash {c : Char} (slash : isSlash c = true) : isPathChar c = true := by
  unfold isSlash at slash
  rcases Bool.or_eq_true_iff.mp slash with same | same <;> rw [beq_iff_eq.mp same] <;> rfl

/-- A colon that only one further segment follows stays in the path. -/
theorem colon_mem_pathBehind {slash : Char} (opens : isSlash slash = true) {front back word : List Char}
    (inFront : ∀ c ∈ front, isPathChar c = true) (inBack : ∀ c ∈ back, endsAuthority c = false)
    (inWord : ∀ c ∈ word, endsAuthority c = false) (here : isHere word = false) (above : isAbove word = false) :
    ':' ∈ (pathBehind (slash :: (front ++ ':' :: (back ++ '/' :: word)))).toList := by
  have whole : (slash :: (front ++ ':' :: (back ++ '/' :: word))).takeWhile isPathChar =
      slash :: (front ++ ':' :: (back ++ '/' :: word)) := by
    rw [List.takeWhile_eq_self_iff]
    intro c inside
    simp only [List.mem_cons, List.mem_append] at inside
    rcases inside with rfl | inside | rfl | inside | rfl | inside
    · exact isPathChar_of_isSlash opens
    · exact inFront c inside
    · rfl
    · exact isPathChar_of_inside (inBack c inside)
    · rfl
    · exact isPathChar_of_inside (inWord c inside)
  have noSlash : ∀ c ∈ ':' :: back, isSlash c = false := by
    intro c inside
    rcases List.mem_cons.mp inside with rfl | inside
    · rfl
    · exact isSlash_of_inside (inBack c inside)
  obtain ⟨earlier, segment, cut, inside⟩ := Text.exists_last_part front noSlash
  have segments : (slashSegments (slash :: (front ++ ':' :: (back ++ '/' :: word)))).drop 1 =
      earlier ++ [segment, word] := by
    have split : front ++ ':' :: (back ++ '/' :: word) = front ++ ':' :: back ++ '/' :: word := by simp
    unfold slashSegments
    rw [split, Text.parts, if_pos opens, List.drop_one, List.tail_cons, Text.parts_append_cons (by rfl), cut,
      Text.parts_of_no_separator fun c isIn => isSlash_of_inside (inWord c isIn), List.append_assoc]
    rfl
  obtain ⟨segmentHere, segmentAbove⟩ := isPlace_of_mem inside (by decide)
  unfold pathBehind
  rw [whole, segments, if_neg (by simp)]
  exact mem_pathText (Text.Percent.mem_encode (by decide) (by decide) (by decide) inside)
    (mem_resolveSegments segmentHere segmentAbove here above earlier [])

theorem fragment_readTail {s : List Char} (hash : '#' ∈ s) : (readTail s).2.isSome = true := by
  obtain ⟨front, back, rfl, absent⟩ := List.eq_append_cons_of_mem hash
  have cut : (front ++ '#' :: back).takeWhile (· != '#') = front := by
    refine takeWhile_append_of_ends (fun c inside => ?_) (by simp)
    simpa using ne_of_mem_of_not_mem inside absent
  unfold readTail
  dsimp only
  rw [cut, List.drop_left]
  split <;> rfl

theorem readTail_query {query : List Char} (noHash : '#' ∉ query) :
    readTail ('?' :: query) = (some (String.ofList (Text.Percent.encode isEscapedInQuery query)), none) := by
  have whole : ('?' :: query).takeWhile (· != '#') = '?' :: query := by
    rw [List.takeWhile_eq_self_iff]
    intro c inside
    rcases List.mem_cons.mp inside with rfl | inside
    · rfl
    · simpa using ne_of_mem_of_not_mem inside noHash
  unfold readTail
  dsimp only
  rw [whole, List.drop_length]
  rfl

/-- Where the colon of the port is found if a delimiter in the host has ended the authority before it: in the path, or
in the query, or there is a fragment. -/
theorem IsReadFrom.colon_behind {scheme : Scheme} {authority front back word : List Char} {delimiter : Char}
    (ends : endsAuthority delimiter = true) (inBack : ∀ c ∈ back, endsAuthority c = false)
    (inWord : ∀ c ∈ word, endsAuthority c = false) (here : isHere word = false) (above : isAbove word = false)
    {url : Url} (read : IsReadFrom scheme authority (delimiter :: (front ++ ':' :: (back ++ '/' :: word))) url) :
    ':' ∈ url.path.toList ∨ url.fragment.isSome = true ∨ ∃ query, url.query = some query ∧ ':' ∈ query.toList := by
  have noHash {s : List Char} (inside : ∀ c ∈ s, endsAuthority c = false) : '#' ∉ s := by
    intro hash
    cases inside '#' hash
  -- The first question mark or hash of the host decides in which part the colon is.
  cases first : (delimiter :: front).find? (!isPathChar ·) with
  | none =>
    rw [List.find?_eq_none] at first
    have pathChars : ∀ c ∈ delimiter :: front, isPathChar c = true := by simpa using first
    have slash : isSlash delimiter = true := by
      rwa [endsAuthority_eq, pathChars delimiter List.mem_cons_self, Bool.not_true, Bool.or_false] at ends
    rw [read.path_eq]
    exact Or.inl (colon_mem_pathBehind slash (fun c inside => pathChars c (List.mem_cons_of_mem _ inside)) inBack inWord
      here above)
  | some mark =>
    obtain ⟨noPathChar, earlier, later, cut, pathChars⟩ := List.find?_eq_some_iff_append.mp first
    rw [Bool.not_eq_true'] at noPathChar
    have behind : delimiter :: (front ++ ':' :: (back ++ '/' :: word)) =
        earlier ++ mark :: (later ++ ':' :: (back ++ '/' :: word)) := by
      rw [← List.cons_append, cut]
      simp
    have path : (earlier ++ mark :: (later ++ ':' :: (back ++ '/' :: word))).takeWhile isPathChar = earlier := by
      refine takeWhile_append_of_ends (fun c inside => by simpa using pathChars c inside) fun c isFirst => ?_
      cases isFirst
      exact noPathChar
    have tail := read.tail_eq
    rw [behind, path, List.drop_left] at tail
    by_cases hash : '#' ∈ mark :: later
    · have fragment := fragment_readTail (s := mark :: (later ++ ':' :: (back ++ '/' :: word)))
        (by rw [← List.cons_append]; exact List.mem_append_left _ hash)
      rw [← tail] at fragment
      exact Or.inr (Or.inl fragment)
    · rw [List.mem_cons, not_or] at hash
      obtain rfl : mark = '?' := by
        unfold isPathChar at noPathChar
        simp only [Bool.and_eq_false_iff, bne_eq_false_iff_eq] at noPathChar
        exact noPathChar.resolve_right fun same => hash.1 same.symm
      rw [readTail_query (by simp [hash.2, noHash inBack, noHash inWord])] at tail
      refine Or.inr (Or.inr ⟨_, congrArg Prod.fst tail, ?_⟩)
      rw [String.toList_ofList]
      exact Text.Percent.mem_encode (by decide) (by decide) (by decide) (by simp)

/-- An address up to its query. -/
def withoutQuery (u : Url) : Url :=
  { u with query := none }

theorem withoutQuery_addParameters (u : Url) (parameters : List (String × String)) :
    (u.addParameters parameters).withoutQuery = u.withoutQuery := by
  unfold addParameters
  dsimp only
  split <;> rfl

theorem query_addParameters_of_none {u : Url} (none : u.query = none) (parameters : List (String × String)) :
    (u.addParameters parameters).query = some (Text.FormEncoded.query parameters) := by
  unfold addParameters
  rw [none]

theorem query_addParameters_of_some {u : Url} {query : String} (old : u.query = some query) (filled : query ≠ "")
    (parameters : List (String × String)) :
    (u.addParameters parameters).query = some (query ++ "&" ++ Text.FormEncoded.query parameters) := by
  unfold addParameters
  rw [old]
  dsimp only
  split
  · next none => cases none
  · next empty => exact absurd (Option.some.inj empty) filled
  · next same =>
    cases same
    rfl

/-- The text of an address without a query and a fragment goes on with the parameters that are added. -/
theorem text_addParameters {u : Url} (noQuery : u.query = none) (noFragment : u.fragment = none)
    (parameters : List (String × String)) :
    (u.addParameters parameters).text = u.withoutQuery.text ++ "?" ++ Text.FormEncoded.query parameters := by
  have same := withoutQuery_addParameters u parameters
  have isQuery := query_addParameters_of_none noQuery parameters
  have noFragment : (u.addParameters parameters).fragment = none := (congrArg Url.fragment same).trans noFragment
  rw [← same]
  unfold text target queryText withoutQuery credentials
  simp only [isQuery, noFragment, String.append_empty, String.append_assoc]

end ContractSuite.Url
