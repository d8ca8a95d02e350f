import Mathlib.Data.List.TakeWhile
import ContractSuite.Proofs.Url.Hosts
import ContractSuite.Text.Parts

namespace ContractSuite

namespace Text

theorem cutLast?_of_absent {separator : Char} {s : List Char} (absent : separator ∉ s) :
    cutLast? separator s = none := by
  have whole : s.reverse.takeWhile (· != separator) = s.reverse := by
    rw [List.takeWhile_eq_self_iff]
    intro c inside
    simpa using ne_of_mem_of_not_mem (List.mem_reverse.mp inside) absent
  unfold cutLast?
  dsimp only
  rw [whole, List.length_reverse, if_pos rfl]

theorem cutLast?_append {separator : Char} (front : List Char) {back : List Char} (absent : separator ∉ back) :
    cutLast? separator (front ++ separator :: back) = some (front, back) := by
  have cut : (front ++ separator :: back).reverse.takeWhile (· != separator) = back.reverse := by
    rw [List.reverse_append, List.reverse_cons, List.append_assoc, List.takeWhile_append_of_pos]
    · simp
    · intro c inside
      simpa using ne_of_mem_of_not_mem (List.mem_reverse.mp inside) absent
  have length : (front ++ separator :: back).length = front.length + 1 + back.length := by
    rw [List.length_append, List.length_cons]
    omega
  unfold cutLast?
  dsimp only
  rw [cut, List.length_reverse, length, if_neg (by omega), List.reverse_reverse,
    show front.length + 1 + back.length - back.length - 1 = front.length by omega, List.take_left]

end Text

namespace Url

theorem takeWhile_append_of_ends {p : Char → Bool} {s t : List Char} (inside : ∀ c ∈ s, p c = true)
    (ends : ∀ c ∈ t.head?, p c = false) : (s ++ t).takeWhile p = s := by
  rw [List.takeWhile_append_of_pos inside]
  cases t with
  | nil => simp
  | cons c rest => simp [ends c rfl]

theorem splitAuthority_of_absent {authority : List Char} (absent : '@' ∉ authority) :
    splitAuthority authority = { rest := authority } := by
  unfold splitAuthority
  rw [Text.cutLast?_of_absent absent]

theorem splitAuthority_append (front : List Char) {rest : List Char} (absent : '@' ∉ rest) :
    splitAuthority (front ++ '@' :: rest) =
      { username := front.takeWhile (· != ':'), password := front.drop ((front.takeWhile (· != ':')).length + 1)
        rest } := by
  unfold splitAuthority
  rw [Text.cutLast?_append front absent]

theorem exists_last_sign {s : List Char} (inside : '@' ∈ s) : ∃ front back, s = front ++ '@' :: back ∧ '@' ∉ back := by
  obtain ⟨back, front, cut, absent⟩ := List.eq_append_cons_of_mem (List.mem_reverse.mpr inside)
  refine ⟨front.reverse, back.reverse, ?_, by rwa [List.mem_reverse]⟩
  rw [← List.reverse_reverse s, cut]
  simp

theorem not_mem_cons_portDigits {name : List Char} (absent : '@' ∉ name) (port : Nat) :
    '@' ∉ name ++ ':' :: portDigits port := by
  rw [List.mem_append, List.mem_cons, not_or, not_or]
  exact ⟨absent, by decide, not_mem_portDigits (by decide) port⟩

theorem splitAuthority_portDigits (host : List Char) (port : Nat) :
    ('@' ∉ host ∧ splitAuthority (host ++ ':' :: portDigits port) = { rest := host ++ ':' :: portDigits port }) ∨
      ∃ front name, host = front ++ '@' :: name ∧ '@' ∉ name ∧
        splitAuthority (host ++ ':' :: portDigits port) =
          { username := front.takeWhile (· != ':')
            password := front.drop ((front.takeWhile (· != ':')).length + 1)
            rest := name ++ ':' :: portDigits port } := by
  by_cases sign : '@' ∈ host
  · obtain ⟨front, name, rfl, absent⟩ := exists_last_sign sign
    refine Or.inr ⟨front, name, rfl, absent, ?_⟩
    rw [List.append_assoc, List.cons_append, splitAuthority_append front (not_mem_cons_portDigits absent port)]
  · exact Or.inl ⟨sign, splitAuthority_of_absent (not_mem_cons_portDigits sign port)⟩

/-- User information is read as empty exactly if nothing but a colon stands in front of its at sign. -/
theorem credentials_eq_nil_iff (host : List Char) (port : Nat) :
    ((splitAuthority (host ++ ':' :: portDigits port)).username = [] ∧
      (splitAuthority (host ++ ':' :: portDigits port)).password = []) ↔
    ∃ front name, host = front ++ name ∧ front ∈ [[], ['@'], [':', '@']] ∧ '@' ∉ name := by
  constructor
  · rintro ⟨noName, noPassword⟩
    rcases splitAuthority_portDigits host port with ⟨absent, -⟩ | ⟨front, name, rfl, absent, cut⟩
    · exact ⟨[], host, rfl, by simp, absent⟩
    · rw [cut] at noName noPassword
      dsimp only at noName noPassword
      cases front with
      | nil => exact ⟨['@'], name, rfl, by simp, absent⟩
      | cons c rest =>
        obtain rfl : c = ':' := by simpa [List.takeWhile_cons] using noName
        obtain rfl : rest = [] := by simpa using noPassword
        exact ⟨[':', '@'], name, rfl, by simp, absent⟩
  · rintro ⟨front, name, rfl, isFront, absent⟩
    have absentBehind := not_mem_cons_portDigits absent port
    simp only [List.mem_cons, List.not_mem_nil, or_false] at isFront
    rcases isFront with rfl | rfl | rfl
    · rw [List.nil_append, splitAuthority_of_absent absentBehind]
      exact ⟨rfl, rfl⟩
    · have cut := splitAuthority_append [] absentBehind
      exact ⟨congrArg Authority.username cut, congrArg Authority.password cut⟩
    · have cut := splitAuthority_append [':'] absentBehind
      exact ⟨congrArg Authority.username cut, congrArg Authority.password cut⟩

theorem rest_splitAuthority (host : List Char) (port : Nat) :
    ∃ name, (splitAuthority (host ++ ':' :: portDigits port)).rest = name ++ ':' :: portDigits port := by
  rcases splitAuthority_portDigits host port with ⟨-, cut⟩ | ⟨front, name, -, -, cut⟩
  · exact ⟨host, by rw [cut]⟩
  · exact ⟨name, by rw [cut]⟩

/-- A host and a port are read as what they were written for. -/
theorem port_of_readHost {scheme : Scheme} {name : List Char} {port : Nat} {host : Host} {found : Option Nat}
    (readsHost : readHost (hostPart false (name ++ ':' :: portDigits port)) = .ok host)
    (readsPort : readPort scheme ((name ++ ':' :: portDigits port).drop
      ((hostPart false (name ++ ':' :: portDigits port)).length + 1)) = .ok found) :
    found.getD scheme.usualPort = port := by
  rcases hostPart_cases false name (not_mem_portDigits (by decide) port) with
    whole | ⟨front, back, rfl, cut⟩ | ⟨all, opened⟩
  · rw [whole, ← List.drop_drop, List.drop_left] at readsPort
    exact getD_readPort readsPort
  · rw [cut, List.append_assoc, ← List.drop_drop, List.drop_left] at readsPort
    rw [readPort_of_colon scheme (by simp)] at readsPort
    cases readsPort
  · obtain ⟨fault, refused⟩ := readHost_of_open port (opened.resolve_left Bool.false_ne_true)
    rw [all, refused] at readsHost
    cases readsHost

/-- The path that is read behind an authority. -/
def pathBehind (s : List Char) : String :=
  if ((slashSegments (s.takeWhile isPathChar)).drop 1).isEmpty then "/"
  else pathText (resolveSegments [] ((slashSegments (s.takeWhile isPathChar)).drop 1))

/-- An address that is read from an authority and the text behind it. -/
structure IsReadFrom (scheme : Scheme) (authority behind : List Char) (url : Url) : Prop where
  scheme_eq : url.scheme = scheme
  readsHost : readHost (hostPart false (splitAuthority authority).rest) = .ok url.host
  readsPort : readPort scheme ((splitAuthority authority).rest.drop
    ((hostPart false (splitAuthority authority).rest).length + 1)) = .ok url.port
  username_eq : url.username =
    String.ofList (Text.Percent.encode isEscapedInCredentials (splitAuthority authority).username)
  password_eq : url.password =
    String.ofList (Text.Percent.encode isEscapedInCredentials (splitAuthority authority).password)
  path_eq : url.path = pathBehind behind
  tail_eq : (url.query, url.fragment) = readTail (behind.drop (behind.takeWhile isPathChar).length)

theorem IsReadFrom.effectivePort_eq {scheme : Scheme} {host behind : List Char} {port : Nat} {url : Url}
    (read : IsReadFrom scheme (host ++ ':' :: portDigits port) behind url) : url.effectivePort = port := by
  obtain ⟨name, rest⟩ := rest_splitAuthority host port
  have readsHost := read.readsHost
  have readsPort := read.readsPort
  rw [rest] at readsHost readsPort
  unfold effectivePort
  rw [read.scheme_eq]
  exact port_of_readHost readsHost readsPort

theorem IsReadFrom.credentials_eq_empty_iff {scheme : Scheme} {host behind : List Char} {port : Nat} {url : Url}
    (read : IsReadFrom scheme (host ++ ':' :: portDigits port) behind url) : (url.username = "" ∧ url.password = "") ↔
      ∃ front name, host = front ++ name ∧ front ∈ [[], ['@'], [':', '@']] ∧ '@' ∉ name := by
  have empty (s : List Char) : String.ofList (Text.Percent.encode isEscapedInCredentials s) = "" ↔ s = [] := by
    rw [String.ofList_eq_empty_iff]
    exact ⟨Text.Percent.encode_eq_nil, fun same => by rw [same]; rfl⟩
  rw [read.username_eq, read.password_eq, empty, empty]
  exact credentials_eq_nil_iff host port

theorem isReadFrom_of_readFromAuthority {scheme : Scheme} {authority behind : List Char} {url : Url}
    (inside : ∀ c ∈ authority, endsAuthority c = false) (ends : ∀ c ∈ behind.head?, endsAuthority c = true)
    (read : readFromAuthority scheme (authority ++ behind) = .ok url) : IsReadFrom scheme authority behind url := by
  have front : (authority ++ behind).takeWhile (!endsAuthority ·) = authority :=
    takeWhile_append_of_ends (fun c isIn => by rw [inside c isIn]; rfl) fun c isFirst => by rw [ends c isFirst]; rfl
  unfold readFromAuthority at read
  rw [front] at read
  dsimp only at read
  rw [List.drop_left] at read
  simp only [bind, Except.bind] at read
  split at read
  · cases read
  · next host readsHost =>
    split at read
    · cases read
    · next port readsPort =>
      cases read
      exact ⟨rfl, readsHost, readsPort, rfl, rfl, rfl, rfl⟩

theorem cleaned_eq {s : List Char} (first : ∀ c ∈ s.head?, isMargin c = false)
    (last : ∀ c ∈ s.getLast?, isMargin c = false) : cleaned s = s.filter (!isIgnored ·) := by
  have keeps {s : List Char} (first : ∀ c ∈ s.head?, isMargin c = false) : s.dropWhile isMargin = s := by
    cases s with
    | nil => rfl
    | cons c rest => exact List.dropWhile_cons_of_neg (by rw [first c rfl]; exact Bool.false_ne_true)
  unfold cleaned
  dsimp only
  rw [keeps first, keeps (by rwa [List.head?_reverse]), List.reverse_reverse]

/-- What is read as an address once its scheme and the slashes behind it are gone. -/
theorem parse_http {text : String} {s : List Char} (start : text.toList = "http://".toList ++ s)
    (last : ∀ c ∈ s.getLast?, isMargin c = false) :
    parse text = readFromAuthority .http ((s.filter (!isIgnored ·)).dropWhile isSlash) := by
  have clean : cleaned text.toList = "http://".toList ++ s.filter (!isIgnored ·) := by
    rw [start, cleaned_eq]
    · rw [List.filter_append]
      rfl
    · intro c isFirst
      cases isFirst
      rfl
    · intro c isLast
      cases s with
      | nil =>
        cases isLast
        rfl
      | cons first rest =>
        rw [List.getLast?_append_cons] at isLast
        exact last c isLast
  unfold parse
  rw [clean]
  rfl

/-- Characters of names and numbers of servers. -/
def isNameChar (c : Char) : Bool :=
  c.isAlphanum || c == '-' || c == '.'

theorem ne_of_isNameChar {c other : Char} (plain : isNameChar c = true) (foreign : isNameChar other = false) :
    c ≠ other := by
  rintro rfl
  rw [plain] at foreign
  cases foreign

theorem endsAuthority_of_isNameChar {c : Char} (plain : isNameChar c = true) : endsAuthority c = false := by
  unfold endsAuthority isSlash
  simp only [Bool.or_eq_false_iff, beq_eq_false_iff_ne]
  exact ⟨⟨⟨ne_of_isNameChar plain rfl, ne_of_isNameChar plain rfl⟩, ne_of_isNameChar plain rfl⟩,
    ne_of_isNameChar plain rfl⟩

theorem isIgnored_of_isNameChar {c : Char} (plain : isNameChar c = true) : isIgnored c = false := by
  unfold isIgnored
  simp only [Bool.or_eq_false_iff, beq_eq_false_iff_ne]
  exact ⟨⟨ne_of_isNameChar plain rfl, ne_of_isNameChar plain rfl⟩, ne_of_isNameChar plain rfl⟩

theorem filter_of_isNameChar {s : List Char} (plain : ∀ c ∈ s, isNameChar c = true) :
    s.filter (!isIgnored ·) = s := by
  rw [List.filter_eq_self]
  intro c inside
  rw [isIgnored_of_isNameChar (plain c inside)]
  rfl

theorem isNameChar_of_mem_portDigits {port : Nat} {c : Char} (inside : c ∈ portDigits port) :
    isNameChar c = true := by
  unfold isNameChar Char.isAlphanum
  rw [isDigit_of_mem_portDigits inside, Bool.or_true, Bool.true_or, Bool.true_or]

end Url

end ContractSuite
