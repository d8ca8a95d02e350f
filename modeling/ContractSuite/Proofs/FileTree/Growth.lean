import ContractSuite.FileTree.Directory
import ContractSuite.Proofs.FileTree.Ways
import ContractSuite.Proofs.Path.Components

namespace ContractSuite.FileTree

variable {t t' u : FileTree} {path : String}

/-- Holds when a tree has become another one in which all still stands and all that is new are directories to which some
of the paths lead. -/
structure Grows (asked : String → Prop) (t t' : FileTree) : Prop where
  current : t'.current = t.current
  kept : ∀ place node, t.node? place = some node → t'.node? place = some node
  made : ∀ place node, t.node? place = none → t'.node? place = some node →
    node = .directory ∧ ∃ path, asked path ∧ t'.resolve path = .ok place

namespace Grows

variable {asked : String → Prop}

theorem keepsWays (grows : Grows asked t t') : KeepsWays t t' where
  current := grows.current
  directory := grows.kept _ _
  link := grows.kept _ _

theorem refl (asked : String → Prop) (t : FileTree) : Grows asked t t where
  current := rfl
  kept _ _ stands := stands
  made place node absent stands := by
    rw [absent] at stands
    cases stands

theorem trans (first : Grows asked t t') (second : Grows asked t' u) : Grows asked t u where
  current := second.current.trans first.current
  kept place node stands := second.kept place node (first.kept place node stands)
  made place node absent stands := by
    -- What is new in the end is new in the second tree already, where its path led to it, or is made only then.
    cases between : t'.node? place with
    | none => exact second.made place node between stands
    | some earlier =>
      have same := second.kept place earlier between
      obtain rfl : earlier = node := Option.some.inj (same.symm.trans stands)
      obtain ⟨isDirectory, path, isAsked, led⟩ := first.made place earlier absent between
      exact ⟨isDirectory, path, isAsked, second.keepsWays.resolve led (same.trans between.symm)⟩

end Grows

/-- The only way in which a directory is made: its name is free in the directory to which the names before it lead. -/
theorem makeDirectory_ok (made : t.makeDirectory path = .ok t') : ∃ start above name place,
    t.start path = .ok start ∧ namesOf path = above ++ [name] ∧ t.walk none linkLimit start above = .ok place ∧
      t.node? place = some .directory ∧ IsNameStep name ∧ t.node? (place ++ [name]) = none ∧
      t' = t.add (place ++ [name]) .directory := by
  unfold makeDirectory at made
  obtain ⟨start, begun, made⟩ := exists_of_bind_eq_ok made
  split at made
  · cases made
  next name above names =>
  obtain ⟨place, led, made⟩ := exists_of_bind_eq_ok made
  split at made
  · cases made
  next directory =>
  split at made
  · cases made
  next noDots =>
  split at made
  · cases made
  next short =>
  split at made
  · cases made
  next free =>
  cases made
  rw [not_or] at noDots
  refine ⟨start, above.reverse, name, place, begun, ?_, led, not_not.mp directory,
    ⟨noDots.1, noDots.2, Nat.le_of_not_lt short⟩, ?_, rfl⟩
  · rw [← List.reverse_cons, ← names, List.reverse_reverse]
  · simpa using free

/-- A directory that has been made stands where its path leads. -/
theorem resolve_of_makeDirectory {start place : Location} {above : List String} {name : String}
    (ways : KeepsWays t t') (begun : t.start path = .ok start) (names : namesOf path = above ++ [name])
    (led : t.walk none linkLimit start above = .ok place) (directory : t.node? place = some .directory)
    (isName : IsNameStep name) (stands : t'.node? (place ++ [name]) = some .directory) :
    t'.resolve path = .ok (place ++ [name]) := by
  have there := ways.directory directory
  have front : Leads t' none linkLimit start above place :=
    ways.leads (there.trans directory.symm) (leads_of_walk led)
  have entered (links : Nat) {more : List String} {target : Location}
      (further : Leads t' none links (place ++ [name]) more target) : Leads t' none links place (name :: more) target :=
    .enter there isName stands nofun further
  unfold resolve
  rw [ways.start_eq, begun]
  rcases stepsOf_cases path with steps | steps
  · rw [steps, names]
    exact (front.append 0 fun links => entered links .here).walk_eq
  · rw [steps, names, List.append_assoc]
    exact (front.append 0 fun links => entered links (.stay stands .here)).walk_eq

theorem grows_of_makeDirectory {asked : String → Prop} (isAsked : asked path)
    (made : t.makeDirectory path = .ok t') : Grows asked t t' := by
  obtain ⟨start, above, name, place, begun, names, led, directory, isName, free, rfl⟩ := makeDirectory_ok made
  refine ⟨rfl, ?_, ?_⟩
  · intro other node stands
    rw [node?_add, stands, Option.some_or]
  · intro other node absent stands
    rw [node?_add, absent, Option.none_or, Option.ite_none_right_eq_some] at stands
    obtain ⟨rfl, same⟩ := stands
    cases same
    have isThere : (t.add (place ++ [name]) .directory).node? (place ++ [name]) = some .directory := by
      rw [node?_add, free, Option.none_or, if_pos rfl]
    exact ⟨rfl, path, isAsked, resolve_of_makeDirectory (.add _ _ _) begun names led directory isName isThere⟩

theorem grows_makeEach {asked : String → Prop} {paths : List String} (areAsked : ∀ path ∈ paths, asked path)
    (t : FileTree) : Grows asked t (t.makeEach paths).1 := by
  induction paths generalizing t with
  | nil => exact .refl asked t
  | cons path more ih =>
    obtain ⟨isAsked, others⟩ := List.forall_mem_cons.mp areAsked
    rw [makeEach]
    split
    · next grown made => exact (grows_of_makeDirectory isAsked made).trans (ih others grown)
    · split
      · exact ih others t
      · exact .refl asked t

theorem grows_makeMissing {asked : String → Prop} {missing above : List String}
    (areAsked : ∀ path ∈ missing, asked path) (aboveAsked : ∀ path ∈ above, asked path) (t : FileTree) :
    Grows asked t (t.makeMissing missing above).1 := by
  induction above generalizing missing with
  | nil => exact grows_makeEach areAsked t
  | cons path above ih =>
    obtain ⟨isAsked, others⟩ := List.forall_mem_cons.mp aboveAsked
    rw [makeMissing]
    split
    · exact grows_makeEach areAsked t
    · split
      · next grown made => exact (grows_of_makeDirectory isAsked made).trans (grows_makeEach areAsked grown)
      · split
        · exact ih (List.forall_mem_cons.mpr ⟨isAsked, areAsked⟩) others
        · split
          · exact grows_makeEach areAsked t
          · exact .refl asked t

theorem grows_makeDirectories (t : FileTree) (path : String) :
    Grows (· ∈ Path.ancestors path) t (t.makeDirectories path).1 :=
  grows_makeMissing (by simp) (fun _ isAbove => isAbove) t

/-- What comes of seeing to a directory. -/
inductive Ensured (t : FileTree) (path : String) : FileTree × Except SuiteError Unit → Prop
  | found {place : Location} : t.openDirectory path = .ok place → Ensured t path (t, .ok ())
  | refused {error : OsError} : t.openDirectory path = .error error → error.kind ≠ .notFound →
      Ensured t path (t, .error (.io path error))
  | failed {error cause : OsError} : t.openDirectory path = .error error → error.kind = .notFound →
      Ensured t path ((t.makeDirectories path).1, .error (.io path cause))
  | made {error : OsError} {place : Location} : t.openDirectory path = .error error → error.kind = .notFound →
      (t.makeDirectories path).1.openDirectory path = .ok place → Ensured t path ((t.makeDirectories path).1, .ok ())

theorem ensured_ensureDirectory (t : FileTree) (path : String) : Ensured t path (t.ensureDirectory path) := by
  unfold ensureDirectory
  split
  · next place opened => exact .found opened
  next error unopened =>
  split
  · next other => exact .refused unopened other
  next missing =>
  have missing := not_not.mp missing
  split
  · next grown cause making =>
    have same : (t.makeDirectories path).1 = grown := congrArg Prod.fst making
    rw [← same]
    exact .failed unopened missing
  · next grown making =>
    have same : (t.makeDirectories path).1 = grown := congrArg Prod.fst making
    rw [← same]
    split
    · next place opened => exact .made unopened missing opened
    · exact .failed unopened missing

namespace Ensured

variable {result : FileTree × Except SuiteError Unit}

theorem grows (ensured : Ensured t path result) : Grows (· ∈ Path.ancestors path) t result.1 := by
  cases ensured with
  | found => exact .refl _ t
  | refused => exact .refl _ t
  | failed => exact grows_makeDirectories t path
  | made => exact grows_makeDirectories t path

theorem exists_place (ensured : Ensured t path result) (answered : result.2 = .ok ()) :
    ∃ place, result.1.openDirectory path = .ok place := by
  cases ensured with
  | found opened => exact ⟨_, opened⟩
  | refused => cases answered
  | failed => cases answered
  | made _ _ opened => exact ⟨_, opened⟩

theorem error_eq (ensured : Ensured t path result) {error : SuiteError} (failed : result.2 = .error error) :
    ∃ cause, error = .io path cause := by
  cases ensured with
  | found => cases failed
  | refused =>
    cases failed
    exact ⟨_, rfl⟩
  | failed =>
    cases failed
    exact ⟨_, rfl⟩
  | made => cases failed

end Ensured

theorem isDirectory_iff : t.isDirectory path = true ↔ ∃ place, t.openDirectory path = .ok place := by
  unfold isDirectory openDirectory
  cases t.resolve path with
  | error error => simp [bind, Except.bind]
  | ok place => by_cases directory : t.node? place = some .directory <;> simp [bind, Except.bind, pure, Except.pure, directory]

/-- Seeing to a directory only adds what is missing. If it succeeds, the path leads to a directory, and there is nothing
more to do. In any case all that stood in the tree stands there still, and what is new are directories at places to
which the first components of the path lead. Nothing changes if there is a directory already, or if it cannot be opened
for another reason than that it is missing. -/
theorem ensureDirectory_only_adds (t : FileTree) (path : String) :
    ((t.ensureDirectory path).2 = .ok () → (t.ensureDirectory path).1.isDirectory path = true ∧
      (t.ensureDirectory path).1.ensureDirectory path = ((t.ensureDirectory path).1, .ok ())) ∧
    (∀ place node, t.node? place = some node → (t.ensureDirectory path).1.node? place = some node) ∧
    (∀ place node, t.node? place = none → (t.ensureDirectory path).1.node? place = some node →
      node = .directory ∧ ∃ up, Path.components up <+: Path.components path ∧
        (t.ensureDirectory path).1.resolve up = .ok place) ∧
    (t.isDirectory path = true → t.ensureDirectory path = (t, .ok ())) ∧
    ∀ error, t.openDirectory path = .error error → error.kind ≠ .notFound →
      t.ensureDirectory path = (t, .error (.io path error)) := by
  have ensured := ensured_ensureDirectory t path
  have unchanged {t : FileTree} (isThere : ∃ place, t.openDirectory path = .ok place) :
      t.ensureDirectory path = (t, .ok ()) := by
    obtain ⟨place, opened⟩ := isThere
    unfold ensureDirectory
    rw [opened]
  refine ⟨?_, ensured.grows.kept, ?_, fun isThere => unchanged (isDirectory_iff.mp isThere), ?_⟩
  · intro answered
    have opened := ensured.exists_place answered
    exact ⟨isDirectory_iff.mpr opened, unchanged opened⟩
  · intro place node absent stands
    obtain ⟨isDirectory, up, isAbove, led⟩ := ensured.grows.made place node absent stands
    exact ⟨isDirectory, up, Path.components_prefix_of_mem_ancestors isAbove, led⟩
  · intro error unopened other
    unfold ensureDirectory
    rw [unopened]
    exact if_pos other

end ContractSuite.FileTree
