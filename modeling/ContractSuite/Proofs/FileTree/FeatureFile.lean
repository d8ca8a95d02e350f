import ContractSuite.FileTree.Reading
import ContractSuite.Proofs.FileTree.Ways
import ContractSuite.Proofs.Path.LastName

namespace ContractSuite.FileTree

variable {t : FileTree} {path parent name : String} {place directory : Location}

/-- The step of a walk that a component asks for. The root and a dot at the front only say where it starts. -/
def stepFor? : Path.Component → Option String
  | .root | .current => none
  | .parent => some ".."
  | .name n => some n

/-- The steps that the components of a path ask for. -/
def properSteps (path : String) : List String :=
  (Path.components path).filterMap stepFor?

/-- The directory at which the walk along a path starts. -/
def origin (t : FileTree) (path : String) : Location :=
  if Path.isAbsolute path then [] else t.current

/-- Holds of the place to which the components of a path lead, however many links are followed on the way. -/
def IsNamed (t : FileTree) (path : String) (place : Location) : Prop :=
  ∃ links, Leads t none links (t.origin path) (properSteps path) place

theorem IsNamed.unique {other : Location} (isNamed : t.IsNamed path place) (isNamedToo : t.IsNamed path other) :
    place = other := by
  obtain ⟨links, leads⟩ := isNamed
  obtain ⟨others, leadsToo⟩ := isNamedToo
  exact leads.unique leadsToo

/-- The step that a segment of a path asks for. -/
def segmentStep? (segment : List Char) : Option String :=
  if Path.isIdle segment then none else some (String.ofList segment)

theorem stepFor?_component? (segment : List Char) : (Path.component? segment).bind stepFor? = segmentStep? segment := by
  unfold Path.component? segmentStep?
  split
  · rfl
  · split
    · next dots =>
      subst dots
      rfl
    · rfl

theorem filterMap_inner (s : List Char) :
    (Path.inner s).filterMap stepFor? = (Path.segments s).filterMap segmentStep? := by
  unfold Path.inner
  rw [List.filterMap_filterMap]
  exact List.filterMap_congr fun segment _ => stepFor?_component? segment

/-- What stands at the front of a path is no step of its own. -/
theorem filterMap_splitFront (s : List Char) :
    (Path.segments (Path.splitFront s).2).filterMap segmentStep? = (Path.segments s).filterMap segmentStep? := by
  unfold Path.splitFront
  split <;> rfl

theorem properSteps_eq (path : String) : properSteps path = (Path.segments path.toList).filterMap segmentStep? := by
  have front : (Path.opening (Path.splitFront path.toList).1).filterMap stepFor? = [] := by
    rcases Path.opening_cases (Path.splitFront path.toList).1 with front | front | front <;> rw [front] <;> rfl
  unfold properSteps
  rw [Path.components_eq, Path.spelled, List.filterMap_append, front, filterMap_inner, filterMap_splitFront]
  rfl

theorem filter_namesOf (path : String) : (namesOf path).filter (· ≠ ".") = properSteps path := by
  rw [properSteps_eq]
  unfold namesOf
  induction Path.segments path.toList with
  | nil => rfl
  | cons segment more ih =>
    rw [List.map_cons, List.filterMap_cons]
    by_cases idle : Path.isIdle segment = true
    · have step : segmentStep? segment = none := if_pos idle
      rw [step]
      rcases Path.isIdle_iff.mp idle with rfl | rfl <;> exact ih
    · have step : segmentStep? segment = some (String.ofList segment) := if_neg idle
      have solid := not_or.mp (mt Path.isIdle_iff.mpr idle)
      have notEmpty : String.ofList segment ≠ "" := fun same => solid.1 (by simpa using congrArg String.toList same)
      have notDot : String.ofList segment ≠ "." := fun same => solid.2 (by simpa using congrArg String.toList same)
      rw [step, List.filter_cons_of_pos (by simpa using notEmpty), List.filter_cons_of_pos (by simpa using notDot), ih]

theorem filter_stepsOf (path : String) : (stepsOf path).filter (· ≠ ".") = properSteps path := by
  rw [← filter_namesOf]
  rcases stepsOf_cases path with steps | steps <;> simp [steps]

theorem eq_origin_of_start {here : Location} (begun : t.start path = .ok here) : here = t.origin path := by
  unfold start at begun
  split at begun
  · cases begun
  split at begun
  · cases begun
  split at begun
  · cases begun
  · exact (Except.ok.inj begun).symm

/-- A path that leads somewhere leads to the place that its components name. -/
theorem isNamed_of_resolve (led : t.resolve path = .ok place) : t.IsNamed path place := by
  obtain ⟨here, begun, walked⟩ := exists_of_bind_eq_ok led
  obtain rfl := eq_origin_of_start begun
  have skips := SkipsDots.filter (stepsOf path)
  rw [filter_stepsOf] at skips
  exact ⟨linkLimit, skips.leads (leads_of_walk walked)⟩

/-- The entry that is looked up under a name in a directory. -/
def entryInside (t : FileTree) (directory : Location) (name : String) : Except OsError Location := do
  if name.toList.contains '\x00' then throw .invalidArgument
  t.walk (some directory) linkLimit directory [name]

/-- The entry that is opened to read a feature file. -/
def featureEntry (t : FileTree) (path : String) : Except SuiteError Location := do
  let (parent, name) ← splitPath path
  let directory ← (t.openDirectory parent).mapError (.io parent)
  (t.entryInside directory name).mapError (.io path)

theorem readInside_eq (t : FileTree) (directory : Location) (name : String) :
    t.readInside directory name = t.entryInside directory name >>= t.textAt := by
  unfold readInside entryInside
  split <;> rfl

/-- A feature file is read by opening one entry and taking the text of it. -/
theorem readFeature_eq (t : FileTree) (path : String) :
    t.readFeature path = t.featureEntry path >>= fun place => (t.textAt place).mapError (.io path) := by
  unfold readFeature featureEntry
  rcases splitPath path with error | ⟨parent, name⟩
  · rfl
  cases opened : t.openDirectory parent with
  | error cause =>
    simp only [opened, bind, Except.bind]
    rfl
  | ok directory =>
    simp only [opened, readInside_eq, bind, Except.bind, Except.mapError]
    cases t.entryInside directory name with
    | error cause => rfl
    | ok place => cases text : t.textAt place <;> simp only [text] <;> rfl

theorem ok_of_mapError {ε δ α : Type} {f : ε → δ} {result : Except ε α} {a : α}
    (mapped : result.mapError f = .ok a) : result = .ok a := by
  cases result with
  | error error => cases mapped
  | ok other => exact congrArg Except.ok (Except.ok.inj mapped)

theorem featureEntry_ok (opened : t.featureEntry path = .ok place) : ∃ parent name directory,
    splitPath path = .ok (parent, name) ∧ t.openDirectory parent = .ok directory ∧
      t.entryInside directory name = .ok place := by
  obtain ⟨⟨parent, name⟩, cut, further⟩ := exists_of_bind_eq_ok opened
  obtain ⟨directory, isThere, entered⟩ := exists_of_bind_eq_ok further
  exact ⟨parent, name, directory, cut, ok_of_mapError isThere, ok_of_mapError entered⟩

theorem leads_of_entryInside (entered : t.entryInside directory name = .ok place) :
    Leads t (some directory) linkLimit directory [name] place := by
  unfold entryInside at entered
  split at entered
  · cases entered
  · exact leads_of_walk entered

theorem resolve_of_openDirectory (opened : t.openDirectory path = .ok place) : t.resolve path = .ok place := by
  obtain ⟨here, led, isThere⟩ := exists_of_bind_eq_ok opened
  split at isThere
  · cases isThere
    exact led
  · cases isThere

theorem splitPath_eq_error_iff {error : SuiteError} : splitPath path = .error error ↔
    error = .io path noFileName ∧ ∀ n, (Path.components path).getLast? ≠ some (.name n) := by
  simp only [ne_eq, ← Path.fileName?_eq_some_iff]
  unfold splitPath
  cases Path.fileName? path with
  | none => simp [eq_comm]
  | some name => simp

/-- A path is cut in front of its last name, so that both parts together have its components. In front of a lone name
stands the current directory. -/
theorem splitPath_ok (cut : splitPath path = .ok (parent, name)) : Path.IsEntryName name ∧ parent ≠ "" ∧
    (Path.components path = Path.components parent ++ [.name name] ∨
      Path.components path = [.name name] ∧ parent = ".") := by
  unfold splitPath at cut
  split at cut
  · cases cut
  next n isLast =>
  have named := Path.fileName?_eq_some_iff.mp isLast
  obtain ⟨up, isParent, whole⟩ := Path.exists_parent_of_name named
  rw [isParent, Option.getD_some] at cut
  cases cut
  refine ⟨Path.isEntryName_of_getLast? named, ?_⟩
  by_cases empty : up = ""
  · subst empty
    exact ⟨by decide, Or.inr ⟨whole, if_pos rfl⟩⟩
  · rw [if_neg empty]
    exact ⟨empty, Or.inl whole⟩

/-- What is idle at the end of a path does not count, and what is idle in front of its last name is cut off. -/
example : splitPath "a//./b/." = .ok ("a", "b") :=
  rfl

theorem components_join_of_splitPath (cut : splitPath path = .ok (parent, name)) :
    Path.components (Path.join parent name) = Path.components path ∨
      Path.components (Path.join parent name) = .current :: Path.components path := by
  obtain ⟨isName, -, whole | ⟨whole, rfl⟩⟩ := splitPath_ok cut
  · rw [isName.components_join, whole]
    exact Or.inl rfl
  · rw [isName.components_join, whole]
    exact Or.inr rfl

/-- The name at the end of a path is missing in its parent. -/
theorem ne_of_splitPath (cut : splitPath path = .ok (parent, name)) : parent ≠ path := by
  rintro rfl
  obtain ⟨-, -, whole | ⟨whole, rfl⟩⟩ := splitPath_ok cut
  · have length := congrArg List.length whole
    rw [List.length_append, List.length_singleton] at length
    omega
  · cases whole

theorem properSteps_of_splitPath (cut : splitPath path = .ok (parent, name)) :
    properSteps path = properSteps parent ++ [name] := by
  unfold properSteps
  obtain ⟨-, -, whole | ⟨whole, rfl⟩⟩ := splitPath_ok cut
  · rw [whole, List.filterMap_append]
    rfl
  · rw [whole]
    rfl

theorem origin_of_splitPath (t : FileTree) (cut : splitPath path = .ok (parent, name)) :
    t.origin path = t.origin parent := by
  have same : Path.isAbsolute path = Path.isAbsolute parent := by
    rw [Bool.eq_iff_iff, Path.isAbsolute_iff, Path.isAbsolute_iff]
    obtain ⟨-, -, whole | ⟨whole, rfl⟩⟩ := splitPath_ok cut
    · rw [whole, List.head?_append]
      cases (Path.components parent).head? <;> simp
    · rw [whole]
      exact iff_of_false nofun nofun
  unfold origin
  rw [same]

/-- The way to the entry that is opened is the way along the whole path. -/
theorem isNamed_of_featureEntry (opened : t.featureEntry path = .ok place) : t.IsNamed path place := by
  obtain ⟨parent, name, directory, cut, isThere, entered⟩ := featureEntry_ok opened
  obtain ⟨links, toDirectory⟩ := isNamed_of_resolve (resolve_of_openDirectory isThere)
  have toEntry := (leads_of_entryInside entered).unconfined
  unfold IsNamed
  rw [properSteps_of_splitPath cut, origin_of_splitPath t cut]
  exact ⟨links + linkLimit, toDirectory.trans toEntry⟩

theorem readFeature_of_uncut {error : SuiteError} (uncut : splitPath path = .error error) :
    t.readFeature path = .error error := by
  unfold readFeature
  rw [uncut]
  rfl

theorem readFeature_of_unopened {cause : OsError} (cut : splitPath path = .ok (parent, name))
    (unopened : t.openDirectory parent = .error cause) : t.readFeature path = .error (.io parent cause) := by
  simp only [readFeature, cut, unopened, bind, Except.bind]
  rfl

theorem readFeature_of_opened (cut : splitPath path = .ok (parent, name))
    (opened : t.openDirectory parent = .ok directory) :
    t.readFeature path = (t.readInside directory name).mapError (.io path) := by
  simp only [readFeature, cut, opened, bind, Except.bind]
  cases t.readInside directory name <;> rfl

/-- Once the parent is open, an error is about the path as it was given. -/
theorem error_of_opened (cut : splitPath path = .ok (parent, name)) (opened : t.openDirectory parent = .ok directory)
    {error : SuiteError} (failed : t.readFeature path = .error error) : ∃ cause, error = .io path cause := by
  rw [readFeature_of_opened cut opened] at failed
  cases text : t.readInside directory name with
  | error cause =>
    rw [text] at failed
    exact ⟨cause, (Except.error.inj failed).symm⟩
  | ok contents =>
    rw [text] at failed
    cases failed

theorem readFeature_blames_parent_iff {cause : OsError} (cut : splitPath path = .ok (parent, name)) :
    t.readFeature path = .error (.io parent cause) ↔ t.openDirectory parent = .error cause := by
  constructor
  · intro failed
    cases opened : t.openDirectory parent with
    | error other =>
      rw [readFeature_of_unopened cut opened] at failed
      cases failed
      rfl
    | ok directory =>
      obtain ⟨other, same⟩ := error_of_opened cut opened failed
      cases same
      exact absurd rfl (ne_of_splitPath cut)
  · exact readFeature_of_unopened cut

/-- Reading a feature file opens the entry that its path names, and no other one. A path is refused exactly if it does
not end with a name; else it is cut into the name of an entry and a parent that is not empty, and both together have its
components, up to a dot in front. The entry that is opened stands at the only place to which the components of the path
lead, and there the path leads as a whole, if it leads anywhere. An error is about the parent exactly if this one cannot
be opened, and else about the path as it was given. -/
theorem readFeature_opens_named (t : FileTree) (path : String) :
    ((∃ error, splitPath path = .error error) ↔ ∀ n, (Path.components path).getLast? ≠ some (.name n)) ∧
    ((∀ n, (Path.components path).getLast? ≠ some (.name n)) ↔
      path = "" ∨ Path.components path = [.root] ∨ Path.components path = [.current] ∨
        (Path.components path).getLast? = some .parent) ∧
    (∀ error, splitPath path = .error error →
      error = .io path noFileName ∧ noFileName.kind = .invalidInput ∧ t.readFeature path = .error error) ∧
    (∀ parent name, splitPath path = .ok (parent, name) →
      Path.components name = [.name name] ∧ '/' ∉ name.toList ∧ parent ≠ "" ∧
      (Path.components (Path.join parent name) = Path.components path ∨
        Path.components (Path.join parent name) = .current :: Path.components path) ∧
      (∀ cause, t.readFeature path = .error (.io parent cause) ↔ t.openDirectory parent = .error cause) ∧
      ∀ directory error, t.openDirectory parent = .ok directory → t.readFeature path = .error error →
        ∃ cause, error = .io path cause) ∧
    t.readFeature path = (t.featureEntry path >>= fun place => (t.textAt place).mapError (.io path)) ∧
    ∀ place, t.featureEntry path = .ok place →
      (∀ other, t.IsNamed path other ↔ other = place) ∧
        ∀ other, t.resolve path = .ok other → other = place := by
  refine ⟨?_, Path.getLast?_ne_name_iff, ?_, ?_, readFeature_eq t path, ?_⟩
  · simp only [splitPath_eq_error_iff, exists_eq_left]
  · intro error uncut
    exact ⟨(splitPath_eq_error_iff.mp uncut).1, rfl, readFeature_of_uncut uncut⟩
  · intro parent name cut
    obtain ⟨isName, nonempty, -⟩ := splitPath_ok cut
    exact ⟨isName.spelled_eq, isName.noSlash, nonempty, components_join_of_splitPath cut,
      fun cause => readFeature_blames_parent_iff cut, fun directory error opened => error_of_opened cut opened⟩
  · intro place opened
    have isNamed := isNamed_of_featureEntry opened
    refine ⟨fun other => ⟨fun isNamedToo => isNamedToo.unique isNamed, ?_⟩, ?_⟩
    · rintro rfl
      exact isNamed
    · intro other led
      exact (isNamed_of_resolve led).unique isNamed

end ContractSuite.FileTree
