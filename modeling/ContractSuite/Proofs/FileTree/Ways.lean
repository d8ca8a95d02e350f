import ContractSuite.FileTree.Walk
import Mathlib.Logic.Basic

namespace ContractSuite.FileTree

/-- What comes to an end in two parts has come to an end in each of them. -/
theorem exists_of_bind_eq_ok {ε α β : Type} {first : Except ε α} {second : α → Except ε β} {answer : β}
    (whole : first >>= second = .ok answer) : ∃ between, first = .ok between ∧ second between = .ok answer := by
  cases first with
  | error error => cases whole
  | ok between => exact ⟨between, rfl, whole⟩

/-- Holds of a step that is the name of an entry. -/
structure IsNameStep (step : String) : Prop where
  notCurrent : step ≠ "."
  notParent : step ≠ ".."
  short : step.utf8ByteSize ≤ nameLimit

/-- A way from one place to another one along steps, on which no more than so many links are followed. A walk that is
confined does not leave its directory. -/
inductive Leads (t : FileTree) (confinement : Option Location) : Nat → Location → List String → Location → Prop
  | here {links place} : Leads t confinement links place [] place
  | stay {links here more place} : t.node? here = some .directory → Leads t confinement links here more place →
      Leads t confinement links here ("." :: more) place
  | up {links here more place} : t.node? here = some .directory → confinement ≠ some here →
      Leads t confinement links here.dropLast more place → Leads t confinement links here (".." :: more) place
  | enter {links here step more place node} : t.node? here = some .directory → IsNameStep step →
      t.node? (here ++ [step]) = some node → (∀ target, node ≠ .link target) →
      Leads t confinement links (here ++ [step]) more place → Leads t confinement links here (step :: more) place
  | follow {links here step more place target} : t.node? here = some .directory → IsNameStep step →
      t.node? (here ++ [step]) = some (.link target) → (Path.isAbsolute target = true → confinement = none) →
      Leads t confinement links (if Path.isAbsolute target then [] else here) (stepsOf target ++ more) place →
      Leads t confinement (links + 1) here (step :: more) place

variable {t t' : FileTree} {confinement : Option Location} {links : Nat} {here place : Location} {steps : List String}

theorem leads_of_walkTo {onLink : Location → List String → Except OsError Location}
    (linked : ∀ here step target more, t.node? here = some .directory → IsNameStep step →
      t.node? (here ++ [step]) = some (.link target) → (Path.isAbsolute target = true → confinement = none) →
      onLink (if Path.isAbsolute target then [] else here) (stepsOf target ++ more) = .ok place →
      Leads t confinement links here (step :: more) place)
    (led : t.walkTo confinement onLink here steps = .ok place) : Leads t confinement links here steps place := by
  induction steps generalizing here with
  | nil =>
    cases led
    exact .here
  | cons step more ih =>
    rw [walkTo] at led
    split at led
    · cases led
    next directory =>
    have directory := not_not.mp directory
    split at led
    · next dot =>
      subst dot
      exact .stay directory (ih led)
    next notCurrent =>
    split at led
    · next dots =>
      subst dots
      split at led
      · cases led
      · next inside => exact .up directory inside (ih led)
    next notParent =>
    split at led
    · cases led
    next short =>
    have isName : IsNameStep step := ⟨notCurrent, notParent, Nat.le_of_not_lt short⟩
    split at led
    · cases led
    · next target link =>
      cases absolute : Path.isAbsolute target with
      | false =>
        rw [absolute, if_pos (Bool.not_false)] at led
        refine linked here step target more directory isName link (by simp [absolute]) ?_
        rwa [absolute]
      | true =>
        rw [absolute, if_neg (by simp)] at led
        split at led
        · cases led
        · next free =>
          have unconfined : confinement = none := by simpa using free
          refine linked here step target more directory isName link (fun _ => unconfined) ?_
          rwa [absolute]
    · next node solid found =>
      refine .enter directory isName found (fun target link => ?_) (ih led)
      subst link
      exact solid target rfl

/-- A walk that comes to its end has gone on a way. -/
theorem leads_of_walk (led : t.walk confinement links here steps = .ok place) :
    Leads t confinement links here steps place := by
  induction links generalizing here steps with
  | zero =>
    refine leads_of_walkTo (fun here step target more _ _ _ _ further => ?_) led
    cases further
  | succ links ih =>
    refine leads_of_walkTo (fun here step target more directory isName link free further => ?_) led
    exact .follow directory isName link free (ih further)

/-- What a walk does behind a link. -/
def walkOnLink (t : FileTree) (confinement : Option Location) : Nat → Location → List String → Except OsError Location
  | 0 => fun _ _ => .error .linkLoop
  | links + 1 => t.walk confinement links

theorem walk_eq_walkTo (t : FileTree) (confinement : Option Location) (links : Nat) :
    t.walk confinement links = t.walkTo confinement (t.walkOnLink confinement links) := by
  cases links <;> rfl

namespace Leads

theorem walk_eq (leads : Leads t confinement links here steps place) :
    t.walk confinement links here steps = .ok place := by
  induction leads with
  | @here links place => cases links <;> rfl
  | stay directory _ ih =>
    rw [walk_eq_walkTo] at ih ⊢
    rw [walkTo, if_neg (not_not.mpr directory), if_pos rfl]
    exact ih
  | up directory inside _ ih =>
    rw [walk_eq_walkTo] at ih ⊢
    rw [walkTo, if_neg (not_not.mpr directory), if_neg (by decide), if_pos rfl, if_neg inside]
    exact ih
  | @enter links here step more place node directory isName found solid _ ih =>
    rw [walk_eq_walkTo] at ih ⊢
    rw [walkTo, if_neg (not_not.mpr directory), if_neg isName.notCurrent, if_neg isName.notParent,
      if_neg (Nat.not_lt.mpr isName.short), found]
    cases node with
    | link target => exact absurd rfl (solid target)
    | _ => exact ih
  | @follow links here step more place target directory isName link free _ ih =>
    rw [walk_eq_walkTo]
    rw [walkTo, if_neg (not_not.mpr directory), if_neg isName.notCurrent, if_neg isName.notParent,
      if_neg (Nat.not_lt.mpr isName.short), link]
    cases absolute : Path.isAbsolute target with
    | false =>
      rw [absolute] at ih
      simpa [absolute, walkOnLink] using ih
    | true =>
      rw [absolute] at ih
      simpa [absolute, free absolute, walkOnLink] using ih

/-- A place from which a way goes on is a directory, and the place at which it ends is known. -/
theorem node?_eq (leads : Leads t confinement links here steps place)
    (directories : ∀ place, t.node? place = some .directory → t'.node? place = some .directory)
    (final : t'.node? place = t.node? place) : t'.node? here = t.node? here := by
  cases leads with
  | here => exact final
  | stay directory | up directory | enter directory | follow directory => rw [directory, directories here directory]

/-- A way can be gone on behind its end, with the links that are spared for that. -/
theorem append (spare : Nat) {more : List String} {target : Location}
    (leads : Leads t confinement links here steps place)
    (further : ∀ links, Leads t confinement (links + spare) place more target) :
    Leads t confinement (links + spare) here (steps ++ more) target := by
  induction leads with
  | here => exact further _
  | stay directory _ ih => exact .stay directory (ih further)
  | up directory inside _ ih => exact .up directory inside (ih further)
  | enter directory isName found solid _ ih => exact .enter directory isName found solid (ih further)
  | follow directory isName link free _ ih =>
    have gone := ih further
    rw [List.append_assoc] at gone
    rw [Nat.add_right_comm]
    exact .follow directory isName link free gone

/-- A way is still open if more links may be followed, and if it may leave the directory to which it is confined. -/
theorem loosen {more : Nat} {looser : Option Location} (leads : Leads t confinement links here steps place)
    (le : links ≤ more) (isLooser : looser = none ∨ looser = confinement) : Leads t looser more here steps place := by
  induction leads generalizing more with
  | here => exact .here
  | stay directory _ ih => exact .stay directory (ih le)
  | up directory inside _ ih =>
    refine .up directory ?_ (ih le)
    rcases isLooser with rfl | rfl
    · exact nofun
    · exact inside
  | enter directory isName found solid _ ih => exact .enter directory isName found solid (ih le)
  | follow directory isName link free _ ih =>
    obtain ⟨rest, rfl⟩ := Nat.exists_eq_add_of_le' le
    refine .follow directory isName link (fun absolute => ?_) (ih (Nat.le_add_left _ _))
    rcases isLooser with rfl | rfl
    · rfl
    · exact free absolute

theorem mono {more : Nat} (leads : Leads t confinement links here steps place) (le : links ≤ more) :
    Leads t confinement more here steps place :=
  leads.loosen le (Or.inr rfl)

/-- Steps lead to one place only, however many links may be followed. -/
theorem unique {others : Nat} {other : Location} (leads : Leads t confinement links here steps place)
    (leadsToo : Leads t confinement others here steps other) : place = other := by
  have first := (leads.mono (Nat.le_max_left links others)).walk_eq
  have second := (leadsToo.mono (Nat.le_max_right links others)).walk_eq
  exact Except.ok.inj (first.symm.trans second)

theorem unconfined (leads : Leads t confinement links here steps place) : Leads t none links here steps place :=
  leads.loosen (Nat.le_refl links) (Or.inl rfl)

/-- One way after another one is a way, on which the links of both are followed. -/
theorem trans {further : Nat} {more : List String} {target : Location}
    (leads : Leads t confinement links here steps place) (onwards : Leads t confinement further place more target) :
    Leads t confinement (links + further) here (steps ++ more) target :=
  leads.append further fun _ => onwards.mono (Nat.le_add_left _ _)

end Leads

/-- Holds of steps and those of them that are left without some of the single dots. -/
inductive SkipsDots : List String → List String → Prop
  | nil : SkipsDots [] []
  | skip {steps fewer} : SkipsDots steps fewer → SkipsDots ("." :: steps) fewer
  | keep {step steps fewer} : SkipsDots steps fewer → SkipsDots (step :: steps) (step :: fewer)

namespace SkipsDots

variable {fewer more : List String}

theorem append (front : List String) (skips : SkipsDots steps fewer) : SkipsDots (front ++ steps) (front ++ fewer) := by
  induction front with
  | nil => exact skips
  | cons step front ih => exact .keep ih

theorem filter (steps : List String) : SkipsDots steps (steps.filter (· ≠ ".")) := by
  induction steps with
  | nil => exact .nil
  | cons step steps ih =>
    by_cases dot : step = "."
    · subst dot
      exact .skip ih
    · rw [List.filter_cons_of_pos (by simpa using dot)]
      exact .keep ih

theorem of_cons {step : String} (skips : SkipsDots (step :: steps) fewer) (notDot : step ≠ ".") :
    ∃ rest, fewer = step :: rest ∧ SkipsDots steps rest := by
  cases skips with
  | skip => exact absurd rfl notDot
  | keep further => exact ⟨_, rfl, further⟩

/-- Without its single dots a path leads to the same place. -/
theorem leads (leads : Leads t confinement links here steps place) (skips : SkipsDots steps fewer) :
    Leads t confinement links here fewer place := by
  induction leads generalizing fewer with
  | here =>
    cases skips
    exact .here
  | stay directory _ ih =>
    cases skips with
    | skip further => exact ih further
    | keep further => exact .stay directory (ih further)
  | up directory inside _ ih =>
    obtain ⟨rest, rfl, further⟩ := skips.of_cons (by decide)
    exact .up directory inside (ih further)
  | enter directory isName found solid _ ih =>
    obtain ⟨rest, rfl, further⟩ := skips.of_cons isName.notCurrent
    exact .enter directory isName found solid (ih further)
  | follow directory isName link free _ ih =>
    obtain ⟨rest, rfl, further⟩ := skips.of_cons isName.notCurrent
    exact .follow directory isName link free (ih (further.append _))

end SkipsDots

/-- A slash at the end of a path asks for a directory, in one more step. -/
theorem stepsOf_cases (path : String) : stepsOf path = namesOf path ∨ stepsOf path = namesOf path ++ ["."] := by
  unfold stepsOf
  split
  · exact Or.inr rfl
  · exact Or.inl rfl

/-- Holds when the ways through a tree are open in another one: its directories and links stand there as well. What
its files hold may differ, and the other tree may have more of everything. -/
structure KeepsWays (t t' : FileTree) : Prop where
  current : t'.current = t.current
  directory {place : Location} : t.node? place = some .directory → t'.node? place = some .directory
  link {place : Location} {target : String} :
    t.node? place = some (.link target) → t'.node? place = some (.link target)

namespace KeepsWays

theorem add (t : FileTree) (place : Location) (node : Node) : KeepsWays t (t.add place node) where
  current := rfl
  directory stands := by rw [node?_add, stands, Option.some_or]
  link stands := by rw [node?_add, stands, Option.some_or]

theorem leads (ways : KeepsWays t t') (final : t'.node? place = t.node? place)
    (leads : Leads t confinement links here steps place) : Leads t' confinement links here steps place := by
  induction leads with
  | here => exact .here
  | stay directory _ ih => exact .stay (ways.directory directory) (ih final)
  | up directory inside _ ih => exact .up (ways.directory directory) inside (ih final)
  | enter directory isName found solid further ih =>
    have stands := (further.node?_eq (fun _ => ways.directory) final).trans found
    exact .enter (ways.directory directory) isName stands solid (ih final)
  | follow directory isName link free _ ih =>
    exact .follow (ways.directory directory) isName (ways.link link) free (ih final)

theorem walk (ways : KeepsWays t t') (final : t'.node? place = t.node? place)
    (led : t.walk confinement links here steps = .ok place) : t'.walk confinement links here steps = .ok place :=
  (ways.leads final (leads_of_walk led)).walk_eq

theorem start_eq (ways : KeepsWays t t') (path : String) : t'.start path = t.start path := by
  unfold start
  rw [ways.current]

theorem resolve (ways : KeepsWays t t') {path : String} (led : t.resolve path = .ok place)
    (final : t'.node? place = t.node? place) : t'.resolve path = .ok place := by
  unfold FileTree.resolve at led ⊢
  obtain ⟨here, begun, further⟩ := exists_of_bind_eq_ok led
  rw [ways.start_eq, begun]
  exact ways.walk final further

end KeepsWays

end ContractSuite.FileTree
