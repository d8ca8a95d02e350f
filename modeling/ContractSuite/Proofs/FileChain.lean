import ContractSuite.Config.File
import ContractSuite.Proofs.FileTree.Ways
import Mathlib.Data.List.Nodup
import Mathlib.Data.List.Perm.Subperm

namespace ContractSuite

namespace Config

open FileTree (Location KeepsWays)

variable {t t' : FileTree} {place base : Location} {record : Record}

theorem readRecord_congr (same : t'.node? place = t.node? place) : readRecord t' place = readRecord t place := by
  unfold readRecord FileTree.textAt FileTree.bytesAt
  rw [same]

theorem isRegular_congr (same : t'.node? place = t.node? place) : isRegular t' place = isRegular t place := by
  unfold isRegular
  rw [same]

theorem extended?_eq_ok_none_iff : extended? t place record = .ok none ↔ record.get? "extends" = none := by
  unfold extended?
  cases record.get? "extends" with
  | none => simp
  | some value =>
    cases value with
    | text target =>
      by_cases empty : target = ""
      · simp [empty]
      · cases led : t.resolve (Path.join (FileTree.locationText place.dropLast) target) with
        | error error => simp [empty, led]
        | ok there => by_cases regular : isRegular t there = true <;> simp [empty, led, regular]
    | _ => simp

theorem extended?_eq_ok_some_iff :
    extended? t place record = .ok (some base) ↔
      ∃ target, record.get? "extends" = some (.text target) ∧ target ≠ "" ∧
        t.resolve (Path.join (FileTree.locationText place.dropLast) target) = .ok base ∧ isRegular t base = true := by
  unfold extended?
  cases record.get? "extends" with
  | none => simp
  | some value =>
    cases value with
    | text target =>
      by_cases empty : target = ""
      · simp [empty]
      · cases led : t.resolve (Path.join (FileTree.locationText place.dropLast) target) with
        | error error => simp [empty, led]
        | ok there =>
          by_cases regular : isRegular t there = true
          · have found : there = base → isRegular t base = true := fun same => same ▸ regular
            simpa [empty, led, regular] using found
          · rw [Bool.not_eq_true] at regular
            have refused : there = base → isRegular t base = false := fun same => same ▸ regular
            simpa [empty, led, regular] using refused
    | _ => simp

theorem extended?_eq_some (ways : KeepsWays t t') (extended : extended? t place record = .ok (some base))
    (same : t'.node? base = t.node? base) : extended? t' place record = .ok (some base) := by
  obtain ⟨target, named, nonEmpty, led, regular⟩ := extended?_eq_ok_some_iff.mp extended
  rw [← isRegular_congr same] at regular
  exact extended?_eq_ok_some_iff.mpr ⟨target, named, nonEmpty, ways.resolve led same, regular⟩

/-- The files that are read for a file, which comes first, and the record that they make up. -/
inductive ReadThrough (t : FileTree) : Location → List Location → Record → Prop
  | alone {place : Location} {record : Record} : readRecord t place = .ok record →
      extended? t place record = .ok none → ReadThrough t place [place] record
  | extend {place base : Location} {files : List Location} {record lower : Record} :
      readRecord t place = .ok record → extended? t place record = .ok (some base) →
      ReadThrough t base files lower → ReadThrough t place (place :: files) (record.laidOver lower)

/-- A file is read once, and the file that it extends is read behind it. -/
theorem readChain_succ_eq_ok_iff {bound : Nat} {chain : List Location} :
    readChain t (bound + 1) chain place = .ok record ↔ place ∉ chain ∧ ∃ top, readRecord t place = .ok top ∧
      (extended? t place top = .ok none ∧ top = record ∨
        ∃ base lower, extended? t place top = .ok (some base) ∧
          readChain t bound (chain ++ [place]) base = .ok lower ∧ top.laidOver lower = record) := by
  rw [readChain]
  by_cases again : place ∈ chain
  · simp [again]
  rw [if_neg (by simpa using again)]
  simp only [again, not_false_eq_true, true_and, bind, Except.bind]
  cases readRecord t place with
  | error cause => simp
  | ok top =>
    cases further : extended? t place top with
    | error cause => simp [further]
    | ok base? =>
      cases base? with
      | none => simp [further, pure, Except.pure]
      | some base => cases beneath : readChain t bound (chain ++ [place]) base <;> simp [further, beneath, pure, Except.pure]

theorem readThrough_of_readChain {bound : Nat} {chain : List Location}
    (read : readChain t bound chain place = .ok record) :
    ∃ files, ReadThrough t place files record ∧ files.Nodup ∧ ∀ file ∈ files, file ∉ chain := by
  induction bound generalizing chain place record with
  | zero => cases read
  | succ bound ih =>
    obtain ⟨fresh, top, here, ⟨further, rfl⟩ | ⟨base, lower, further, beneath, rfl⟩⟩ := readChain_succ_eq_ok_iff.mp read
    · exact ⟨[place], .alone here further, List.nodup_singleton place, by simpa using fresh⟩
    · obtain ⟨files, through, distinct, apart⟩ := ih beneath
      simp only [List.mem_append, List.mem_singleton, not_or] at apart
      refine ⟨place :: files, .extend here further through, ?_, ?_⟩
      · exact List.nodup_cons.mpr ⟨fun again => (apart place again).2 rfl, distinct⟩
      · exact List.forall_mem_cons.mpr ⟨fresh, fun file member => (apart file member).1⟩

namespace ReadThrough

variable {files : List Location}

/-- A bound on the number of files does not matter as long as they fit. -/
theorem readChain_eq (through : ReadThrough t place files record) (distinct : files.Nodup) {bound : Nat}
    (fits : files.length ≤ bound) {chain : List Location} (apart : ∀ file ∈ files, file ∉ chain) :
    readChain t bound chain place = .ok record := by
  -- The bound falls with the files that are left, and the chain grows by the file that is read.
  induction through generalizing bound chain with
  | @alone place record here further =>
    obtain ⟨bound, rfl⟩ := Nat.exists_eq_add_of_le' fits
    have fresh := apart place List.mem_cons_self
    exact readChain_succ_eq_ok_iff.mpr ⟨fresh, record, here, .inl ⟨further, rfl⟩⟩
  | @extend place base files top lower here further through ih =>
    obtain ⟨bound, rfl⟩ := Nat.exists_eq_add_of_le' (Nat.le_of_add_left_le fits)
    rw [List.forall_mem_cons] at apart
    rw [List.nodup_cons] at distinct
    have fewer : files.length ≤ bound := Nat.le_of_succ_le_succ fits
    have below : ∀ file ∈ files, file ∉ chain ++ [place] := by
      intro file member again
      rcases List.mem_append.mp again with before | now
      · exact apart.2 file member before
      · rw [List.mem_singleton] at now
        exact distinct.1 (now ▸ member)
    have beneath := ih distinct.2 fewer below
    exact readChain_succ_eq_ok_iff.mpr ⟨apart.1, top, here, .inr ⟨base, lower, further, beneath, rfl⟩⟩

theorem place_mem (through : ReadThrough t place files record) : place ∈ files := by
  cases through <;> exact List.mem_cons_self

theorem isRegular (through : ReadThrough t place files record) (regular : Config.isRegular t place = true) :
    ∀ file ∈ files, Config.isRegular t file = true := by
  induction through with
  | alone => simpa using regular
  | extend _ further _ ih =>
    obtain ⟨_, _, _, _, baseRegular⟩ := extended?_eq_ok_some_iff.mp further
    exact List.forall_mem_cons.mpr ⟨regular, ih baseRegular⟩

/-- A tree in which the files are the same and the ways to them are open has them read alike. -/
theorem frame (through : ReadThrough t place files record) (ways : KeepsWays t t')
    (same : ∀ file ∈ files, t'.node? file = t.node? file) : ReadThrough t' place files record := by
  induction through with
  | alone here further =>
    have same := same _ List.mem_cons_self
    rw [extended?_eq_ok_none_iff] at further
    exact .alone ((readRecord_congr same).trans here) (extended?_eq_ok_none_iff.mpr further)
  | extend here further through ih =>
    obtain ⟨same, others⟩ := List.forall_mem_cons.mp same
    have baseSame := others _ through.place_mem
    exact .extend ((readRecord_congr same).trans here) (extended?_eq_some ways further baseSame) (ih others)

end ReadThrough

theorem node?_isSome_of_isRegular (regular : isRegular t place = true) : (t.node? place).isSome = true := by
  unfold isRegular at regular
  cases stands : t.node? place with
  | none => rw [stands] at regular; cases regular
  | some node => rfl

/-- A file stands at no location but those of the nodes. -/
theorem mem_nodes_of_isRegular (regular : isRegular t place = true) : place ∈ t.nodes.map Prod.fst := by
  by_contra absent
  have nothing : t.nodes.lookup place = none := by
    rw [List.lookup_eq_none_iff]
    intro entry member
    rw [bne_iff_ne]
    rintro rfl
    exact absent (List.mem_map_of_mem member)
  unfold isRegular FileTree.node? at regular
  rw [nothing] at regular
  by_cases root : place = [] <;> simp [root] at regular

theorem length_le_of_isRegular {files : List Location} (distinct : files.Nodup)
    (regular : ∀ file ∈ files, isRegular t file = true) : files.length ≤ t.nodes.length := by
  have inside : files ⊆ t.nodes.map Prod.fst := fun file member => mem_nodes_of_isRegular (regular file member)
  have fewer := (distinct.subperm inside).length_le
  rwa [List.length_map] at fewer

/-- Holds when a path leads to a file which, together with the files that it extends, makes up a record. All of these
are files, each of them is read once, and the one that the path leads to comes first. -/
structure Loads (t : FileTree) (path : String) (files : List Location) (record : Record) : Prop where
  through : ∃ place, t.resolve path = .ok place ∧ ReadThrough t place files record
  distinct : files.Nodup
  regular : ∀ file ∈ files, isRegular t file = true

theorem readFile?_eq_ok_some_iff {path : String} :
    readFile? t path = .ok (some record) ↔ ∃ files, Loads t path files record := by
  constructor
  · intro read
    unfold readFile? at read
    split at read
    · split at read <;> cases read
    next place led =>
    split at read
    · next regular =>
      cases chain : readChain t (t.nodes.length + 1) [] place with
      | error cause => rw [chain] at read; cases read
      | ok found =>
        rw [chain] at read
        cases read
        obtain ⟨files, through, distinct, _⟩ := readThrough_of_readChain chain
        exact ⟨files, ⟨place, led, through⟩, distinct, through.isRegular regular⟩
    · cases read
  · rintro ⟨files, ⟨place, led, through⟩, distinct, regular⟩
    have fits := length_le_of_isRegular distinct regular
    have chain : readChain t (t.nodes.length + 1) [] place = .ok record :=
      through.readChain_eq distinct (Nat.le_succ_of_le fits) (by simp)
    unfold readFile?
    rw [led]
    dsimp only
    rw [if_pos (regular place through.place_mem), chain]
    rfl

/-- What a path leads to is the same in every tree that has the same files and the same ways to them. -/
theorem Loads.frame {path : String} {files : List Location} (loads : Loads t path files record)
    (ways : KeepsWays t t') (same : ∀ file ∈ files, t'.node? file = t.node? file) : Loads t' path files record := by
  obtain ⟨place, led, through⟩ := loads.through
  refine ⟨⟨place, ways.resolve led (same place through.place_mem), through.frame ways same⟩, loads.distinct, ?_⟩
  intro file member
  rw [isRegular_congr (same file member)]
  exact loads.regular file member

end Config

end ContractSuite
