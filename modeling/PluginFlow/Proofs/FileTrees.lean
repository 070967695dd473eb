import PluginFlow.Files.Tree

/-!
What operations on a tree do to its files. A path keeps its meaning as long as the directories on
its way stay, bytes that are added to a file are read behind the ones before, and a log that was
opened can be read and holds what it held.
-/

namespace PluginFlow.FileTree

variable {t t' : FileTree} {here names target : List String} {path : String} {bytes : List UInt8}

theorem entry?_put (t : FileTree) (here : List String) (e : FileEntry) (names : List String) :
    entry? (t.put here e) names =
      if names.isEmpty then some .directory
      else if key names = key here then some e else t.entry? names := by
  unfold entry? put
  split
  · rfl
  · rw [KeyMap.get?_insert]

/-- Names with one key have one entry. -/
theorem entry?_congr (same : key names = key here) (named : names ≠ []) (named' : here ≠ []) :
    t.entry? names = t.entry? here := by
  unfold entry?
  rw [if_neg (by simpa using named), if_neg (by simpa using named'), same]

theorem ne_nil_of_free (free : t.entry? here ≠ some .directory) : here ≠ [] := by
  rintro rfl
  exact free rfl

/-! ### Paths -/

/-- All directories of a tree are directories of another one. -/
structure Keeps (t t' : FileTree) : Prop where
  working : t'.working = t.working
  directories : ∀ names, t.entry? names = some .directory → t'.entry? names = some .directory

theorem keeps_put (free : t.entry? here ≠ some .directory) (e : FileEntry) :
    Keeps t (t.put here e) where
  working := rfl
  directories names there := by
    rw [entry?_put]
    split
    · rfl
    · rename_i named
      rw [if_neg, there]
      intro same
      rw [entry?_congr same (by simpa using named) (ne_nil_of_free free)] at there
      exact free there

theorem Keeps.follow (keeps : Keeps t t') {parts : List String}
    (found : t.follow here parts = .ok target) : t'.follow here parts = .ok target := by
  fun_induction t.follow here parts with
  | case1 here => exact found
  | case2 here rest ih => exact ih found
  | case3 here rest ih => exact ih found
  | case4 here rest ih => exact ih found
  | case5 here name empty point up =>
    rw [FileTree.follow.eq_5 _ _ _ empty point up]
    exact found
  | case6 here name rest empty point up more there ih =>
    rw [FileTree.follow.eq_6 _ _ _ _ empty point up more, keeps.directories _ there]
    exact ih found
  | case7 => cases found
  | case8 => cases found

theorem Keeps.locate (keeps : Keeps t t') (found : t.locate path = .ok target) :
    t'.locate path = .ok target := by
  unfold FileTree.locate at found ⊢
  split at found
  case isTrue => cases found
  case isFalse named =>
    rw [if_neg named, keeps.working]
    exact keeps.follow found

/-! ### Files -/

theorem read_eq_ok_iff :
    t.read path = .ok bytes ↔
      ∃ here, t.locate path = .ok here ∧ t.entry? here = some (.file bytes) := by
  unfold read find
  cases located : t.locate path with
  | error f => simp [bind, Except.bind]
  | ok here =>
    simp only [bind, Except.bind]
    rcases there : t.entry? here with _ | _ | old
    all_goals simp [throw, throwThe, MonadExceptOf.throw, pure, Except.pure, there]

/-- What is put where a path leads is read there. -/
theorem read_put (found : t.locate path = .ok here) (free : t.entry? here ≠ some .directory)
    (bytes : List UInt8) : (t.put here (.file bytes)).read path = .ok bytes := by
  refine read_eq_ok_iff.2 ⟨here, (keeps_put free _).locate found, ?_⟩
  rw [entry?_put, if_neg (by simpa using ne_nil_of_free free), if_pos rfl]

/-- Bytes are added behind those of a file. -/
theorem read_append {old : List UInt8} (h : t.read path = .ok old) (bytes : List UInt8) :
    (t.append path bytes).read path = .ok (old ++ bytes) := by
  obtain ⟨here, found, there⟩ := read_eq_ok_iff.1 h
  have free : t.entry? here ≠ some .directory := by rw [there]; nofun
  rw [append, found]
  simp only [there]
  exact read_put found free _

/-! ### Opening of a log -/

/-- All files of a tree are files of another one, under the same paths and with the same bytes. -/
def Extends (t t' : FileTree) : Prop :=
  ∀ path bytes, t.read path = .ok bytes → t'.read path = .ok bytes

theorem Extends.refl (t : FileTree) : Extends t t := fun _ _ h => h

theorem Extends.trans {t'' : FileTree} (h : Extends t t') (h' : Extends t' t'') : Extends t t'' :=
  fun path bytes read => h' path bytes (h path bytes read)

/-- A new entry leaves all files as they are. -/
theorem extends_put (new : t.entry? here = none) (e : FileEntry) : Extends t (t.put here e) := by
  intro path bytes h
  obtain ⟨target, found, there⟩ := read_eq_ok_iff.1 h
  have free : t.entry? here ≠ some .directory := by rw [new]; nofun
  have named : t.entry? target ≠ some .directory := by rw [there]; nofun
  refine read_eq_ok_iff.2 ⟨target, (keeps_put free e).locate found, ?_⟩
  rw [entry?_put, if_neg (by simpa using ne_nil_of_free named), if_neg, there]
  intro same
  rw [entry?_congr same (ne_nil_of_free named) (ne_nil_of_free free), new] at there
  cases there

theorem extends_makeDirectory (h : t.makeDirectory path = .ok t') : Extends t t' := by
  unfold makeDirectory at h
  cases located : t.locate path with
  | error f =>
    rw [located] at h
    cases h
  | ok here =>
    cases there : t.entry? here with
    | some e =>
      simp only [located, bind, Except.bind, there] at h
      cases h
    | none =>
      simp only [located, bind, Except.bind, there] at h
      cases h
      exact extends_put there _

/-- A file that was touched can be read. -/
theorem extends_touch (h : t.touch path = .ok t') :
    Extends t t' ∧ ∃ bytes, t'.read path = .ok bytes := by
  unfold touch at h
  cases located : t.locate path with
  | error f =>
    simp only [located, bind, Except.bind] at h
    split at h <;> cases h
  | ok here =>
    simp only [located, bind, Except.bind] at h
    split at h
    case isTrue => cases h
    case isFalse =>
      cases there : t.entry? here with
      | none =>
        simp only [there] at h
        cases h
        exact ⟨extends_put there _, [], read_put located (by rw [there]; nofun) []⟩
      | some e =>
        cases e with
        | directory =>
          simp only [there] at h
          cases h
        | file bytes =>
          simp only [there] at h
          cases h
          exact ⟨.refl t, bytes, read_eq_ok_iff.2 ⟨here, located, there⟩⟩

theorem run_ensureDirectory (t : FileTree) (path : String) :
    (store.ensureDirectory path).run t =
      match t.makeDirectory path with
      | .ok t' => (.ok (), t')
      | .error f => (if t.isDirectory path then .ok () else .error f, t) := by
  have run : (store.makeDirectory path).run t = (change (t.makeDirectory path)).run t := rfl
  unfold FileStore.ensureDirectory
  rw [StateT.run_bind, run]
  cases t.makeDirectory path <;> rfl

theorem extends_ensureDirectory (t : FileTree) (path : String) :
    Extends t ((store.ensureDirectory path).run t).2 := by
  rw [run_ensureDirectory]
  cases made : t.makeDirectory path with
  | ok t' => exact extends_makeDirectory made
  | error f => exact .refl t

theorem extends_ensureDirectories (t : FileTree) (paths : List String) :
    Extends t ((store.ensureDirectories paths).run t).2 := by
  induction paths generalizing t with
  | nil => exact .refl t
  | cons path above ih =>
    have here := extends_ensureDirectory t path
    unfold FileStore.ensureDirectories
    split
    case isTrue => exact .refl t
    case isFalse =>
      rw [StateT.run_bind]
      generalize (store.ensureDirectory path).run t = first at *
      obtain ⟨outcome, t₁⟩ := first
      cases outcome with
      | ok _ => exact here
      | error f =>
        cases f with
        | notFound =>
          have beyond := ih t₁
          dsimp only [bind, StateT.bind, StateT.run] at beyond ⊢
          generalize store.ensureDirectories above t₁ = second at *
          obtain ⟨outcome, t₂⟩ := second
          cases outcome with
          | ok _ => exact (here.trans beyond).trans (extends_ensureDirectory t₂ path)
          | error f => exact here.trans beyond
        | «exists» => exact here
        | notDirectory => exact here
        | isDirectory => exact here
        | notText => exact here
        | other message => exact here

/-- A log that was opened can be read, and what could be read before has stayed. -/
theorem exists_previous_of_openLog (opened : (store.openLog path).run t = (.ok (), t')) :
    ∃ previous, t'.read path = .ok previous ∧
      ∀ bytes, t.read path = .ok bytes → bytes = previous := by
  have above := extends_ensureDirectories t (Path.above path)
  unfold FileStore.openLog at opened
  rw [StateT.run_bind] at opened
  generalize (store.ensureDirectories (Path.above path)).run t = first at *
  obtain ⟨outcome, t₁⟩ := first
  cases outcome with
  | error f => cases opened
  | ok _ =>
    have touched : (change (t₁.touch path)).run t₁ = (.ok (), t') := opened
    cases made : t₁.touch path with
    | error f =>
      rw [made] at touched
      cases touched
    | ok t₂ =>
      rw [made] at touched
      cases touched
      obtain ⟨kept, previous, read⟩ := extends_touch made
      refine ⟨previous, read, fun bytes held => ?_⟩
      have stays := kept path bytes (above path bytes held)
      rw [read] at stays
      exact (Except.ok.inj stays).symm

end PluginFlow.FileTree
