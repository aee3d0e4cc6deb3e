import ThemeSetup.Proofs.Files.Walk

/-!
# File systems that grow

Nothing that an installation does removes an entry or changes its kind: `FileSystem.Grows` relates
a file system to one in which every node is still there, a file perhaps with another mode and
content. An answer of the path resolution that does not rest on a missing entry stays the same
(`Grows.resolve`): what was found is found at the same location, and every error but the one for a
missing entry is made again. A name that was vacant and has an entry now is found
(`Grows.resolve_reached_file`, `Grows.resolve_reached_directory`).
-/

namespace ThemeSetup

/-- Two nodes of one kind: files may differ in mode and content, other nodes are equal. -/
inductive Node.Alike : Node → Node → Prop
  | file {mode mode' : Mode} {content content' : Bytes} :
      Alike (.file mode content) (.file mode' content')
  | same {node : Node} : Alike node node

/-- Being of one kind goes along a chain. -/
theorem Node.Alike.trans {a b c : Node} (hab : a.Alike b) (hbc : b.Alike c) : a.Alike c := by
  cases hab with
  | same => exact hbc
  | file => cases hbc <;> exact .file

/-- What is no link is of one kind with no link. -/
theorem Node.Alike.ne_link {a b : Node} (h : a.Alike b) (ha : ∀ target, a ≠ .link target)
    (target : Path) : b ≠ .link target := by
  cases h with
  | file => exact nofun
  | same => exact ha target

namespace FileSystem

/-- Every node of the first file system is in the second, a file perhaps with another mode and
content, and the directory at hand is the same. -/
structure Grows (fs later : FileSystem) : Prop where
  home : later.home = fs.home
  keeps : ∀ {location : Location} {node : Node}, fs.node? location = some node →
    ∃ kept, later.node? location = some kept ∧ node.Alike kept

section
variable {fs later : FileSystem} {location : Location} {purpose : Purpose} {path : Path}

@[simp]
theorem Grows.refl (fs : FileSystem) : fs.Grows fs :=
  ⟨rfl, fun h => ⟨_, h, .same⟩⟩

/-- Growth goes along a chain. -/
theorem Grows.trans {last : FileSystem} (h : fs.Grows later) (h' : later.Grows last) :
    fs.Grows last := by
  refine ⟨h'.home.trans h.home, fun hnode => ?_⟩
  obtain ⟨kept, hkept, halike⟩ := h.keeps hnode
  obtain ⟨final, hfinal, halike'⟩ := h'.keeps hkept
  exact ⟨final, hfinal, halike.trans halike'⟩

/-- A file system grows by a node where nothing was. -/
theorem Grows.insert_vacant {node : Node} (h : fs.node? location = none) :
    fs.Grows (fs.insert location node) := by
  refine ⟨rfl, fun {other old} hold => ⟨old, ?_, .same⟩⟩
  rw [node?_insert, if_neg (by rintro rfl; simp [h] at hold), hold]

/-- A file system grows by another mode and content of a file. -/
theorem Grows.insert_file {mode mode' : Mode} {content content' : Bytes}
    (h : fs.node? location = some (.file mode content)) :
    fs.Grows (fs.insert location (.file mode' content')) := by
  refine ⟨rfl, fun {other old} hold => ?_⟩
  by_cases hother : other = location
  · subst hother
    rw [h] at hold
    cases hold
    exact ⟨.file mode' content', by simp, .file⟩
  · exact ⟨old, by simp [hother, hold], .same⟩

/-- A directory stays a directory. -/
theorem Grows.directory {refusal : Option OsError} (h : fs.Grows later)
    (hnode : fs.node? location = some (.directory refusal)) :
    later.node? location = some (.directory refusal) := by
  obtain ⟨kept, hkept, halike⟩ := h.keeps hnode
  cases halike
  exact hkept

/-- A link keeps its target. -/
theorem Grows.link {target : Path} (h : fs.Grows later)
    (hnode : fs.node? location = some (.link target)) :
    later.node? location = some (.link target) := by
  obtain ⟨kept, hkept, halike⟩ := h.keeps hnode
  cases halike
  exact hkept

/-! ## What stays the same -/

/-- A walk in a file system that grew goes as before, unless it met a missing entry. -/
theorem Grows.walk (h : fs.Grows later) (purpose : Purpose) :
    ∀ (components : List Component) (here : Location),
      later.walk purpose here components = fs.walk purpose here components ∨
        fs.walk purpose here components = .error .noEntry ∨
        ∃ directory name,
          fs.walk purpose here components = .ok (.ended (.vacant directory name))
  | [], _ => .inl rfl
  | component :: rest, here => by
    cases hhere : fs.node? here with
    | none => exact .inr (.inl (walk_nowhere hhere))
    | some node =>
      obtain ⟨kept, hkept, halike⟩ := h.keeps hhere
      by_cases hdirectory : ∃ refusal, node = .directory refusal
      · obtain ⟨refusal, rfl⟩ := hdirectory
        have hlater := h.directory hhere
        cases component with
        | self | endSlash =>
          rw [walk_stay hlater (by simp), walk_stay hhere (by simp)]
          exact h.walk purpose rest here
        | up =>
          rw [walk_up hlater, walk_up hhere]
          exact h.walk purpose rest here.dropLast
        | name name =>
          rw [walk_name hlater, walk_name hhere]
          split
          · exact .inl rfl
          split
          · exact .inl rfl
          cases hentry : fs.node? (here ++ [name]) with
          | none =>
            cases rest with
            | nil => exact .inr (.inr ⟨here, name, rfl⟩)
            | cons => exact .inr (.inl rfl)
          | some entry =>
            cases entry with
            | link target => rw [h.link hentry]; exact .inl rfl
            | directory => rw [h.directory hentry]; exact h.walk purpose rest (here ++ [name])
            | file | device =>
              obtain ⟨kept, hkept, halike⟩ := h.keeps hentry
              rw [hkept]
              cases halike <;> exact h.walk purpose rest (here ++ [name])
      · refine .inl ?_
        rw [walk_not_directory hhere (fun r hr => hdirectory ⟨r, hr⟩), walk_not_directory hkept]
        rintro refusal rfl
        cases halike
        exact hdirectory ⟨refusal, rfl⟩

/-- Following components in a file system that grew leads where it led, unless it met a missing
entry. -/
theorem Grows.follow (h : fs.Grows later) (purpose : Purpose) :
    ∀ (links : Nat) (here : Location) (components : List Component),
      later.follow purpose links here components = fs.follow purpose links here components ∨
        fs.follow purpose links here components = .error .noEntry ∨
        ∃ directory name,
          fs.follow purpose links here components = .ok (.vacant directory name)
  | links, here, components => by
    rcases h.walk purpose components here with hsame | hmissing | ⟨directory, name, hvacant⟩
    · cases hwalk : fs.walk purpose here components with
      | error error =>
        exact .inl (by rw [follow_error hwalk, follow_error (hsame.trans hwalk)])
      | ok reached =>
        cases reached with
        | ended place =>
          exact .inl (by rw [follow_ended hwalk, follow_ended (hsame.trans hwalk)])
        | link directory target rest =>
          cases links with
          | zero =>
            exact .inl (by rw [follow_link_zero hwalk, follow_link_zero (hsame.trans hwalk)])
          | succ links =>
            rw [follow_link hwalk, follow_link (hsame.trans hwalk)]
            exact h.follow purpose links _ _
    · exact .inr (.inl (follow_error hmissing))
    · exact .inr (.inr ⟨directory, name, follow_ended hvacant⟩)

/-- A path in a file system that grew leads where it led, unless the resolution met a missing
entry. -/
theorem Grows.resolve (h : fs.Grows later) (purpose : Purpose) (path : Path) :
    later.resolve purpose path = fs.resolve purpose path ∨
      fs.resolve purpose path = .error (.os .noEntry) ∨
      ∃ directory name, fs.resolve purpose path = .ok (.vacant directory name) := by
  simp only [FileSystem.resolve, h.home]
  split
  · exact .inl rfl
  split
  · exact .inl rfl
  split
  · exact .inl rfl
  rcases h.follow purpose linkLimit (origin fs.home path) (stepsFor purpose path) with
    hsame | hmissing | ⟨directory, name, hvacant⟩
  · rw [← stepsFor, hsame]
    exact .inl rfl
  · rw [← stepsFor, hmissing]
    exact .inr (.inl rfl)
  · rw [← stepsFor, hvacant]
    exact .inr (.inr ⟨directory, name, rfl⟩)

/-- What was found is found at the same location. -/
theorem Grows.resolve_found (h : fs.Grows later)
    (hfound : fs.resolve purpose path = .ok (.found location)) :
    later.resolve purpose path = .ok (.found location) := by
  rcases h.resolve purpose path with hsame | hmissing | ⟨directory, name, hvacant⟩
  · rw [hsame, hfound]
  · simp [hfound] at hmissing
  · simp [hfound] at hvacant

/-- A path that led to a regular file still does. -/
theorem Grows.isFile (h : fs.Grows later) (hfile : fs.isFile path = true) :
    later.isFile path = true := by
  obtain ⟨location, mode, content, hfound, hnode⟩ := isFile_iff.1 hfile
  obtain ⟨kept, hkept, halike⟩ := h.keeps hnode
  have hlater := h.resolve_found hfound
  cases halike with
  | file => exact isFile_iff.2 ⟨location, _, _, hlater, hkept⟩
  | same => exact isFile_iff.2 ⟨location, _, _, hlater, hkept⟩

/-- A path that led to a directory still does. -/
theorem Grows.isDirectory (h : fs.Grows later) (hdirectory : fs.isDirectory path = true) :
    later.isDirectory path = true := by
  obtain ⟨location, refusal, hfound, hnode⟩ := isDirectory_iff.1 hdirectory
  exact isDirectory_iff.2 ⟨location, refusal, h.resolve_found hfound, h.directory hnode⟩

/-! ## Names that are no longer vacant -/

/-- A directory is found by a slash too. -/
theorem walk_tail {tail : List Component} {refusal : Option OsError} (htail : Tail tail)
    (hnode : fs.node? location = some (.directory refusal)) :
    fs.walk .use location tail = .ok (.ended (.found location)) := by
  cases htail with
  | none => rfl
  | slash => rw [walk_stay hnode (by simp), FileSystem.walk]

/-- How a walk goes on by further components from where it came. -/
def goOn (fs : FileSystem) (purpose : Purpose) (tail : List Component) :
    Walk → Except OsError Walk
  | .ended (.found location) => fs.walk purpose location tail
  | .ended (.vacant directory name) => fs.walk purpose directory (.name name :: tail)
  | .link directory target after => .ok (.link directory target (after ++ tail))

/-- A walk goes on from where it came before the file system grew: by any components to use what is
there, and by a name for any purpose. Where an entry is to be made a walk may end at a link, and
then it does not go on. -/
theorem Grows.walk_append (h : fs.Grows later) {purpose' : Purpose}
    {components tail : List Component} {here : Location} {reached : Walk}
    (htail : purpose' = .use ∨ ∃ name, tail = [.name name])
    (hwalk : fs.walk purpose here components = .ok reached)
    (hmake : purpose = .make → ∀ location, reached ≠ .ended (.found location)) :
    later.walk purpose' here (components ++ tail) = later.goOn purpose' tail reached := by
  have hslash : ∀ rest, ¬ (purpose' = .write ∧ rest ++ tail = [.endSlash]) := by
    rintro rest ⟨rfl, hrest⟩
    rcases htail with huse | ⟨name, rfl⟩
    · cases huse
    · simpa using congrArg List.getLast? hrest
  have hgoesOn : ∀ rest, ¬ (rest ++ tail = [] ∧ purpose' = .make) := by
    rintro rest ⟨hrest, rfl⟩
    rcases htail with huse | ⟨name, rfl⟩
    · cases huse
    · simp at hrest
  induction components generalizing here with
  | nil =>
    simp only [FileSystem.walk, Except.ok.injEq] at hwalk
    rw [← hwalk, List.nil_append, goOn]
  | cons component rest ih =>
    rw [List.cons_append]
    cases stride hwalk with
    | stay hhere hstay hwalk =>
      rw [walk_stay (h.directory hhere) hstay]
      exact ih hwalk
    | up hhere hwalk =>
      rw [walk_up (h.directory hhere)]
      exact ih hwalk
    | vacant hrest => rw [hrest, List.nil_append, goOn]
    | last _ hpurpose => exact absurd rfl (hmake hpurpose _)
    | link hhere hshort hlink =>
      rw [walk_link (h.directory hhere) hshort (h.link hlink) (hgoesOn rest) (hslash rest), goOn]
    | entry hhere hshort hentry hnode hwalk =>
      obtain ⟨kept, hkept, halike⟩ := h.keeps hentry
      rw [FileSystem.walk_entry (h.directory hhere) hshort hkept (halike.ne_link hnode)
        (hslash rest)]
      exact ih hwalk

section
variable {directory : Location} {name : Name} {node : Node} {tail : List Component}

/-- A name that was vacant leads to the node that is there now, if it is no link. -/
theorem Grows.walk_entry (h : fs.Grows later) (hvacancy : Vacancy fs directory name)
    (hnode : later.node? (directory ++ [name]) = some node)
    (hlink : ∀ target, node ≠ .link target) :
    later.walk .use directory (.name name :: tail) =
      later.walk .use (directory ++ [name]) tail := by
  obtain ⟨refusal, hdirectory⟩ := hvacancy.there
  exact FileSystem.walk_entry (h.directory hdirectory) hvacancy.short hnode hlink (by simp)

/-- Following components that led to a vacant name goes on from the node that is there now. -/
theorem Grows.follow_reached (h : fs.Grows later) {links : Nat} {here : Location}
    {components : List Component}
    (hreached : later.walk .use directory (.name name :: tail) =
      .ok (.ended (.found (directory ++ [name]))))
    (hfollow : fs.follow purpose links here components = .ok (.vacant directory name)) :
    later.follow .use links here (components ++ tail) = .ok (.found (directory ++ [name])) := by
  rw [follow_eq_ok] at hfollow
  induction hfollow with
  | ended hwalk => exact follow_ended ((h.walk_append (.inl rfl) hwalk (by simp)).trans hreached)
  | link hwalk _ ih =>
    rw [follow_link (h.walk_append (.inl rfl) hwalk (by simp)), ← List.append_assoc]
    exact ih

/-- A vacant name that a path led to is found when there is a file of the name. -/
theorem Grows.resolve_reached_file (h : fs.Grows later) {mode : Mode} {content : Bytes}
    (hvacant : fs.resolve .use path = .ok (.vacant directory name))
    (hnode : later.node? (directory ++ [name]) = some (.file mode content)) :
    later.resolve .use path = .ok (.found (directory ++ [name])) := by
  have hreached : later.walk .use directory [.name name] = _ :=
    h.walk_entry (resolve_vacant hvacant) hnode (by simp)
  rw [resolve_eq_ok] at hvacant ⊢
  obtain ⟨hzero, hempty, hlong, hfollow⟩ := hvacant
  have hlater := h.follow_reached hreached hfollow
  rw [List.append_nil] at hlater
  exact ⟨hzero, hempty, hlong, by rw [h.home]; exact hlater⟩

/-- A vacant name that a path led to is found when there is a directory of the name, even by a path
that ends in a slash. -/
theorem Grows.resolve_reached_directory (h : fs.Grows later) {refusal : Option OsError}
    (hvacant : fs.resolve .make path = .ok (.vacant directory name))
    (hnode : later.node? (directory ++ [name]) = some (.directory refusal)) :
    later.resolve .use path = .ok (.found (directory ++ [name])) := by
  obtain ⟨tail, htail, hcomponents⟩ := components_eq_steps path
  have hreached : later.walk .use directory (.name name :: tail) = _ :=
    h.walk_entry (resolve_vacant hvacant) hnode (by simp)
  rw [walk_tail htail hnode] at hreached
  rw [resolve_eq_ok] at hvacant ⊢
  obtain ⟨hzero, hempty, hlong, hfollow⟩ := hvacant
  have hlater := h.follow_reached hreached hfollow
  rw [stepsFor, if_neg (by simp), hcomponents, h.home]
  exact ⟨hzero, hempty, hlong, hlater⟩

end

end

end FileSystem

end ThemeSetup
