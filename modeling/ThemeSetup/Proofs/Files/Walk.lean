import ThemeSetup.Files.Resolve

/-!
# Walks in one file system

`Stride` lists the ways in which a walk that does not fail takes a step, and `Trail` is a chain of
walks from link to link; all that is proved of walks and of following components by induction cites
these two (`stride`, `follow_eq_ok`). An answer of the resolution says something about the file
system: a vacant name is in a directory that is there and has no entry of that name
(`resolve_vacant`), and what is asked of a path is asked of the node it leads to (`isFile_iff`,
`isDirectory_iff`). What is written to is found when it is used (`resolve_use_of_write`), and what
is found when it is used is there when an entry of the name is to be made (`resolve_make_of_use`).
-/

namespace ThemeSetup.FileSystem

section
variable {fs : FileSystem} {here location directory : Location} {name : Name} {purpose : Purpose}
  {path : Path} {rest : List Component} {refusal : Option OsError}

/-! ## Steps -/

/-- Walking on from nowhere. -/
theorem walk_nowhere {component : Component} (hhere : fs.node? here = none) :
    fs.walk purpose here (component :: rest) = .error .noEntry := by
  simp only [walk, hhere]

/-- Walking on from something that is no directory. -/
theorem walk_not_directory {node : Node} {component : Component} (hhere : fs.node? here = some node)
    (hnode : ∀ refusal, node ≠ .directory refusal) :
    fs.walk purpose here (component :: rest) = .error .notDirectory := by
  simp only [walk, hhere]

/-- Walking from a directory by a component that stays there. -/
theorem walk_stay {component : Component} (hhere : fs.node? here = some (.directory refusal))
    (hstay : component = .self ∨ component = .endSlash) :
    fs.walk purpose here (component :: rest) = fs.walk purpose here rest := by
  rcases hstay with rfl | rfl <;> simp only [walk, hhere]

/-- Walking from a directory to the one above. -/
theorem walk_up (hhere : fs.node? here = some (.directory refusal)) :
    fs.walk purpose here (.up :: rest) = fs.walk purpose here.dropLast rest := by
  simp only [walk, hhere]

/-- Walking from a directory by a name. -/
theorem walk_name (hhere : fs.node? here = some (.directory refusal)) :
    fs.walk purpose here (.name name :: rest) =
      if purpose = .write ∧ rest = [.endSlash] then .error .isDirectory
      else if nameLimit < name.length then .error .nameTooLong
      else match fs.node? (here ++ [name]) with
        | none => if rest.isEmpty then .ok (.ended (.vacant here name)) else .error .noEntry
        | some (.link target) =>
          if rest.isEmpty && purpose == .make then .ok (.ended (.found (here ++ [name])))
          else .ok (.link here target rest)
        | some _ => fs.walk purpose (here ++ [name]) rest := by
  cases hentry : fs.node? (here ++ [name]) with
  | none => simp only [walk, hhere, hentry]
  | some node => cases node <;> simp only [walk, hhere, hentry]

/-- A walk that goes on and does not fail starts from a directory. -/
theorem walk_directory {component : Component} {reached : Walk}
    (h : fs.walk purpose here (component :: rest) = .ok reached) :
    ∃ refusal, fs.node? here = some (.directory refusal) := by
  cases hhere : fs.node? here with
  | none => simp [walk_nowhere hhere] at h
  | some node =>
    cases node with
    | directory refusal => exact ⟨refusal, rfl⟩
    | file | link | device => simp [walk_not_directory hhere] at h

/-- A directory that is there has no entry of a name, which is not too long. -/
structure Vacancy (fs : FileSystem) (directory : Location) (name : Name) : Prop where
  there : ∃ refusal, fs.node? directory = some (.directory refusal)
  short : name.length ≤ nameLimit
  free : fs.node? (directory ++ [name]) = none

/-- A walk by a vacant name ends there. -/
theorem walk_vacancy (h : Vacancy fs here name) :
    fs.walk purpose here [.name name] = .ok (.ended (.vacant here name)) := by
  obtain ⟨refusal, hhere⟩ := h.there
  rw [walk_name hhere, if_neg (by simp), if_neg (Nat.not_lt.2 h.short), h.free]
  rfl

section
variable {target : Path} (hhere : fs.node? here = some (.directory refusal))
  (hshort : name.length ≤ nameLimit)
include hhere hshort

/-- A walk to make an entry ends at a link of the name. -/
theorem walk_last (hlink : fs.node? (here ++ [name]) = some (.link target)) :
    fs.walk .make here [.name name] = .ok (.ended (.found (here ++ [name]))) := by
  rw [walk_name hhere, if_neg (by simp), if_neg (Nat.not_lt.2 hshort), hlink]
  rfl

/-- A walk comes to a link, which is followed unless an entry of the name is to be made. -/
theorem walk_link (hlink : fs.node? (here ++ [name]) = some (.link target))
    (hgoesOn : ¬ (rest = [] ∧ purpose = .make))
    (hslash : ¬ (purpose = .write ∧ rest = [.endSlash])) :
    fs.walk purpose here (.name name :: rest) = .ok (.link here target rest) := by
  rw [walk_name hhere, if_neg hslash, if_neg (Nat.not_lt.2 hshort), hlink]
  simpa using hgoesOn

/-- A walk goes on from an entry that is no link. -/
theorem walk_entry {node : Node} (hentry : fs.node? (here ++ [name]) = some node)
    (hnode : ∀ target, node ≠ .link target) (hslash : ¬ (purpose = .write ∧ rest = [.endSlash])) :
    fs.walk purpose here (.name name :: rest) = fs.walk purpose (here ++ [name]) rest := by
  rw [walk_name hhere, if_neg hslash, if_neg (Nat.not_lt.2 hshort), hentry]
  cases node with
  | link target => exact absurd rfl (hnode target)
  | file | directory | device => rfl

end

/-- The ways in which a walk that does not fail takes its first step, by the component that it takes
and by where it comes in the end. -/
inductive Stride (fs : FileSystem) (purpose : Purpose) (here : Location) (rest : List Component) :
    Component → Walk → Prop
  /-- It stays in the directory. -/
  | stay {component : Component} {reached : Walk} {refusal : Option OsError}
      (hhere : fs.node? here = some (.directory refusal))
      (hstay : component = .self ∨ component = .endSlash)
      (h : fs.walk purpose here rest = .ok reached) : Stride fs purpose here rest component reached
  /-- It goes to the directory above. -/
  | up {reached : Walk} {refusal : Option OsError}
      (hhere : fs.node? here = some (.directory refusal))
      (h : fs.walk purpose here.dropLast rest = .ok reached) :
      Stride fs purpose here rest .up reached
  /-- It ends at a vacant name. -/
  | vacant {name : Name} (hrest : rest = []) (h : Vacancy fs here name) :
      Stride fs purpose here rest (.name name) (.ended (.vacant here name))
  /-- It ends at a link of the name that an entry is to be made of. -/
  | last {name : Name} {target : Path} {refusal : Option OsError} (hrest : rest = [])
      (hmake : purpose = .make) (hhere : fs.node? here = some (.directory refusal))
      (hshort : name.length ≤ nameLimit)
      (hlink : fs.node? (here ++ [name]) = some (.link target)) :
      Stride fs purpose here rest (.name name) (.ended (.found (here ++ [name])))
  /-- It comes to a link. -/
  | link {name : Name} {target : Path} {refusal : Option OsError}
      (hhere : fs.node? here = some (.directory refusal)) (hshort : name.length ≤ nameLimit)
      (hlink : fs.node? (here ++ [name]) = some (.link target)) :
      Stride fs purpose here rest (.name name) (.link here target rest)
  /-- It goes on from an entry that is no link. -/
  | entry {name : Name} {node : Node} {reached : Walk} {refusal : Option OsError}
      (hhere : fs.node? here = some (.directory refusal)) (hshort : name.length ≤ nameLimit)
      (hentry : fs.node? (here ++ [name]) = some node) (hnode : ∀ target, node ≠ .link target)
      (h : fs.walk purpose (here ++ [name]) rest = .ok reached) :
      Stride fs purpose here rest (.name name) reached

/-- A walk that does not fail takes its first step in one of the ways. -/
theorem stride {component : Component} {reached : Walk}
    (h : fs.walk purpose here (component :: rest) = .ok reached) :
    Stride fs purpose here rest component reached := by
  obtain ⟨refusal, hhere⟩ := walk_directory h
  cases component with
  | self | endSlash =>
    rw [walk_stay hhere (by simp)] at h
    exact .stay hhere (by simp) h
  | up =>
    rw [walk_up hhere] at h
    exact .up hhere h
  | name name =>
    rw [walk_name hhere] at h
    split at h
    · cases h
    split at h
    · cases h
    · next hlong =>
      have hshort := Nat.not_lt.1 hlong
      cases hentry : fs.node? (here ++ [name]) with
      | none =>
        rw [hentry] at h
        dsimp only at h
        split at h
        · next hrest =>
          cases h
          exact .vacant (List.isEmpty_iff.1 hrest) ⟨⟨refusal, hhere⟩, hshort, hentry⟩
        · cases h
      | some node =>
        rw [hentry] at h
        cases node with
        | link target =>
          dsimp only at h
          split at h
          · next hmake =>
            cases h
            simp only [Bool.and_eq_true, List.isEmpty_iff, beq_iff_eq] at hmake
            exact .last hmake.1 hmake.2 hhere hshort hentry
          · cases h
            exact .link hhere hshort hentry
        | file | directory | device => exact .entry hhere hshort hentry nofun h

/-! ## Trails -/

/-- A walk that fails ends the resolution. -/
theorem follow_error {links : Nat} {error : OsError}
    (h : fs.walk purpose here rest = .error error) :
    fs.follow purpose links here rest = .error error := by
  rw [follow.eq_def]
  simp only [h]

/-- A walk to the end is where the resolution leads. -/
theorem follow_ended {links : Nat} {place : Place}
    (h : fs.walk purpose here rest = .ok (.ended place)) :
    fs.follow purpose links here rest = .ok place := by
  rw [follow.eq_def]
  simp only [h]

/-- A link on the way is followed. -/
theorem follow_link {links : Nat} {target : Path} {after : List Component}
    (h : fs.walk purpose here rest = .ok (.link directory target after)) :
    fs.follow purpose (links + 1) here rest =
      fs.follow purpose links (origin directory target) (target.components ++ after) := by
  rw [follow.eq_def]
  simp only [h]

/-- No link is followed beyond the limit. -/
theorem follow_link_zero {target : Path} {after : List Component}
    (h : fs.walk purpose here rest = .ok (.link directory target after)) :
    fs.follow purpose 0 here rest = .error .tooManyLinks := by
  rw [follow.eq_def]
  simp only [h]

/-- How components are followed to a place: by a walk to the end, or by a walk to a link and then
from there. -/
inductive Trail (fs : FileSystem) (purpose : Purpose) (place : Place) :
    Nat → Location → List Component → Prop
  | ended {links : Nat} {here : Location} {components : List Component}
      (hwalk : fs.walk purpose here components = .ok (.ended place)) :
      Trail fs purpose place links here components
  | link {links : Nat} {here directory : Location} {target : Path}
      {components after : List Component}
      (hwalk : fs.walk purpose here components = .ok (.link directory target after))
      (h : Trail fs purpose place links (origin directory target) (target.components ++ after)) :
      Trail fs purpose place (links + 1) here components

/-- Following components that leads to a place does so by a trail. -/
theorem trail {place : Place} : ∀ {links : Nat} {here : Location} {components : List Component},
    fs.follow purpose links here components = .ok place →
      Trail fs purpose place links here components
  | links, here, components, h => by
    cases hwalk : fs.walk purpose here components with
    | error error => simp [follow_error hwalk] at h
    | ok reached =>
      cases reached with
      | ended other =>
        rw [follow_ended hwalk] at h
        cases h
        exact .ended hwalk
      | link directory target after =>
        cases links with
        | zero => simp [follow_link_zero hwalk] at h
        | succ links =>
          rw [follow_link hwalk] at h
          exact .link hwalk (trail h)

/-- Following components leads to a place exactly if there is a trail to it. -/
theorem follow_eq_ok {place : Place} {links : Nat} {components : List Component} :
    fs.follow purpose links here components = .ok place ↔
      Trail fs purpose place links here components := by
  constructor
  · exact trail
  · intro h
    induction h with
    | ended hwalk => exact follow_ended hwalk
    | link hwalk _ ih => rw [follow_link hwalk, ih]

/-- The components that a path is followed by. -/
def stepsFor (purpose : Purpose) (path : Path) : List Component :=
  if purpose = .make then path.steps else path.components

/-- A path leads to a place exactly if it can be looked up at all and its components lead there. -/
theorem resolve_eq_ok {place : Place} :
    fs.resolve purpose path = .ok place ↔
      path.bytes.contains 0 = false ∧ path.bytes.isEmpty = false ∧
        path.bytes.length < pathLimit ∧
        fs.follow purpose linkLimit (origin fs.home path) (stepsFor purpose path) = .ok place := by
  unfold resolve
  rw [← stepsFor]
  split
  · next hzero => simp only [reduceCtorEq, hzero, Bool.true_eq_false, false_and]
  split
  · next hempty => simp only [reduceCtorEq, hempty, Bool.true_eq_false, false_and, and_false]
  split
  · next hlong =>
    simp only [reduceCtorEq, false_iff, not_and]
    omega
  · next hzero hempty hlong =>
    rw [Bool.not_eq_true] at hzero hempty
    simp only [hzero, hempty, true_and, Nat.not_le.1 hlong]
    cases hfollow : fs.follow purpose linkLimit (origin fs.home path) (stepsFor purpose path) with
    | error error => simp only [reduceCtorEq]
    | ok reached => simp only [Except.ok.injEq]

/-! ## Vacant names -/

/-- A walk to a vacant name ends at a vacancy. -/
theorem walk_vacant {components : List Component}
    (h : fs.walk purpose here components = .ok (.ended (.vacant directory name))) :
    Vacancy fs directory name := by
  induction components generalizing here with
  | nil => simp [walk] at h
  | cons component rest ih =>
    cases stride h with
    | stay _ _ h | up _ h | entry _ _ _ _ h => exact ih h
    | vacant _ hvacancy => exact hvacancy

/-- Following components to a vacant name ends at a vacancy. -/
theorem follow_vacant {links : Nat} {components : List Component}
    (h : fs.follow purpose links here components = .ok (.vacant directory name)) :
    Vacancy fs directory name := by
  rw [follow_eq_ok] at h
  induction h with
  | ended hwalk => exact walk_vacant hwalk
  | link _ _ ih => exact ih

/-- A vacant name that a path leads to is a vacancy. -/
theorem resolve_vacant (h : fs.resolve purpose path = .ok (.vacant directory name)) :
    Vacancy fs directory name :=
  follow_vacant (resolve_eq_ok.1 h).2.2.2

/-! ## What a path leads to -/

/-- A path leads to a regular file. -/
theorem isFile_iff : fs.isFile path = true ↔
    ∃ location mode content, fs.resolve .use path = .ok (.found location) ∧
      fs.node? location = some (.file mode content) := by
  unfold isFile target?
  constructor
  · intro h
    split at h
    · next node hnode =>
      split at hnode
      · next location hfound =>
        cases node with
        | file mode content => exact ⟨location, mode, content, hfound, hnode⟩
        | directory | link | device => cases h
      · cases hnode
    · cases h
  · rintro ⟨location, mode, content, hfound, hnode⟩
    simp only [hfound, hnode, Node.isFile]

/-- A path leads to a directory. -/
theorem isDirectory_iff : fs.isDirectory path = true ↔
    ∃ location refusal, fs.resolve .use path = .ok (.found location) ∧
      fs.node? location = some (.directory refusal) := by
  unfold isDirectory target?
  constructor
  · intro h
    split at h
    · next node hnode =>
      split at hnode
      · next location hfound =>
        cases node with
        | directory refusal => exact ⟨location, refusal, hfound, hnode⟩
        | file | link | device => cases h
      · cases hnode
    · cases h
  · rintro ⟨location, refusal, hfound, hnode⟩
    simp only [hfound, hnode, Node.isDirectory]

/-! ## One path for several purposes -/

/-- A walk to write a file is a walk to use it. -/
theorem walk_use_of_write {reached : Walk} {components : List Component}
    (h : fs.walk .write here components = .ok reached) :
    fs.walk .use here components = .ok reached := by
  induction components generalizing here with
  | nil => exact h
  | cons component rest ih =>
    cases stride h with
    | stay hhere hstay h =>
      rw [walk_stay hhere hstay]
      exact ih h
    | up hhere h =>
      rw [walk_up hhere]
      exact ih h
    | vacant hrest hvacancy =>
      rw [hrest]
      exact walk_vacancy hvacancy
    | last _ hmake => cases hmake
    | link hhere hshort hlink => exact walk_link hhere hshort hlink (by simp) (by simp)
    | entry hhere hshort hentry hnode h =>
      rw [walk_entry hhere hshort hentry hnode (by simp)]
      exact ih h

/-- Following components to write a file is following them to use it. -/
theorem follow_use_of_write {place : Place} {links : Nat} {components : List Component}
    (h : fs.follow .write links here components = .ok place) :
    fs.follow .use links here components = .ok place := by
  rw [follow_eq_ok] at h ⊢
  induction h with
  | ended hwalk => exact .ended (walk_use_of_write hwalk)
  | link hwalk _ ih => exact .link (walk_use_of_write hwalk) ih

/-- Where a path leads to write a file is where it leads to use it. -/
theorem resolve_use_of_write {place : Place} (h : fs.resolve .write path = .ok place) :
    fs.resolve .use path = .ok place := by
  rw [resolve_eq_ok] at h ⊢
  exact ⟨h.1, h.2.1, h.2.2.1, follow_use_of_write h.2.2.2⟩

/-- What comes after the components that an entry is made by: nothing, or a slash. -/
inductive Tail : List Component → Prop
  | none : Tail []
  | slash : Tail [.endSlash]

/-- The components that a path is used by are those that an entry is made by, and a tail. -/
theorem components_eq_steps (path : Path) :
    ∃ tail, Tail tail ∧ path.components = path.steps ++ tail := by
  unfold Path.components
  split
  · exact ⟨_, .slash, rfl⟩
  · exact ⟨[], .none, by simp⟩

/-- A walk to what is there finds it, or a link to it, when an entry is to be made. -/
theorem walk_make_of_use {components tail : List Component} {reached : Walk}
    (h : fs.walk .use here (components ++ tail) = .ok reached) :
    (∃ found, fs.walk .make here components = .ok (.ended (.found found))) ∨
    (∃ directory name, reached = .ended (.vacant directory name)) ∨
    ∃ directory target after, reached = .link directory target (after ++ tail) ∧
      fs.walk .make here components = .ok (.link directory target after) := by
  induction components generalizing here with
  | nil => exact .inl ⟨here, rfl⟩
  | cons component rest ih =>
    rw [List.cons_append] at h
    cases stride h with
    | stay hhere hstay h =>
      rw [walk_stay hhere hstay]
      exact ih h
    | up hhere h =>
      rw [walk_up hhere]
      exact ih h
    | vacant => exact .inr (.inl ⟨_, _, rfl⟩)
    | last _ hmake => cases hmake
    | link hhere hshort hlink =>
      cases rest with
      | nil => exact .inl ⟨_, walk_last hhere hshort hlink⟩
      | cons next rest =>
        exact .inr (.inr ⟨here, _, next :: rest, rfl,
          walk_link hhere hshort hlink (by simp) (by simp)⟩)
    | entry hhere hshort hentry hnode h =>
      rw [walk_entry hhere hshort hentry hnode (by simp)]
      exact ih h

/-- Following components to what is there finds something when an entry is to be made. -/
theorem follow_make_of_use {links : Nat} {components tail : List Component}
    (h : fs.follow .use links here (components ++ tail) = .ok (.found location)) :
    ∃ found, fs.follow .make links here components = .ok (.found found) := by
  rw [follow_eq_ok] at h
  generalize hwhole : components ++ tail = whole at h
  induction h generalizing components with
  | ended hwalk =>
    subst hwhole
    rcases walk_make_of_use hwalk with ⟨found, hfound⟩ | ⟨_, _, hvacant⟩ | ⟨_, _, _, hlink, -⟩
    · exact ⟨found, follow_ended hfound⟩
    · cases hvacant
    · cases hlink
  | link hwalk _ ih =>
    subst hwhole
    rcases walk_make_of_use hwalk with ⟨found, hfound⟩ | ⟨_, _, hvacant⟩ | ⟨_, _, _, hlink, hmake⟩
    · exact ⟨found, follow_ended hfound⟩
    · cases hvacant
    · cases hlink
      rw [follow_link hmake]
      exact ih (List.append_assoc _ _ _)

/-- No entry can be made where a path leads to something. -/
theorem resolve_make_of_use (h : fs.resolve .use path = .ok (.found location)) :
    ∃ found, fs.resolve .make path = .ok (.found found) := by
  rw [resolve_eq_ok] at h
  obtain ⟨hzero, hempty, hlong, hfollow⟩ := h
  obtain ⟨tail, -, hcomponents⟩ := components_eq_steps path
  rw [stepsFor, if_neg (by simp), hcomponents] at hfollow
  obtain ⟨found, hfound⟩ := follow_make_of_use hfollow
  exact ⟨found, resolve_eq_ok.2 ⟨hzero, hempty, hlong, hfound⟩⟩

end

end ThemeSetup.FileSystem
