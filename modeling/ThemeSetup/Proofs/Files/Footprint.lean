import ThemeSetup.Proofs.Files.Write
import ThemeSetup.Proofs.Path

/-!
# The footprint of a change

`FileSystem.Footprint` bounds what a change may do to a file system. Every node is kept, files keep
their mode and content unless a path that is written to leads to them, and what is new is a
directory of a given name or a file at the end of a path that is written to. Footprints go along a
chain (`Footprint.trans`), since a path that leads somewhere leads there ever after. Making a
directory with its ancestors has a footprint of directories alone (`Footprint.makeDirectories`),
and a copy writes to its target alone (`Footprint.copy`). A change that writes to no path makes
directories and does nothing else (`Footprint.onlyMakes`).
-/

namespace ThemeSetup.FileSystem

/-- What a change may do that makes directories of given names and writes to given paths. -/
structure Footprint (named written : Path → Prop) (fs later : FileSystem) : Prop
    extends Grows fs later where
  /-- A file that no path that is written to leads to keeps its mode and content. -/
  unwritten : ∀ {location : Location} {mode : Mode} {content : Bytes},
    fs.node? location = some (.file mode content) →
    (∀ path, written path → later.resolve .use path ≠ .ok (.found location)) →
    later.node? location = some (.file mode content)
  /-- What is new is a directory of one of the names, or a file that a path that is written to
  leads to. -/
  new : ∀ {location : Location} {node : Node},
    fs.node? location = none → later.node? location = some node →
    (node = .directory none ∧
      ∃ path, named path ∧ later.resolve .use path = .ok (.found location)) ∨
    (node.isFile = true ∧
      ∃ path, written path ∧ later.resolve .use path = .ok (.found location))

/-- A change that makes directories of given names and does nothing else. -/
structure OnlyMakes (named : Path → Prop) (fs later : FileSystem) : Prop where
  home : later.home = fs.home
  /-- What is there stays as it is. -/
  kept : ∀ {location : Location} {node : Node},
    fs.node? location = some node → later.node? location = some node
  /-- What is new is a directory of one of the names. -/
  new : ∀ {location : Location} {node : Node},
    fs.node? location = none → later.node? location = some node →
    node = .directory none ∧ ∃ path, named path ∧ later.resolve .use path = .ok (.found location)

section
variable {named written : Path → Prop} {fs later : FileSystem}

/-- No change has every footprint. -/
theorem Footprint.refl (fs : FileSystem) : Footprint named written fs fs where
  toGrows := .refl fs
  unwritten hfile _ := hfile
  new hnone hnode := by simp [hnone] at hnode

/-- Footprints go along a chain. -/
theorem Footprint.trans {last : FileSystem} (h : Footprint named written fs later)
    (h' : Footprint named written later last) : Footprint named written fs last where
  toGrows := h.toGrows.trans h'.toGrows
  unwritten hfile hno := by
    have hmiddle := h.unwritten hfile fun path hpath hfound =>
      hno path hpath (h'.toGrows.resolve_found hfound)
    exact h'.unwritten hmiddle hno
  new {location node} hnone hnode := by
    cases hmiddle : later.node? location with
    | none => exact h'.new hmiddle hnode
    | some middle =>
      obtain ⟨kept, hkept, halike⟩ := h'.toGrows.keeps hmiddle
      obtain rfl : kept = node := Option.some.inj (hkept.symm.trans hnode)
      rcases h.new hnone hmiddle with ⟨rfl, path, hpath, hfound⟩ | ⟨hfile, path, hpath, hfound⟩
      · cases halike
        exact .inl ⟨rfl, path, hpath, h'.toGrows.resolve_found hfound⟩
      · refine .inr ⟨?_, path, hpath, h'.toGrows.resolve_found hfound⟩
        cases halike with
        | file => rfl
        | same => exact hfile

/-- Whoever may write to more paths may do more. -/
theorem Footprint.mono {written' : Path → Prop} (h : Footprint named written fs later)
    (hwritten : ∀ path, written path → written' path) : Footprint named written' fs later where
  toGrows := h.toGrows
  unwritten hfile hno := h.unwritten hfile fun path hpath => hno path (hwritten path hpath)
  new hnone hnode := (h.new hnone hnode).imp_right fun ⟨hfile, path, hpath, hfound⟩ =>
    ⟨hfile, path, hwritten path hpath, hfound⟩

/-- A change that writes to no path only makes directories. -/
theorem Footprint.onlyMakes (h : Footprint named (fun _ => False) fs later) :
    OnlyMakes named fs later where
  home := h.home
  kept {location node} hnode := by
    obtain ⟨kept, hkept, halike⟩ := h.keeps hnode
    cases halike with
    | file => exact h.unwritten hnode nofun
    | same => exact hkept
  new hnone hnode := by
    rcases h.new hnone hnode with hdirectory | ⟨-, path, hwritten, -⟩
    · exact hdirectory
    · exact hwritten.elim

/-- A file system grows by directories. -/
theorem OnlyMakes.grows (h : OnlyMakes named fs later) : fs.Grows later :=
  ⟨h.home, fun hnode => ⟨_, h.kept hnode, .same⟩⟩

/-- A change that only makes directories writes to no path. -/
theorem OnlyMakes.footprint (h : OnlyMakes named fs later) : Footprint named written fs later where
  toGrows := h.grows
  unwritten hfile _ := h.kept hfile
  new hnone hnode := .inl (h.new hnone hnode)

/-- What is no directory was there before. -/
theorem OnlyMakes.node?_eq {location : Location} {node : Node} (h : OnlyMakes named fs later)
    (hnode : later.node? location = some node) (hother : node ≠ .directory none) :
    fs.node? location = some node := by
  cases hold : fs.node? location with
  | none => exact absurd (h.new hold hnode).1 hother
  | some old => exact (h.kept hold).symm.trans hnode

/-! ## Directories -/

/-- Making a directory makes that one alone. -/
theorem Footprint.makeDirectory {made : FileSystem} {path : Path} (hnamed : named path)
    (h : fs.makeDirectory path = .ok made) : Footprint named written fs made := by
  have hgrows := Grows.makeDirectory h
  obtain ⟨place, hvacant, rfl, hfound⟩ := resolve_makeDirectory h
  refine ⟨hgrows, fun {location _ _} hfile _ => ?_, fun {location node} hnone hnode => ?_⟩
  · rw [node?_insert, if_neg (by rintro rfl; simp [hvacant] at hfile)]
    exact hfile
  · rw [node?_insert] at hnode
    split at hnode
    · next hlocation =>
      cases hnode
      exact .inl ⟨rfl, path, hnamed, hlocation ▸ hfound⟩
    · rw [hnone] at hnode
      cases hnode

/-- An attempt to make a directory makes that one at most. -/
theorem Footprint.attempt {path : Path} (hnamed : named path) :
    Footprint named written fs (fs.attempt path).2 := by
  rw [FileSystem.attempt]
  split
  · next made hmade => exact .makeDirectory hnamed hmade
  · split <;> exact .refl fs

/-- Making the first directory of a list makes directories of the list alone. -/
theorem Footprint.makeLineage : ∀ {paths : List Path} {fs : FileSystem},
    (∀ path ∈ paths, named path) → Footprint named written fs (fs.makeLineage paths).2
  | [], fs, _ => .refl fs
  | path :: ancestors, fs, hnamed => by
    have hpath : named path := hnamed path List.mem_cons_self
    have habove : Footprint named written fs (fs.makeLineage ancestors).2 :=
      Footprint.makeLineage fun path hmem => hnamed path (List.mem_cons_of_mem _ hmem)
    by_cases hempty : path.bytes = []
    · rw [FileSystem.makeLineage, if_pos (by simp [hempty])]
      exact .refl fs
    by_cases hway : fs.makeDirectory path = .error (.os .noEntry)
    · rw [makeLineage_far ancestors hempty hway]
      split
      · next above hlineage => exact hlineage ▸ habove
      · next above hlineage =>
        rw [hlineage] at habove
        exact habove.trans (.attempt hpath)
    · rw [makeLineage_near ancestors hempty hway]
      exact .attempt hpath

/-- Making a directory with its ancestors makes such directories alone. -/
theorem Footprint.makeDirectories {path : Path}
    (hnamed : ∀ ancestor, Path.Ancestor path ancestor → named ancestor) :
    Footprint named written fs (fs.makeDirectories path).2 :=
  .makeLineage fun ancestor hmem => hnamed ancestor (.of_mem_lineage hmem)

/-! ## Copies -/

/-- Writing a file to the sink of a path writes to that path alone. -/
theorem Footprint.insert_sink {location : Location} {path : Path} {mode : Mode} {content : Bytes}
    (hwritten : written path) (h : fs.openSink path = .ok (some location)) :
    Footprint named written fs (fs.insert location (.file mode content)) := by
  have hfound := resolve_insert_sink mode content h
  refine ⟨.insert_sink h, fun {other _ _} hfile hno => ?_, fun {other node} hnone hnode => ?_⟩
  · rw [node?_insert, if_neg (by rintro rfl; exact hno path hwritten hfound)]
    exact hfile
  · rw [node?_insert] at hnode
    split at hnode
    · next hother =>
      cases hnode
      exact .inr ⟨rfl, path, hwritten, hother ▸ hfound⟩
    · rw [hnone] at hnode
      cases hnode

/-- A copy writes to its target alone. -/
theorem Footprint.copy {copied : FileSystem} {source target : Path} {size : Nat}
    (hwritten : written target) (h : Copies fs source target size copied) :
    Footprint named written fs copied := by
  cases h with
  | device => exact .refl fs
  | itself hsource hsink => exact .insert_sink hwritten hsink
  | file hsource hsink => exact .insert_sink hwritten hsink

/-- A copy that is broken off writes to its target alone. -/
theorem Footprint.broken {medium : Medium} {left : FileSystem} {source target : Path}
    (hwritten : written target) (h : Broken medium fs source target left) :
    Footprint named written fs left := by
  cases h with
  | intro _ hsink => exact .insert_sink hwritten hsink

end

end ThemeSetup.FileSystem
