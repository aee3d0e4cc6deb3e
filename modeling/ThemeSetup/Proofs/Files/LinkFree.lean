import ThemeSetup.Proofs.Files.Footprint

/-!
# File systems without links

Where there are no links a path is followed by one walk (`follow_linkFree`). A path that ends in a
name leads to a location that ends in that name (`resolve_found_join`), so files of different names
are different files. A name in a directory that is there is found or vacant by what the directory
has (`resolve_join`).
-/

namespace ThemeSetup.FileSystem

/-- There are no symbolic links. -/
def LinkFree (fs : FileSystem) : Prop :=
  ∀ location target, fs.node? location ≠ some (.link target)

section
variable {fs later : FileSystem} {here there location : Location} {name : Name}
  {purpose : Purpose} {named written : Path → Prop}

/-- What a list of entries gives for a location is an entry. -/
theorem mem_of_nodeIn {node : Node} : ∀ {entries : List (Location × Node)},
    nodeIn location entries = some node → (location, node) ∈ entries
  | (first, old) :: rest, h => by
    rw [nodeIn] at h
    split at h
    · next hlocation =>
      cases h
      exact hlocation ▸ List.mem_cons_self
    · exact List.mem_cons_of_mem _ (mem_of_nodeIn h)

/-- There are no links where no entry is one. -/
theorem linkFree_of_entries (h : ∀ entry ∈ fs.entries, ∀ target, entry.2 ≠ .link target) :
    fs.LinkFree :=
  fun _ target hlink => h _ (mem_of_nodeIn hlink) target rfl

/-- A footprint brings no links. -/
theorem Footprint.linkFree (h : Footprint named written fs later) (hfree : fs.LinkFree) :
    later.LinkFree := by
  intro location target hlink
  cases hnode : fs.node? location with
  | none => rcases h.new hnode hlink with ⟨hdirectory, -⟩ | ⟨hfile, -⟩ <;> contradiction
  | some node =>
    obtain ⟨kept, hkept, halike⟩ := h.toGrows.keeps hnode
    obtain rfl := Option.some.inj (hkept.symm.trans hlink)
    cases halike
    exact hfree location target hnode

/-- No walk comes to a link. -/
theorem walk_linkFree (hfree : fs.LinkFree) {base : Location} {target : Path}
    {components after : List Component} :
    fs.walk purpose here components ≠ .ok (.link base target after) := by
  intro h
  induction components generalizing here with
  | nil => simp [walk] at h
  | cons component rest ih =>
    cases stride h with
    | stay _ _ h | up _ h | entry _ _ _ _ h => exact ih h
    | link _ _ hlink => exact hfree _ _ hlink

/-- Following components is one walk. -/
theorem follow_linkFree (hfree : fs.LinkFree) {links : Nat} {components : List Component}
    {place : Place} : fs.follow purpose links here components = .ok place ↔
      fs.walk purpose here components = .ok (.ended place) := by
  cases hwalk : fs.walk purpose here components with
  | error error => simp [follow_error hwalk]
  | ok reached =>
    cases reached with
    | ended place => simp [follow_ended hwalk]
    | link base target after => exact absurd hwalk (walk_linkFree hfree)

/-- A walk that ends in a name leads to a location that ends in it. -/
theorem walk_found_name {front : List Component}
    (h : fs.walk purpose here (front ++ [.name name]) = .ok (.ended (.found location))) :
    ∃ above, location = above ++ [name] := by
  induction front generalizing here with
  | nil =>
    cases stride h with
    | stay _ hstay => simp at hstay
    | last => exact ⟨here, rfl⟩
    | entry _ _ _ _ h =>
      simp only [walk, Except.ok.injEq, Walk.ended.injEq, Place.found.injEq] at h
      exact ⟨here, h.symm⟩
  | cons component rest ih =>
    rw [List.cons_append] at h
    cases stride h with
    | stay _ _ h | up _ h | entry _ _ _ _ h => exact ih h
    | last hrest => simp at hrest

/-- A path that ends in a name leads to a location that ends in it. -/
theorem resolve_found_join (hfree : fs.LinkFree) {base : Path} (hname : Path.IsName name)
    (hfound : fs.resolve .use (base.join ⟨name⟩) = .ok (.found location)) :
    ∃ above, location = above ++ [name] := by
  obtain ⟨-, -, -, hfollow⟩ := resolve_eq_ok.1 hfound
  obtain ⟨front, hfront⟩ := Path.components_join base hname
  rw [stepsFor, if_neg (by simp), hfront, follow_linkFree hfree] at hfollow
  exact walk_found_name hfollow

/-- Where a name in a directory leads. -/
def entryPlace (fs : FileSystem) (there : Location) (name : Name) : Place :=
  match fs.node? (there ++ [name]) with
  | none => .vacant there name
  | some _ => .found (there ++ [name])

/-- A name in a directory that is there is found or vacant by what the directory has, unless it or
the path is too long. -/
theorem resolve_join {directory : Path} {refusal : Option OsError} (hfree : fs.LinkFree)
    (hd : Path.EndsInName directory) (hname : Path.IsName name) (hmake : purpose ≠ .make)
    (hthere : fs.resolve .use directory = .ok (.found there))
    (hnode : fs.node? there = some (.directory refusal)) :
    fs.resolve purpose (directory.join ⟨name⟩) =
      if pathLimit ≤ (directory.join ⟨name⟩).bytes.length then .error (.os .nameTooLong)
      else if nameLimit < name.length then .error (.os .nameTooLong)
      else .ok (fs.entryPlace there name) := by
  obtain ⟨hzero, -, -, hfollow⟩ := resolve_eq_ok.1 hthere
  rw [stepsFor, if_neg (by simp), follow_linkFree hfree] at hfollow
  have hzero' : (directory.join ⟨name⟩).bytes.contains 0 = false := by
    have hslash : (0 : UInt8) ≠ Path.slash := by decide
    rw [hd.bytes_join hname]
    simp_all [hname.zero_free]
  have hempty : (directory.join ⟨name⟩).bytes.isEmpty = false := by
    rw [hd.bytes_join hname]
    simp
  have horigin : origin fs.home (directory.join ⟨name⟩) = origin fs.home directory := by
    rw [origin, origin, hd.isAbsolute_join hname]
  unfold resolve
  rw [hzero', hempty, if_neg (by simp), if_neg (by simp), if_neg hmake, horigin,
    hd.components_join hname]
  split
  · rfl
  dsimp only
  have hwalk : fs.walk purpose _ (_ ++ [.name name]) = _ :=
    (Grows.refl fs).walk_append (.inr ⟨name, rfl⟩) hfollow (by simp)
  rw [goOn, walk_name hnode, if_neg (by simp)] at hwalk
  split at hwalk
  · next hlong =>
    rw [if_pos hlong, follow_error hwalk]
  · next hlong =>
    rw [if_neg hlong, entryPlace]
    cases hentry : fs.node? (there ++ [name]) with
    | none =>
      rw [hentry] at hwalk
      rw [follow_ended hwalk]
    | some node =>
      rw [hentry] at hwalk
      cases node with
      | link target => exact absurd hentry (hfree _ _)
      | file | directory | device => rw [follow_ended hwalk]

end

end ThemeSetup.FileSystem
