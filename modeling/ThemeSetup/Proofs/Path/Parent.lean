import Mathlib.Data.List.DropRight
import ThemeSetup.Proofs.Path

/-!
# The parent of a path

The parent of a path, if it is not the empty path, stands before a slash in the path, and the last
part that names something comes after that slash (`parts_of_parent?`). So a path starts where its
parent starts (`isAbsolute_of_parent?`), and is followed by following its parent and at least one
component more (`steps_of_parent?`).
-/

namespace ThemeSetup.Path

section
variable {path parent : Path} {front behind : List Bytes}

/-! ## Parts -/

/-- There is no slash in a part. -/
theorem slash_free_of_mem_splitOn :
    ∀ {bytes part : Bytes}, part ∈ bytes.splitOn slash → slash ∉ part
  | [], part, h => by
    rw [List.splitOn_nil, List.mem_singleton] at h
    simp [h]
  | octet :: bytes, part, h => by
    rw [List.splitOn_cons_eq_if_modifyHead] at h
    split at h
    · rcases List.mem_cons.1 h with rfl | h
      · simp
      · exact slash_free_of_mem_splitOn h
    · next hoctet =>
      -- The octet is put before the first of the parts that follow.
      cases hrest : bytes.splitOn slash with
      | nil => exact absurd hrest (List.splitOn_ne_nil _ _)
      | cons first rest =>
        rw [hrest, List.modifyHead_cons, List.mem_cons] at h
        rcases h with rfl | h
        · have hne : slash ≠ octet := fun hslash => hoctet (by simp [hslash])
          have hfirst : slash ∉ first := slash_free_of_mem_splitOn (by rw [hrest]; simp)
          simp [hne, hfirst]
        · exact slash_free_of_mem_splitOn (by rw [hrest]; exact List.mem_cons_of_mem _ h)

/-- A path that is made of parts has a slash between any two of them. -/
theorem bytes_ofParts_append (hfront : front ≠ []) (hbehind : behind ≠ []) :
    (ofParts (front ++ behind)).bytes =
      (ofParts front).bytes ++ slash :: (ofParts behind).bytes := by
  simp only [ofParts]
  induction front with
  | nil => exact absurd rfl hfront
  | cons first rest ih =>
    cases rest with
    | nil => simp [List.intercalate_cons_of_ne_nil hbehind]
    | cons second rest =>
      rw [List.cons_append, List.cons_append, List.intercalate_cons_cons, ← List.cons_append,
        ih (by simp), List.intercalate_cons_cons]
      simp

/-- Parts are those that are left but the last one, then that one, which is not idle, and then what
is dropped. -/
theorem eq_append_of_dropIdleEnd {parts : List Bytes} (h : dropIdleEnd parts ≠ []) :
    ∃ last dropped, isIdle last = false ∧
      parts = (dropIdleEnd parts).dropLast ++ last :: dropped := by
  have hlast : isIdle ((dropIdleEnd parts).getLast h) = false :=
    Bool.eq_false_iff.2 (List.rdropWhile_last_not isIdle parts h)
  have hwhole : dropIdleEnd parts ++ parts.rtakeWhile isIdle = parts :=
    List.rdropWhile_append_rtakeWhile
  refine ⟨_, parts.rtakeWhile isIdle, hlast, ?_⟩
  rw [List.append_cons, List.dropLast_append_getLast h, hwhole]

/-- The parts of a path are those that its parent is made of, and behind them one that is not
idle. The root is made of no part, and is the parent of what is directly in it. -/
theorem parts_of_parent? (h : path.parent? = some parent) (hparent : parent.bytes ≠ []) :
    ∃ front behind, path.parts = front ++ behind ∧ front ≠ [] ∧
      (∃ part ∈ behind, isIdle part = false) ∧
      (parent = ofParts front ∨ front = [[]] ∧ parent = ⟨[slash]⟩) := by
  unfold parent? at h
  split at h
  · cases h
  · next first rest hparts =>
    split at h
    · split at h <;> cases h
      exact absurd rfl hparent
    · next hkept =>
      obtain ⟨last, dropped, hlast, hrest⟩ := eq_append_of_dropIdleEnd hkept
      split at h
      · refine ⟨[first], rest, hparts, by simp, ⟨last, by rw [hrest]; simp, hlast⟩, ?_⟩
        split at h <;> cases h
        · next hfirst => exact .inr ⟨by rw [List.isEmpty_iff.1 hfirst], rfl⟩
        · exact .inl rfl
      · cases h
        obtain ⟨between, hbetween⟩ :
            dropIdleEnd (dropIdleEnd rest).dropLast <+: (dropIdleEnd rest).dropLast :=
          List.rdropWhile_prefix isIdle _
        refine ⟨first :: dropIdleEnd (dropIdleEnd rest).dropLast, between ++ last :: dropped, ?_,
          by simp, ⟨last, by simp, hlast⟩, .inl rfl⟩
        rw [hparts, List.cons_append, ← List.append_assoc, hbetween, ← hrest]

/-! ## Steps -/

/-- A parent is the start of its path. -/
theorem prefix_of_parent? (h : path.parent? = some parent) : parent.bytes <+: path.bytes := by
  by_cases hparent : parent.bytes = []
  · simp [hparent]
  · obtain ⟨front, behind, hparts, hfront, ⟨part, hpart, -⟩, hmade⟩ := parts_of_parent? h hparent
    have hbytes := bytes_ofParts_append hfront (List.ne_nil_of_mem hpart)
    rw [← hparts, ofParts_parts] at hbytes
    rw [hbytes]
    rcases hmade with rfl | ⟨rfl, rfl⟩
    · exact List.prefix_append _ _
    · simp [ofParts]

/-- A path starts where its parent starts. -/
theorem isAbsolute_of_parent? (h : path.parent? = some parent) (hparent : parent.bytes ≠ []) :
    path.isAbsolute = parent.isAbsolute := by
  obtain ⟨behind, hbehind⟩ := prefix_of_parent? h
  rw [isAbsolute, isAbsolute, ← hbehind, List.head?_append_of_ne_nil _ hparent]

/-- A part that is not idle names a component. -/
theorem exists_ofPart? {part : Bytes} (h : isIdle part = false) :
    ∃ component, Component.ofPart? part = some component := by
  have hne : part.isEmpty = false := by
    cases part with
    | nil => exact absurd h (by decide)
    | cons => rfl
  rw [Component.ofPart?, hne, if_neg (by simp)]
  split
  · exact ⟨_, rfl⟩
  split
  · exact ⟨_, rfl⟩
  · exact ⟨_, rfl⟩

/-- Following a path is following its parent and at least one component more. -/
theorem steps_of_parent? (h : path.parent? = some parent) (hparent : parent.bytes ≠ []) :
    ∃ component rest, path.steps = parent.steps ++ component :: rest := by
  obtain ⟨front, behind, hparts, hfront, ⟨part, hpart, hidle⟩, hmade⟩ :=
    parts_of_parent? h hparent
  have hfree : ∀ part ∈ front, slash ∉ part := fun part hmem =>
    slash_free_of_mem_splitOn (show part ∈ path.parts by simp [hparts, hmem])
  have hsteps : parent.steps = front.filterMap Component.ofPart? := by
    rcases hmade with rfl | ⟨rfl, rfl⟩
    · rw [steps, show (ofParts front).parts = front from
        List.splitOn_intercalate slash hfree hfront]
    · decide
  obtain ⟨named, hnamed⟩ := exists_ofPart? hidle
  obtain ⟨component, rest, hbehind⟩ := List.exists_cons_of_ne_nil
    (List.ne_nil_of_mem (List.mem_filterMap.2 ⟨part, hpart, hnamed⟩))
  exact ⟨component, rest, by rw [steps, hparts, List.filterMap_append, hsteps, hbehind]⟩

/-! ## Lineages -/

/-- Paths each of which is followed by its parent. -/
def IsLineage (paths : List Path) : Prop :=
  paths.IsChain fun path parent => path.parent? = some parent

/-- A path and a number of its ancestors are a lineage. -/
theorem isLineage_lineageUpTo : ∀ (count : Nat) (path : Path), IsLineage (lineageUpTo count path)
  | 0, path => .singleton path
  | count + 1, path => by
    rw [lineageUpTo]
    split
    · next parent hparent =>
      have hrest := isLineage_lineageUpTo count parent
      cases count with
      | zero => exact .cons_cons hparent hrest
      | succ count => exact .cons_cons hparent hrest
    · exact .singleton path

end

end ThemeSetup.Path
